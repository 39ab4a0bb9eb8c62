import RiskBoard.Proofs.Push.Delivery

/-!
# When a connection ends

A connection ends when its handshake fails, or with its first report that is no text, or with its
stream (`Connection.EndsAfter`); a stream that ends some time after its last report is one that
reports a close then. The end is read off the reports alone. An attempt at a part of the connection
shows this end or none (`Connection.EndsAfter.attempt_cut`), every attempt at a part that is large
enough shows it (`Connection.EndsAfter.exists_cut`), and nothing else is an end
(`Connection.exists_endsAfter`).
-/

namespace RiskBoard

open Stream' (Seq)

namespace Connection

/-- How long after the opening of a connection its first `n` reports have come. -/
def elapsed (arrivals : Seq Arrival) (n : ℕ) : ℕ := ((arrivals.take n).map (·.after)).sum

/-- A connection ends in this way, so long after the attempt was made: its handshake fails, or the
first report that is no text is a close or a failure, or its stream ends after the last report. -/
inductive EndsAfter : Connection → PushChannel.Ending → ℕ → Prop
  | refused (latency : ℕ) : EndsAfter (.refused latency) .failed latency
  | closed (latency : ℕ) {arrivals : Seq Arrival} (silent : Bool) {n after : ℕ}
    (htexts : ∀ j < n, ∀ x ∈ arrivals.get? j, x.event.isText)
    (h : arrivals.get? n = some ⟨after, .closed⟩) :
    EndsAfter (.opened latency arrivals silent) .closed (latency + elapsed arrivals n + after)
  | failed (latency : ℕ) {arrivals : Seq Arrival} (silent : Bool) {n after : ℕ} {reason : String}
    (htexts : ∀ j < n, ∀ x ∈ arrivals.get? j, x.event.isText)
    (h : arrivals.get? n = some ⟨after, .failed reason⟩) :
    EndsAfter (.opened latency arrivals silent) .failed (latency + elapsed arrivals n + after)
  | ended (latency : ℕ) {arrivals : Seq Arrival} {n : ℕ}
    (htexts : ∀ j < n, ∀ x ∈ arrivals.get? j, x.event.isText) (h : arrivals.get? n = none) :
    EndsAfter (.opened latency arrivals false) .closed (latency + elapsed arrivals n)

end Connection

namespace PushChannel

/-! ### The end of an attempt -/

/-- Texts pass, and listening goes on after the last of them. -/
theorem listen_append (silent : Bool) (time : ℕ) {texts : List Arrival}
    (h : ∀ x ∈ texts, x.event.isText) (rest : List Arrival) :
    (listen silent time (texts ++ rest)).2 =
      (listen silent (time + (texts.map (·.after)).sum) rest).2 := by
  induction texts generalizing time with
  | nil => rfl
  | cons x texts ih =>
    obtain ⟨hx, htexts⟩ := List.forall_mem_cons.mp h
    rw [List.cons_append, listen, List.map_cons, List.sum_cons, ← Nat.add_assoc, ← ih _ htexts]
    cases hevent : x.event with
    | text text => rfl
    | closed | failed => rw [hevent] at hx; cases hx

end PushChannel

namespace Connection

/-- A sequence of which the first reports are texts begins with texts. -/
theorem texts_of_take {arrivals : Seq Arrival} {n : ℕ}
    (h : ∀ j < n, ∀ x ∈ arrivals.get? j, x.event.isText) :
    ∀ x ∈ arrivals.take n, x.event.isText := by
  intro x hx
  obtain ⟨j, hj⟩ := List.getElem?_of_mem hx
  rw [Seq.getElem?_take] at hj
  split_ifs at hj with hjn
  exact h j hjn x hj

theorem take_succ_of_get? {arrivals : Seq Arrival} {n : ℕ} {x : Arrival}
    (h : arrivals.get? n = some x) : arrivals.take (n + 1) = arrivals.take n ++ [x] := by
  induction n generalizing arrivals with
  | zero =>
    obtain ⟨rest, rfl⟩ : ∃ rest, arrivals = Seq.cons x rest := by
      cases arrivals with
      | nil => cases h
      | cons y rest => exact ⟨rest, by rw [← Option.some.inj h]⟩
    rw [Seq.take_succ_cons, Seq.take_zero, Seq.take_zero, List.nil_append]
  | succ n ih =>
    cases arrivals with
    | nil => cases h
    | cons y rest =>
      rw [Seq.take_succ_cons, Seq.take_succ_cons, List.cons_append, ih h]

open PushChannel

variable {c : Connection} {ending : Ending} {d : ℕ}

/-- From some report on, the parts of a connection that ends show its end. -/
theorem EndsAfter.exists_cut (h : c.EndsAfter ending d) :
    ending ≠ .none ∧ ∃ n, ∀ m ≥ n, ∀ time, (attempt time (c.cut m)).2 = (ending, time + d) := by
  obtain ⟨hne, n, hn⟩ : ending ≠ .none ∧ ∃ n, ∀ time,
      (attempt time (c.cut n)).2 = (ending, time + d) := by
    cases h with
    | refused latency => exact ⟨by simp, 0, fun time => rfl⟩
    | @closed latency arrivals silent n after htexts h =>
      refine ⟨by simp, n + 1, fun time => ?_⟩
      rw [cut, attempt, take_succ_of_get? h, listen_append _ _ (texts_of_take htexts),
        PushChannel.listen]
      simp only [elapsed, Nat.add_assoc]
    | @failed latency arrivals silent n after reason htexts h =>
      refine ⟨by simp, n + 1, fun time => ?_⟩
      rw [cut, attempt, take_succ_of_get? h, listen_append _ _ (texts_of_take htexts),
        PushChannel.listen]
      simp only [elapsed, Nat.add_assoc]
    | @ended latency arrivals n htexts h =>
      refine ⟨by simp, n, fun time => ?_⟩
      have htake := listen_append false (time + latency) (texts_of_take htexts) []
      rw [List.append_nil] at htake
      rw [cut, attempt, h]
      exact htake.trans (by rw [PushChannel.listen, elapsed, Nat.add_assoc]; rfl)
  refine ⟨hne, n, fun m hm time => ?_⟩
  -- the part has ended, so a larger one does the same
  rcases attempt_mono time (c.isPart_cut hm) with heq | ⟨hopen, -⟩
  · rw [← heq, hn]
  · rw [hn] at hopen
    exact absurd hopen hne

/-- A part of a connection that ends shows its end or none. -/
theorem EndsAfter.attempt_cut (h : c.EndsAfter ending d) (m time : ℕ) :
    (attempt time (c.cut m)).2.1 = .none ∨ (attempt time (c.cut m)).2 = (ending, time + d) := by
  obtain ⟨-, n, hn⟩ := h.exists_cut
  rcases attempt_mono time (c.isPart_cut (le_max_left m n)) with heq | ⟨hopen, -⟩
  · exact .inr (heq ▸ hn _ (le_max_right m n) time)
  · exact .inl hopen

/-- A connection without an end brings texts only. -/
theorem isText_of_endless {latency : ℕ} {arrivals : Seq Arrival} {silent : Bool}
    (h : ∀ ending d, ¬(opened latency arrivals silent).EndsAfter ending d) (j : ℕ) :
    ∀ x ∈ arrivals.get? j, x.event.isText := by
  induction j using Nat.strong_induction_on with
  | _ j ih =>
    rintro ⟨after, event⟩ hx
    cases event with
    | text => rfl
    | closed => exact absurd (.closed latency silent ih hx) (h _ _)
    | failed => exact absurd (.failed latency silent ih hx) (h _ _)

/-- An end that a part of a connection shows is the end of the connection. -/
theorem exists_endsAfter (c : Connection) {n time : ℕ} (h : (attempt time (c.cut n)).2.1 ≠ .none) :
    ∃ ending d, c.EndsAfter ending d ∧ (attempt time (c.cut n)).2 = (ending, time + d) := by
  obtain ⟨ending, d, hends⟩ : ∃ ending d, c.EndsAfter ending d := by
    by_contra hendless
    simp only [not_exists] at hendless
    cases c with
    | refused latency => exact hendless _ _ (.refused latency)
    | opened latency arrivals silent =>
      -- only texts come, and after them there is more to come, or silence
      have htexts := isText_of_endless hendless
      have hlisten := listen_append ((arrivals.get? n).isSome || silent) (time + latency)
        (texts_of_take fun j (_ : j < n) => htexts j) []
      rw [List.append_nil] at hlisten
      have hsilent : ((arrivals.get? n).isSome || silent) = true := by
        cases hn : arrivals.get? n with
        | some x => rfl
        | none =>
          cases silent with
          | true => rfl
          | false => exact absurd (.ended latency (fun j _ => htexts j) hn) (hendless _ _)
      rw [cut, attempt, hlisten, hsilent] at h
      exact h rfl
  exact ⟨ending, d, hends, (hends.attempt_cut n time).resolve_left h⟩

end Connection

end RiskBoard
