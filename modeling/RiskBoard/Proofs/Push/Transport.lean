import Mathlib.Algebra.Order.BigOperators.Group.List
import Mathlib.Data.List.Forall2
import Mathlib.Data.Seq.Basic
import RiskBoard.Push.Channel

/-!
# Transports without end

`PushChannel.acts` is about finitely many attempts, each with finitely many reports. A transport
may go on for ever in both ways: a `Transport` is a possibly infinite sequence of connections, and a
connection reports a possibly infinite sequence of arrivals. What the channel has done at some time
of its run depends on a finite part of the transport, `Transport.cut`, in which a connection that
has more to report is silent after the reports that count.

`PushChannel.IsRunPrefix` collects what may have been done by some time. Larger parts of the
transport only continue what was done (`PushChannel.acts_cut_mono`), so of any two run prefixes
one continues the other: a transport determines one run. A finite run is among them
(`PushChannel.isRunPrefix_run`). A handshake that is never answered needs no case of its own, for
the run up to it is also a prefix of runs in which the handshake is answered later.
-/

namespace RiskBoard

open Stream' (Seq)

/-- What becomes of an attempt to connect, to its very end. -/
inductive Connection where
  /-- The handshake fails. -/
  | refused (latency : ℕ)
  /-- A connection opens and reports, perhaps for ever; after a last report it ends, or stays open
  silently. -/
  | opened (latency : ℕ) (arrivals : Seq Arrival) (silent : Bool)

/-- What becomes of each attempt to connect. -/
abbrev Transport := Seq Connection

namespace Connection

/-- A connection as far as its first `n` reports show it. -/
def cut (n : ℕ) : Connection → Attempt
  | refused latency => .refused latency
  | opened latency arrivals silent =>
    .opened latency (arrivals.take n) ((arrivals.get? n).isSome || silent)

/-- A connection that is known to its end. -/
def ofAttempt : Attempt → Connection
  | .refused latency => refused latency
  | .opened latency arrivals silent => opened latency (Seq.ofList arrivals) silent

end Connection

namespace Transport

/-- The first `m` attempts of a transport, each as far as its first `n` reports show it. -/
def cut (m n : ℕ) (transport : Transport) : List Attempt :=
  (transport.take m).map (Connection.cut n)

/-- A transport that answers finitely many attempts. -/
def ofAttempts (attempts : List Attempt) : Transport :=
  Seq.ofList (attempts.map Connection.ofAttempt)

end Transport

/-! ### Parts of sequences -/

section Take

variable {α : Type} (s : Seq α) {m n : ℕ}

/-- More of a sequence begins with less of it. -/
private theorem take_seq_mono (h : m ≤ n) : s.take m <+: s.take n := by
  have htake : s.take m = (s.take n).take m := by
    refine List.ext_getElem? fun k => ?_
    rw [List.getElem?_take, Seq.getElem?_take, Seq.getElem?_take]
    split_ifs <;> first | rfl | omega
  rw [htake]
  exact List.take_prefix _ _

/-- A sequence that has ended brings nothing more. -/
private theorem take_seq_of_ended (hs : s.get? m = none) (h : m ≤ n) : s.take n = s.take m := by
  refine List.ext_getElem? fun k => ?_
  rw [Seq.getElem?_take, Seq.getElem?_take]
  split_ifs with hn hm
  · rfl
  · exact s.le_stable (not_lt.mp hm) hs
  · omega
  · rfl

private theorem take_ofList (l : List α) (h : l.length ≤ n) : (Seq.ofList l).take n = l := by
  refine List.ext_getElem? fun k => ?_
  rw [Seq.getElem?_take, Seq.ofList_get?]
  split_ifs with hk
  · rfl
  · exact (List.getElem?_eq_none (by omega)).symm

end Take

/-! ### Parts of transports -/

/-- How many reports are known of an attempt. -/
def Attempt.size : Attempt → ℕ
  | .refused _ => 0
  | .opened _ arrivals _ => arrivals.length

/-- An attempt is a part of another one if it is the same, or knows only the first reports. -/
inductive Attempt.IsPart : Attempt → Attempt → Prop
  | refl (a : Attempt) : IsPart a a
  | opened (latency : ℕ) {xs ys : List Arrival} (silent : Bool) (h : xs <+: ys) :
    IsPart (.opened latency xs true) (.opened latency ys silent)

/-- What is known of a connection at first is part of what is known later. -/
theorem Connection.isPart_cut (connection : Connection) {m n : ℕ} (h : m ≤ n) :
    (connection.cut m).IsPart (connection.cut n) := by
  cases connection with
  | refused latency => exact .refl _
  | opened latency arrivals silent =>
    cases hm : arrivals.get? m with
    | some arrival =>
      -- more is reported after the `m` reports, so that part is silent after them
      simp only [cut, hm, Option.isSome_some, Bool.true_or]
      exact .opened latency _ (take_seq_mono arrivals h)
    | none =>
      have hn : arrivals.get? n = none := arrivals.le_stable h hm
      rw [cut, cut, hm, hn, take_seq_of_ended arrivals hm h]
      exact .refl _

/-- An attempt is known as a whole after as many reports as it has. -/
theorem Connection.cut_ofAttempt {attempt : Attempt} {n : ℕ} (h : attempt.size ≤ n) :
    (ofAttempt attempt).cut n = attempt := by
  cases attempt with
  | refused latency => rfl
  | opened latency arrivals silent =>
    have hend : (Seq.ofList arrivals).get? n = none := by
      rw [Seq.ofList_get?, List.getElem?_eq_none h]
    rw [ofAttempt, cut, take_ofList arrivals h, hend]
    rfl

/-- A transport that answers finitely many attempts is known after finitely many reports. -/
theorem Transport.cut_ofAttempts (attempts : List Attempt) :
    (ofAttempts attempts).cut attempts.length (attempts.map Attempt.size).sum = attempts := by
  have hcut : ∀ attempt ∈ attempts,
      (Connection.ofAttempt attempt).cut (attempts.map Attempt.size).sum = attempt :=
    fun attempt h => Connection.cut_ofAttempt (List.le_sum_of_mem (List.mem_map_of_mem h))
  rw [cut, ofAttempts, take_ofList _ (by simp), List.map_map]
  exact (List.map_congr_left hcut).trans (List.map_id' attempts)

namespace PushChannel

variable {strategy : ReconnectStrategy} {reconnectOnError : Bool}

/-! ### What a part of a transport leads to -/

/-- The first attempt, what follows its end, and the attempts after it. -/
theorem acts_cons {count time : ℕ} {a : Attempt} {rest : List Attempt} :
    acts strategy reconnectOnError count time (a :: rest) =
      (attempt time a).1 ++
        ((afterEnding reconnectOnError (attempt time a).2.2 (attempt time a).2.1).1 ++
          if (afterEnding reconnectOnError (attempt time a).2.2 (attempt time a).2.1).2 then
            acts strategy reconnectOnError (min (count + 1) ReconnectStrategy.maxCount)
              ((attempt time a).2.2 + strategy (min (count + 1) ReconnectStrategy.maxCount)) rest
          else []) := by
  simp only [acts, List.append_assoc]

/-- A connection whose first reports are known was heard to its end, or is still open. -/
theorem listen_mono (silent : Bool) (time : ℕ) {xs ys : List Arrival} (h : xs <+: ys) :
    listen true time xs = listen silent time ys ∨
      (listen true time xs).2.1 = .none ∧
        (listen true time xs).1 <+: (listen silent time ys).1 := by
  obtain ⟨more, rfl⟩ := h
  induction xs generalizing time with
  | nil => exact .inr ⟨rfl, List.nil_prefix⟩
  | cons arrival rest ih =>
    rw [List.cons_append, listen, listen]
    cases arrival.event with
    | closed => exact .inl rfl
    | failed reason => exact .inl rfl
    | text text =>
      rcases ih (time + arrival.after) with heq | ⟨hopen, hpre⟩
      · exact .inl (by rw [heq])
      · exact .inr ⟨hopen, (List.prefix_append_right_inj _).mpr hpre⟩

/-- When more of an attempt is known it is the same, or it was still open and goes on. -/
theorem attempt_mono (time : ℕ) {a b : Attempt} (h : a.IsPart b) :
    attempt time a = attempt time b ∨
      (attempt time a).2.1 = .none ∧ (attempt time a).1 <+: (attempt time b).1 := by
  cases h with
  | refl => exact .inl rfl
  | @opened latency xs ys silent h =>
    rcases listen_mono silent (time + latency) h with heq | ⟨hopen, hpre⟩
    · exact .inl (by rw [attempt, attempt, heq])
    · refine .inr ⟨hopen, ?_⟩
      obtain ⟨more, hmore⟩ := hpre
      exact ⟨more, by simp [attempt, ← hmore]⟩

/-- The more is known of the attempts, the more is done, and what was done stays. -/
theorem acts_mono {count time : ℕ} {xs ys more : List Attempt}
    (h : List.Forall₂ Attempt.IsPart xs ys) :
    acts strategy reconnectOnError count time xs <+:
      acts strategy reconnectOnError count time (ys ++ more) := by
  induction h generalizing count time with
  | nil => exact List.nil_prefix
  | @cons a b _ _ hab _ ih =>
    rw [List.cons_append, acts_cons, acts_cons]
    rcases attempt_mono time hab with heq | ⟨hopen, hpre⟩
    · -- both attempts end in the same way at the same time, so they are followed by the same
      rw [heq, List.prefix_append_right_inj, List.prefix_append_right_inj]
      split_ifs
      · exact ih
      · exact List.nil_prefix
    · -- the connection is still open as far as the part shows it, and nothing follows there
      rw [hopen]
      simpa [afterEnding] using hpre.trans (List.prefix_append _ _)

/-- Larger parts of a transport only continue what was done. -/
theorem acts_cut_mono (transport : Transport) {m n m' n' : ℕ} (hm : m ≤ m') (hn : n ≤ n') :
    acts strategy reconnectOnError 0 0 (transport.cut m n) <+:
      acts strategy reconnectOnError 0 0 (transport.cut m' n') := by
  obtain ⟨more, hmore⟩ := take_seq_mono transport hm
  rw [Transport.cut, Transport.cut, ← hmore, List.map_append]
  refine acts_mono ?_
  rw [List.forall₂_map_left_iff, List.forall₂_map_right_iff, List.forall₂_same]
  exact fun connection _ => connection.isPart_cut hn

/-! ### Run prefixes -/

/-- What the channel may have done on a transport by some time. -/
def IsRunPrefix (strategy : ReconnectStrategy) (reconnectOnError : Bool) (transport : Transport)
    (done : List (Timed Act)) : Prop :=
  ∃ m n, done <+: acts strategy reconnectOnError 0 0 (transport.cut m n)

namespace IsRunPrefix

variable {transport : Transport} {done done' : List (Timed Act)}

/-- What was done by an earlier time is done by some time. -/
theorem mono (h : IsRunPrefix strategy reconnectOnError transport done)
    (hpre : done' <+: done) : IsRunPrefix strategy reconnectOnError transport done' := by
  obtain ⟨m, n, h⟩ := h
  exact ⟨m, n, hpre.trans h⟩

/-- **One run.** Of two things that may have been done by some time, one continues the other. -/
theorem comparable (h : IsRunPrefix strategy reconnectOnError transport done)
    (h' : IsRunPrefix strategy reconnectOnError transport done') :
    done <+: done' ∨ done' <+: done := by
  obtain ⟨m, n, h⟩ := h
  obtain ⟨m', n', h'⟩ := h'
  exact List.prefix_or_prefix_of_prefix
    (h.trans (acts_cut_mono transport (le_max_left m m') (le_max_left n n')))
    (h'.trans (acts_cut_mono transport (le_max_right m m') (le_max_right n n')))

end IsRunPrefix

/-- The run on finitely many attempts goes through run prefixes only. -/
theorem isRunPrefix_run {attempts : List Attempt} {done : List (Timed Act)}
    (h : done <+: run strategy reconnectOnError attempts) :
    IsRunPrefix strategy reconnectOnError (.ofAttempts (attempts ++ [.quiet])) done := by
  have hcut := Transport.cut_ofAttempts (attempts ++ [.quiet])
  exact ⟨_, _, by rwa [hcut]⟩

end PushChannel

end RiskBoard
