import RiskBoard.Proofs.Push.Lifetime

/-!
# Reconnects

Unless a connection failed and the channel is told to stop then, the next attempt is made when the
delay of the strategy has passed since the end of that connection, and not before its stream was let
go (`PushChannel.Reconnects`).

The attempts that are made are listed with their times (`PushChannel.turns`); each of them asks the
transport to connect once, when it is made (`PushChannel.connects_acts`), and the end of one decides
whether and when there is a next one (`PushChannel.getElem?_turns_succ`). Whether the channel has a
stream is followed act by act (`PushChannel.holding?`).
-/

namespace RiskBoard

open Stream' (Seq)

namespace PushChannel

variable {strategy : ReconnectStrategy} {reconnectOnError : Bool} {count time : ℕ}
  {attempts : List Attempt}

/-! ### Attempts in time -/

/-- Whether the channel goes on after an attempt that is made at a time. -/
def goesOn (reconnectOnError : Bool) (turn : Timed Attempt) : Bool :=
  (afterEnding reconnectOnError (attempt turn.time turn.value).2.2
    (attempt turn.time turn.value).2.1).2

/-- What is done in an attempt and at its end. -/
def turnActs (reconnectOnError : Bool) (turn : Timed Attempt) : List (Timed Act) :=
  (attempt turn.time turn.value).1 ++
    (afterEnding reconnectOnError (attempt turn.time turn.value).2.2
      (attempt turn.time turn.value).2.1).1

/-- The attempts that are made, each at its time. `count` reconnects were made before. -/
def turns (strategy : ReconnectStrategy) (reconnectOnError : Bool) :
    ℕ → ℕ → List Attempt → List (Timed Attempt)
  | _, _, [] => []
  | count, time, a :: rest =>
    let count := min (count + 1) ReconnectStrategy.maxCount
    ⟨time, a⟩ ::
      if goesOn reconnectOnError ⟨time, a⟩ then
        turns strategy reconnectOnError count ((attempt time a).2.2 + strategy count) rest
      else []

/-- All that is done is done turn by turn. -/
theorem acts_eq_flatMap (strategy : ReconnectStrategy) (reconnectOnError : Bool)
    (count time : ℕ) (attempts : List Attempt) :
    acts strategy reconnectOnError count time attempts =
      (turns strategy reconnectOnError count time attempts).flatMap
        (turnActs reconnectOnError) := by
  induction attempts generalizing count time with
  | nil => rfl
  | cons a rest ih =>
    rw [acts_cons, turns, List.flatMap_cons, turnActs, List.append_assoc, ih]
    by_cases hgo : goesOn reconnectOnError ⟨time, a⟩ = true
    · rw [if_pos hgo]
      exact congrArg (_ ++ ·) (congrArg (_ ++ ·) (if_pos hgo))
    · rw [if_neg hgo]
      exact congrArg (_ ++ ·) (congrArg (_ ++ ·) (if_neg hgo))

/-- A turn is that of the attempt in its place. -/
theorem getElem?_of_turns {k : ℕ} {turn : Timed Attempt}
    (h : (turns strategy reconnectOnError count time attempts)[k]? = some turn) :
    attempts[k]? = some turn.value := by
  induction attempts generalizing count time k with
  | nil => cases h
  | cons a rest ih =>
    rw [turns] at h
    cases k with
    | zero =>
      cases h
      rfl
    | succ k =>
      rw [List.getElem?_cons_succ] at h
      split_ifs at h
      · exact ih h
      · cases h

/-- The end of an attempt decides whether and when there is another one. -/
theorem getElem?_turns_succ {k : ℕ} {turn : Timed Attempt}
    (h : (turns strategy reconnectOnError count time attempts)[k]? = some turn) :
    (turns strategy reconnectOnError count time attempts)[k + 1]? =
      if goesOn reconnectOnError turn then attempts[k + 1]?.map fun next =>
        ⟨(attempt turn.time turn.value).2.2 +
          strategy (min (count + k + 1) ReconnectStrategy.maxCount), next⟩
      else none := by
  induction attempts generalizing count time k with
  | nil => cases h
  | cons a rest ih =>
    rw [turns] at h ⊢
    rw [List.getElem?_cons_succ, List.getElem?_cons_succ]
    cases k with
    | zero =>
      cases h
      split_ifs
      · cases rest <;> rfl
      · rfl
    | succ k =>
      rw [List.getElem?_cons_succ] at h
      split_ifs at h with hgo
      · have hcount : min (min (count + 1) ReconnectStrategy.maxCount + k + 1)
            ReconnectStrategy.maxCount = min (count + (k + 1) + 1) ReconnectStrategy.maxCount := by
          omega
        rw [if_pos hgo, ih h, hcount]
      · cases h

theorem connects_append (done done' : List (Timed Act)) :
    connects (done ++ done') = connects done ++ connects done' := by
  rw [connects, List.filter_append, List.map_append]
  rfl

/-- While it listens, the channel neither connects nor stops. -/
theorem ne_of_mem_listen (silent : Bool) (time : ℕ) (arrivals : List Arrival) :
    ∀ act ∈ (listen silent time arrivals).1, act.value ≠ .connect ∧ act.value ≠ .stop := by
  induction arrivals generalizing time with
  | nil =>
    rw [listen]
    cases silent <;> simp [enter]
  | cons arrival rest ih =>
    rw [listen]
    cases arrival.event with
    | closed | failed => simp [enter]
    | text text =>
      intro act hact
      rcases List.mem_append.mp hact with hpush | hrest
      · obtain ⟨message, -, rfl⟩ := List.mem_map.mp hpush
        simp
      · exact ih _ act hrest

/-- Listening makes no attempt. -/
theorem connects_listen (silent : Bool) (time : ℕ) (arrivals : List Arrival) :
    connects (listen silent time arrivals).1 = [] := by
  rw [connects, List.filter_eq_nil_iff.mpr, List.map_nil]
  intro act hact
  simpa using (ne_of_mem_listen silent time arrivals act hact).1

/-- An attempt connects once, when it begins. -/
theorem connects_attempt (time : ℕ) (a : Attempt) : connects (attempt time a).1 = [time] := by
  cases a with
  | refused latency => rfl
  | opened latency arrivals silent =>
    exact congrArg (time :: ·) (connects_listen silent (time + latency) arrivals)

/-- So does a turn, whatever follows its end. -/
theorem connects_turnActs (reconnectOnError : Bool) (turn : Timed Attempt) :
    connects (turnActs reconnectOnError turn) = [turn.time] := by
  have hfollowing (ending : Ending) (time : ℕ) :
      connects (afterEnding reconnectOnError time ending).1 = [] := by
    cases ending <;> cases reconnectOnError <;> rfl
  rw [turnActs, connects_append, connects_attempt, hfollowing, List.append_nil]

/-- The transport is asked to connect once for each attempt, when it is made. -/
theorem connects_acts (strategy : ReconnectStrategy) (reconnectOnError : Bool) (count time : ℕ)
    (attempts : List Attempt) :
    connects (acts strategy reconnectOnError count time attempts) =
      (turns strategy reconnectOnError count time attempts).map (·.time) := by
  rw [acts_eq_flatMap]
  induction turns strategy reconnectOnError count time attempts with
  | nil => rfl
  | cons turn rest ih =>
    rw [List.flatMap_cons, connects_append, connects_turnActs, ih]
    rfl

/-! ### Stopping -/

/-- The channel does not stop during an attempt. -/
theorem stop_not_mem_attempt (t time : ℕ) (a : Attempt) : ⟨t, .stop⟩ ∉ (attempt time a).1 := by
  cases a with
  | refused latency => simp [attempt, enter]
  | opened latency arrivals silent =>
    have hlisten : ⟨t, .stop⟩ ∉ (listen silent (time + latency) arrivals).1 := by
      intro hmem
      exact (ne_of_mem_listen _ _ _ _ hmem).2 rfl
    simp [attempt, enter, hlisten]

/-- An attempt after which the channel does not go on is the last one. -/
theorem turns_eq_concat {k : ℕ} {turn : Timed Attempt}
    (h : (turns strategy reconnectOnError count time attempts)[k]? = some turn)
    (hgo : goesOn reconnectOnError turn = false) :
    ∃ earlier, earlier.length = k ∧
      turns strategy reconnectOnError count time attempts = earlier ++ [turn] := by
  have hnone := getElem?_turns_succ h
  rw [hgo, if_neg Bool.false_ne_true, List.getElem?_eq_none_iff] at hnone
  obtain ⟨hk, hturn⟩ := List.getElem?_eq_some_iff.mp h
  refine ⟨_, List.length_take_of_le hk.le, ?_⟩
  rw [← hturn, List.take_concat_get' _ _ hk, List.take_of_length_le hnone]

/-- The channel stops after an attempt that failed, if it is told not to go on, and does nothing
more. -/
theorem getLast?_acts_of_failed {k t : ℕ} {turn : Timed Attempt}
    (h : (turns strategy false count time attempts)[k]? = some turn)
    (hfailed : (attempt turn.time turn.value).2 = (.failed, t)) :
    (acts strategy false count time attempts).getLast? = some ⟨t, .stop⟩ := by
  obtain ⟨earlier, -, hturns⟩ := turns_eq_concat h (by rw [goesOn, hfailed]; rfl)
  rw [acts_eq_flatMap, hturns, List.flatMap_append, List.flatMap_singleton, turnActs, hfailed,
    ← List.append_assoc]
  exact List.getLast?_concat

/-- After every attempt but the last one the channel goes on. -/
theorem goesOn_of_turns_eq {earlier : List (Timed Attempt)} {last : Timed Attempt}
    (h : turns strategy reconnectOnError count time attempts = earlier ++ [last]) :
    ∀ turn ∈ earlier, goesOn reconnectOnError turn = true := by
  intro turn hmem
  obtain ⟨k, hk⟩ := List.getElem?_of_mem hmem
  have hlt := (List.getElem?_eq_some_iff.mp hk).1
  by_contra hgo
  obtain ⟨before, hlength, hlast⟩ := turns_eq_concat
    (by rw [h, List.getElem?_append_left hlt, hk]) (Bool.eq_false_iff.mpr hgo)
  have hsame := congrArg List.length (h.symm.trans hlast)
  rw [List.length_append, List.length_append, hlength] at hsame
  simp only [List.length_singleton] at hsame
  omega

/-- What is not in the first of two lists is found in the second. -/
private theorem split_of_not_mem {α : Type} {xs ys before after : List α} {x : α}
    (h : xs ++ ys = before ++ x :: after) (hx : x ∉ xs) :
    ∃ before', before = xs ++ before' ∧ ys = before' ++ x :: after := by
  rcases List.append_eq_append_iff.mp h with ⟨more, hbefore, hys⟩ | ⟨more, hxs, hafter⟩
  · exact ⟨more, hbefore, hys⟩
  · cases more with
    | nil => exact ⟨[], by simpa using hxs.symm, by simpa using hafter.symm⟩
    | cons y more =>
      obtain ⟨rfl, -⟩ := List.cons_eq_cons.mp hafter
      exact absurd (hxs ▸ List.mem_append_right _ List.mem_cons_self) hx

/-- A turn stops the channel at its end only, for a failure that is not taken for a close. -/
theorem turnActs_eq_append_stop {t : ℕ} {turn : Timed Attempt} {before after : List (Timed Act)}
    (h : turnActs reconnectOnError turn = before ++ ⟨t, .stop⟩ :: after) :
    after = [] ∧ reconnectOnError = false ∧ (attempt turn.time turn.value).2 = (.failed, t) := by
  obtain ⟨before, -, h⟩ := split_of_not_mem h (stop_not_mem_attempt t _ _)
  rcases hend : (attempt turn.time turn.value).2 with ⟨ending, ended⟩
  rw [hend] at h
  cases ending with
  | none | closed => simp [afterEnding] at h
  | failed =>
    cases reconnectOnError with
    | true => simp [afterEnding, enter, List.cons_eq_append_iff] at h
    | false =>
      obtain ⟨-, rfl, rfl⟩ : before = [] ∧ t = ended ∧ after = [] := by
        simpa [afterEnding, List.singleton_eq_append_iff] using h
      exact ⟨rfl, rfl, rfl⟩

/-- The channel stops only after an attempt that failed and that is the last one. -/
theorem acts_eq_append_stop {t : ℕ} {before after : List (Timed Act)}
    (h : acts strategy reconnectOnError count time attempts = before ++ ⟨t, .stop⟩ :: after) :
    after = [] ∧ reconnectOnError = false ∧ ∃ earlier turn,
      turns strategy reconnectOnError count time attempts = earlier ++ [turn] ∧
      (attempt turn.time turn.value).2 = (.failed, t) := by
  rw [acts_eq_flatMap] at h
  rcases List.eq_nil_or_concat' (turns strategy reconnectOnError count time attempts) with
    hnil | ⟨earlier, turn, hturns⟩
  · simp [hnil] at h
  · rw [hturns, List.flatMap_append, List.flatMap_singleton] at h
    -- before the last attempt the channel always went on, and did not stop
    have hearlier : ⟨t, .stop⟩ ∉ earlier.flatMap (turnActs reconnectOnError) := by
      intro hmem
      obtain ⟨x, hx, hstop⟩ := List.mem_flatMap.mp hmem
      obtain ⟨_, _, hsplit⟩ := List.append_of_mem hstop
      obtain ⟨-, hflag, hfailed⟩ := turnActs_eq_append_stop hsplit
      have hgo := goesOn_of_turns_eq hturns x hx
      rw [goesOn, hfailed, hflag] at hgo
      cases hgo
    obtain ⟨_, -, hlast⟩ := split_of_not_mem h hearlier
    obtain ⟨hafter, hflag, hfailed⟩ := turnActs_eq_append_stop hlast
    exact ⟨hafter, hflag, earlier, turn, hturns, hfailed⟩

/-! ### Streams -/

/-- Whether the channel holds a stream after an act, if the act is possible: it is handed a stream
when it becomes connected, and lets go of it by a release. -/
def Act.holding? (holding : Bool) : Act → Option Bool
  | .connect => if holding then none else some false
  | .publish .connected => if holding then none else some true
  | .release => if holding then some false else none
  | _ => some holding

def holding? (holding : Bool) (done : List (Timed Act)) : Option Bool :=
  done.foldlM (fun holding act => act.value.holding? holding) holding

/-- The stream that is held is passed from act to act. -/
theorem holding?_append (holding : Bool) (done done' : List (Timed Act)) :
    holding? holding (done ++ done') = (holding? holding done).bind (holding? · done') :=
  List.foldlM_append

/-- Listening gives the stream back unless it goes on. -/
theorem holding?_listen (silent : Bool) (time : ℕ) (arrivals : List Arrival) :
    holding? true (listen silent time arrivals).1 =
      some (decide ((listen silent time arrivals).2.1 = .none)) := by
  induction arrivals generalizing time with
  | nil => cases silent <;> rfl
  | cons arrival rest ih =>
    rw [listen]
    cases arrival.event with
    | closed | failed => rfl
    | text text =>
      rw [holding?_append]
      cases dispatch text <;> exact ih _

/-- An attempt begins without a stream, and holds one at the end only if it goes on. -/
theorem holding?_attempt (time : ℕ) (a : Attempt) :
    holding? false (attempt time a).1 = some (decide ((attempt time a).2.1 = .none)) := by
  cases a with
  | refused latency => rfl
  | opened latency arrivals silent => exact holding?_listen silent (time + latency) arrivals

theorem holding?_afterEnding (holding : Bool) (time : ℕ) (ending : Ending) :
    holding? holding (afterEnding reconnectOnError time ending).1 = some holding := by
  cases ending <;> cases reconnectOnError <;> rfl

/-- No stream is ever opened while another is held, nor given back without one. -/
theorem isSome_holding?_acts (strategy : ReconnectStrategy) (reconnectOnError : Bool)
    (count time : ℕ) (attempts : List Attempt) :
    (holding? false (acts strategy reconnectOnError count time attempts)).isSome := by
  induction attempts generalizing count time with
  | nil => rfl
  | cons a rest ih =>
    rw [acts_cons, holding?_append, holding?_attempt, Option.bind_some, holding?_append,
      holding?_afterEnding, Option.bind_some]
    cases (attempt time a).2.1 with
    | none => rfl
    | closed => exact ih _ _
    | failed =>
      cases reconnectOnError with
      | true => exact ih _ _
      | false => rfl

/-- How often the channel was handed a stream; it becomes connected then. -/
def handed (done : List (Timed Act)) : ℕ := done.countP (·.value = .publish .connected)

/-- How often the channel let go of a stream. -/
def released (done : List (Timed Act)) : ℕ := done.countP (·.value = .release)

/-- Handed out and held before is given back and held after, act by act. -/
theorem Act.handed_of_holding? {holding next : Bool} {act : Act}
    (h : act.holding? holding = some next) :
    (if act = .publish .connected then 1 else 0) + holding.toNat =
      (if act = .release then 1 else 0) + next.toNat := by
  cases act with
  | publish state => cases state <;> cases holding <;> cases h <;> rfl
  | send message => cases h; rfl
  | _ => cases holding <;> cases h <;> rfl

/-- What was handed over and not let go is held. -/
theorem handed_of_holding? {holding last : Bool} {done : List (Timed Act)}
    (h : holding? holding done = some last) :
    handed done + holding.toNat = released done + last.toNat := by
  induction done generalizing holding with
  | nil =>
    cases h
    rfl
  | cons act rest ih =>
    rw [holding?, List.foldlM_cons] at h
    obtain ⟨next, hnext, hrest⟩ := Option.bind_eq_some_iff.mp h
    have hact := Act.handed_of_holding? hnext
    have hcount := ih hrest
    rw [handed, released] at hcount ⊢
    rw [List.countP_cons, List.countP_cons]
    simp only [decide_eq_true_eq]
    omega

section Runs

variable {transport : Transport} {done : List (Timed Act)} {m n : ℕ}

/-! ### Connections of a transport -/

/-- A transport is known connection by connection. -/
theorem getElem?_cut (transport : Transport) (m n k : ℕ) : (transport.cut m n)[k]? =
    (if k < m then transport.get? k else none).map (Connection.cut n) := by
  rw [Transport.cut, List.getElem?_map, Seq.getElem?_take]

/-- An attempt that was made is one at a connection of the transport. -/
theorem exists_turn (h : done <+: acts strategy reconnectOnError 0 0 (transport.cut m n)) {k s : ℕ}
    (hs : (connects done)[k]? = some s) : ∃ c, transport.get? k = some c ∧
      (turns strategy reconnectOnError 0 0 (transport.cut m n))[k]? = some ⟨s, c.cut n⟩ := by
  obtain ⟨rest, hrest⟩ := h
  have hall : (connects done ++ connects rest)[k]? = some s := by
    rw [List.getElem?_append_left (List.getElem?_eq_some_iff.mp hs).1, hs]
  rw [← connects_append, hrest, connects_acts, List.getElem?_map] at hall
  obtain ⟨⟨time, a⟩, hturn, rfl⟩ := Option.map_eq_some_iff.mp hall
  have ha := getElem?_of_turns hturn
  rw [getElem?_cut] at ha
  obtain ⟨c, hc, rfl⟩ := Option.map_eq_some_iff.mp ha
  split_ifs at hc
  exact ⟨c, hc, hturn⟩

/-- The attempt after one at a connection is made when the delay has passed since the end of that
connection. -/
theorem getElem?_turns_succ_of_endsAfter {k s d : ℕ} {c c' : Connection} {ending : Ending}
    (hturn : (turns strategy reconnectOnError 0 0 (transport.cut m n))[k]? = some ⟨s, c.cut n⟩)
    (hend : (attempt s (c.cut n)).2 = (ending, s + d))
    (hending : ending = .closed ∨ ending = .failed ∧ reconnectOnError = true)
    (hc' : (transport.cut m n)[k + 1]? = some (c'.cut n)) :
    (turns strategy reconnectOnError 0 0 (transport.cut m n))[k + 1]? =
      some ⟨s + d + strategy (min (k + 1) ReconnectStrategy.maxCount), c'.cut n⟩ := by
  have hgo : goesOn reconnectOnError ⟨s, c.cut n⟩ = true := by
    rw [goesOn, hend, goesOn_iff]
    exact hending
  rw [getElem?_turns_succ hturn, if_pos hgo, hc', Option.map_some, hend, Nat.zero_add]

namespace IsRunPrefix

/-- The first attempt is made at once. -/
theorem head?_connects (h : IsRunPrefix strategy reconnectOnError transport done) :
    ∀ t ∈ (connects done).head?, t = 0 := by
  intro t ht
  obtain ⟨m, n, h⟩ := h
  rw [List.head?_eq_getElem?] at ht
  obtain ⟨c, -, hturn⟩ := exists_turn h ht
  cases hcut : transport.cut m n with
  | nil => rw [hcut] at hturn; cases hturn
  | cons a attempts =>
    rw [hcut, turns] at hturn
    cases hturn
    rfl

/-- **The next attempt** is made after the end of the one before and the delay for its number. -/
theorem connects_succ (h : IsRunPrefix strategy reconnectOnError transport done) {k s s' : ℕ}
    (hs : (connects done)[k]? = some s) (hs' : (connects done)[k + 1]? = some s') :
    ∃ c ending d, transport.get? k = some c ∧ c.EndsAfter ending d ∧
      (ending = .closed ∨ ending = .failed ∧ reconnectOnError = true) ∧
      s' = s + d + strategy (min (k + 1) ReconnectStrategy.maxCount) := by
  obtain ⟨m, n, h⟩ := h
  obtain ⟨c, hc, hturn⟩ := exists_turn h hs
  obtain ⟨c', -, hturn'⟩ := exists_turn h hs'
  -- there is an attempt after this one, so this one came to an end after which the channel goes on
  have hgo : goesOn reconnectOnError ⟨s, c.cut n⟩ = true := by
    by_contra hgo
    rw [getElem?_turns_succ hturn, if_neg hgo] at hturn'
    cases hturn'
  have hended := (goesOn_iff _ _ _).mp hgo
  have hne : (attempt s (c.cut n)).2.1 ≠ .none := by
    intro hnone
    simp [hnone] at hended
  obtain ⟨ending, d, hends, hend⟩ := c.exists_endsAfter hne
  rw [hend] at hended
  have hnext := getElem?_turns_succ_of_endsAfter hturn hend hended (getElem?_of_turns hturn')
  rw [hturn'] at hnext
  exact ⟨c, ending, d, hc, hends, hended, congrArg Timed.time (Option.some.inj hnext)⟩

/-- At any time it is known whether a stream is held. -/
theorem exists_holding? (h : IsRunPrefix strategy reconnectOnError transport done) :
    ∃ held, holding? false done = some held := by
  obtain ⟨m, n, rest, hrest⟩ := h
  obtain ⟨last, hlast⟩ := Option.isSome_iff_exists.mp
    (isSome_holding?_acts strategy reconnectOnError 0 0 (transport.cut m n))
  rw [← hrest, holding?_append] at hlast
  obtain ⟨held, hheld, -⟩ := Option.bind_eq_some_iff.mp hlast
  exact ⟨held, hheld⟩

/-- Every stream was let go when the transport is asked to connect. -/
theorem handed_eq_released {before after : List (Timed Act)} {t : ℕ}
    (h : IsRunPrefix strategy reconnectOnError transport (before ++ ⟨t, .connect⟩ :: after)) :
    handed before = released before := by
  obtain ⟨held, hheld⟩ := h.exists_holding?
  rw [holding?_append] at hheld
  obtain ⟨b, hb, hconnect⟩ := Option.bind_eq_some_iff.mp hheld
  have hcount := handed_of_holding? hb
  -- asking to connect is possible only if no stream is held
  cases b with
  | true => cases hconnect
  | false => exact hcount

/-- At most one stream is open. -/
theorem handed_le (h : IsRunPrefix strategy reconnectOnError transport done) :
    released done ≤ handed done ∧ handed done ≤ released done + 1 := by
  obtain ⟨held, hheld⟩ := h.exists_holding?
  have hcount := handed_of_holding? hheld
  have hle := Bool.toNat_le held
  simp only [Bool.toNat_false] at hcount
  omega

/-- The channel stops after an attempt that failed, and only if it is told to. -/
theorem failed_of_stop {before after : List (Timed Act)} {t : ℕ}
    (h : IsRunPrefix strategy reconnectOnError transport (before ++ ⟨t, .stop⟩ :: after)) :
    after = [] ∧ reconnectOnError = false ∧ ∃ k s c d, (connects before).length = k + 1 ∧
      (connects before)[k]? = some s ∧ transport.get? k = some c ∧ c.EndsAfter .failed d ∧
      t = s + d := by
  obtain ⟨m, n, hpre⟩ := h
  have hacts := List.prefix_iff_eq_append.mp hpre
  rw [List.append_assoc, List.cons_append] at hacts
  obtain ⟨hnil, hflag, earlier, ⟨s, a⟩, hturns, hfailed⟩ := acts_eq_append_stop hacts.symm
  obtain ⟨rfl, hrest⟩ := List.append_eq_nil_iff.mp hnil
  have hbefore : connects before = earlier.map (·.time) ++ [s] := by
    have hall := connects_acts strategy reconnectOnError 0 0 (transport.cut m n)
    rw [← hacts, hnil, connects_append, hturns, List.map_append] at hall
    exact (List.append_nil _).symm.trans hall
  have hs : (connects before)[earlier.length]? = some s := by
    rw [hbefore, ← List.length_map (f := (·.time)), List.getElem?_concat_length]
  obtain ⟨c, hc, hturn⟩ := exists_turn ((List.prefix_append _ _).trans hpre) hs
  rw [hturns, List.getElem?_concat_length] at hturn
  obtain rfl : a = c.cut n := congrArg Timed.value (Option.some.inj hturn)
  obtain ⟨ending, d, hends, hend⟩ : ∃ ending d, c.EndsAfter ending d ∧
      (attempt s (c.cut n)).2 = (ending, s + d) := c.exists_endsAfter (by rw [hfailed]; simp)
  obtain ⟨rfl, rfl⟩ := Prod.mk.inj (hfailed.symm.trans hend)
  exact ⟨rfl, hflag, earlier.length, s, c, d, by simp [hbefore], hs, hc, hends, rfl⟩

/-- What was done goes on to all that is done on a part of the transport, if that is large. -/
theorem exists_longer (h : IsRunPrefix strategy reconnectOnError transport done) (m n : ℕ) :
    ∃ m' ≥ m, ∃ n' ≥ n, ∃ later,
      done ++ later = acts strategy reconnectOnError 0 0 (transport.cut m' n') := by
  obtain ⟨m₀, n₀, h⟩ := h
  obtain ⟨later, hlater⟩ := h.trans
    (acts_cut_mono transport (le_max_right m m₀) (le_max_right n n₀))
  exact ⟨_, le_max_left m m₀, _, le_max_left n n₀, later, hlater⟩

/-- After the end of a connection the channel makes the next attempt when the delay has passed. -/
theorem exists_retry (h : IsRunPrefix strategy reconnectOnError transport done) {k s d : ℕ}
    {c c' : Connection} {ending : Ending} (hs : (connects done)[k]? = some s)
    (hc : transport.get? k = some c) (hc' : transport.get? (k + 1) = some c')
    (hends : c.EndsAfter ending d)
    (hending : ending = .closed ∨ ending = .failed ∧ reconnectOnError = true) :
    ∃ later, IsRunPrefix strategy reconnectOnError transport (done ++ later) ∧
      (connects (done ++ later))[k + 1]? =
        some (s + d + strategy (min (k + 1) ReconnectStrategy.maxCount)) := by
  obtain ⟨-, n₀, hcut⟩ := hends.exists_cut
  obtain ⟨m, hm, n, hn, later, hlater⟩ := h.exists_longer (k + 2) n₀
  obtain ⟨c₀, hc₀, hturn⟩ := exists_turn ⟨later, hlater⟩ hs
  obtain rfl : c = c₀ := Option.some.inj (hc.symm.trans hc₀)
  have hknown : (transport.cut m n)[k + 1]? = some (c'.cut n) := by
    rw [getElem?_cut, if_pos (by omega), hc', Option.map_some]
  have hnext := getElem?_turns_succ_of_endsAfter hturn (hcut n hn s) hending hknown
  refine ⟨later, ⟨m, n, hlater ▸ List.prefix_rfl⟩, ?_⟩
  rw [hlater, connects_acts, List.getElem?_map, hnext, Option.map_some]

/-- After a failure the channel stops at once, if it is told to. -/
theorem exists_stop (h : IsRunPrefix strategy false transport done) {k s d : ℕ} {c : Connection}
    (hs : (connects done)[k]? = some s) (hc : transport.get? k = some c)
    (hends : c.EndsAfter .failed d) :
    ∃ later, IsRunPrefix strategy false transport (done ++ later) ∧
      (done ++ later).getLast? = some ⟨s + d, .stop⟩ := by
  obtain ⟨-, n₀, hcut⟩ := hends.exists_cut
  obtain ⟨m, -, n, hn, later, hlater⟩ := h.exists_longer 0 n₀
  obtain ⟨c₀, hc₀, hturn⟩ := exists_turn ⟨later, hlater⟩ hs
  obtain rfl : c = c₀ := Option.some.inj (hc.symm.trans hc₀)
  refine ⟨later, ⟨m, n, hlater ▸ List.prefix_rfl⟩, ?_⟩
  rw [hlater, getLast?_acts_of_failed hturn (hcut n hn s)]

end IsRunPrefix

/-! ### The law of reconnects -/

/-- The law of reconnects, for what was done on a transport by some time. -/
structure Reconnects (strategy : ReconnectStrategy) (reconnectOnError : Bool)
    (transport : Transport) (done : List (Timed Act)) : Prop where
  starts : ∀ t ∈ (connects done).head?, t = 0
  /-- The next attempt is made when the delay has passed since the end of the connection before,
  which was closed, or failed while the channel is told to go on. -/
  gap : ∀ k s s', (connects done)[k]? = some s → (connects done)[k + 1]? = some s' →
    ∃ c ending d, transport.get? k = some c ∧ c.EndsAfter ending d ∧
      (ending = .closed ∨ ending = .failed ∧ reconnectOnError = true) ∧
      s' = s + d + strategy (min (k + 1) (2 ^ 32 - 1))
  /-- When the transport is asked to connect, every stream was let go. -/
  dropped : ∀ before t after, done = before ++ ⟨t, .connect⟩ :: after →
    handed before = released before
  /-- One stream is open, or none. -/
  single : released done ≤ handed done ∧ handed done ≤ released done + 1
  /-- The channel stops when the last connection failed, and only if it is told to. -/
  stops : ∀ before t after, done = before ++ ⟨t, .stop⟩ :: after →
    after = [] ∧ reconnectOnError = false ∧ ∃ k s c d, (connects before).length = k + 1 ∧
      (connects before)[k]? = some s ∧ transport.get? k = some c ∧ c.EndsAfter .failed d ∧ t = s + d

/-- **Reconnects.** On every transport, what was done by some time obeys the law of reconnects.
After the end of a connection, the next attempt that the transport answers is made when the delay of
the strategy has passed; if the connection failed and the channel is told so, it stops then instead,
and does nothing more. With the same delay before every attempt, this is the time between each end
and the next attempt. -/
theorem runPrefix_reconnects (h : IsRunPrefix strategy reconnectOnError transport done) :
    Reconnects strategy reconnectOnError transport done ∧
      (∀ k s c ending d, (connects done)[k]? = some s → transport.get? k = some c →
        c.EndsAfter ending d →
        (ending = .closed ∨ ending = .failed ∧ reconnectOnError = true →
          (transport.get? (k + 1)).isSome →
          ∃ later, IsRunPrefix strategy reconnectOnError transport (done ++ later) ∧
            (connects (done ++ later))[k + 1]? =
              some (s + d + strategy (min (k + 1) (2 ^ 32 - 1)))) ∧
        (ending = .failed → reconnectOnError = false →
          ∃ later, IsRunPrefix strategy reconnectOnError transport (done ++ later) ∧
            (done ++ later).getLast? = some ⟨s + d, .stop⟩)) ∧
      ∀ delay, strategy = .fixed delay → ∀ k s s', (connects done)[k]? = some s →
        (connects done)[k + 1]? = some s' →
        ∃ c ending d, transport.get? k = some c ∧ c.EndsAfter ending d ∧ s' = s + d + delay := by
  refine ⟨⟨h.head?_connects, ?_, ?_, h.handed_le, ?_⟩, ?_, ?_⟩
  · intro k s s' hs hs'
    exact h.connects_succ hs hs'
  · rintro before t after rfl
    exact h.handed_eq_released
  · rintro before t after rfl
    exact h.failed_of_stop
  · intro k s c ending d hs hc hends
    constructor
    · intro hending hnext
      obtain ⟨c', hc'⟩ := Option.isSome_iff_exists.mp hnext
      exact h.exists_retry hs hc hc' hends hending
    · rintro rfl rfl
      exact h.exists_stop hs hc hends
  · rintro delay rfl k s s' hs hs'
    obtain ⟨c, ending, d, hc, hends, -, htime⟩ := h.connects_succ hs hs'
    exact ⟨c, ending, d, hc, hends, htime⟩

/-- A transport whose first connection is closed, and which then refuses every attempt. -/
def closedThenRefusing : Transport :=
  Seq.cons (.opened 2 (Seq.ofList [⟨5, .closed⟩]) false)
    (Seq.ofStream (Stream'.const (.refused 5)))

/-- What is done on it until the second attempt is made. -/
def untilRetry : List (Timed Act) :=
  enter 0 .connecting ++ ⟨0, .connect⟩ ::
    (enter 2 .connected ++ (enter 7 .disconnected ++ ⟨7, .release⟩ ::
      (enter 17 .connecting ++ [⟨17, .connect⟩])))

/-- Without going on after an error, the second attempt is made ten later than the close, and its
failure is the end. -/
theorem untilRetry_reconnects :
    IsRunPrefix (10 * ·) false closedThenRefusing untilRetry ∧
      Reconnects (10 * ·) false closedThenRefusing untilRetry ∧ connects untilRetry = [0, 17] ∧
      ∃ later, IsRunPrefix (10 * ·) false closedThenRefusing (untilRetry ++ later) ∧
        (untilRetry ++ later).getLast? = some ⟨22, .stop⟩ := by
  have hrun : IsRunPrefix (10 * ·) false closedThenRefusing untilRetry :=
    ⟨2, 1, ⟨enter 22 .error ++ [⟨22, .stop⟩], rfl⟩⟩
  obtain ⟨hlaw, hends, -⟩ := runPrefix_reconnects hrun
  exact ⟨hrun, hlaw, rfl, (hends 1 17 _ _ _ rfl rfl (.refused 5)).2 rfl rfl⟩

end Runs

end PushChannel

end RiskBoard
