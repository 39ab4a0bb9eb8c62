import RiskBoard.Proofs.Push.Delivery

/-!
# What goes unnoticed on the push connection

A text that is no valid frame, or a greeting, is heard and forgotten (`TransportEvent.isIgnored`).
Of an attempt only the other reports count: `Arrival.noticed` lists them with their times from the
start of the attempt, the end of the stream among them as a close, and `PushChannel.Hears` reads
the outcome of listening off that list alone.

Connections that bring the same reports of this kind (`Connection.SameNoticed`), as those do that
differ by an ignored text (`Connection.sameNoticed_insert`), lead to the same run: with
`Timed.Alike` as the measure, what was done on one of them by some time is matched by what is done
on the other (`PushChannel.IsRunPrefix.exists_alike`). The times count or not; if they do, what is
matched is equal.
-/

namespace RiskBoard

open Stream' (Seq)

/-! ### Lists that begin alike -/

/-- The same happens, and if the time counts, at the same time. -/
structure Timed.Alike {α : Type} (timed : Bool) (x y : Timed α) : Prop where
  value : x.value = y.value
  time : timed = true → x.time = y.time

/-- The second list begins with what is alike to the whole first one. -/
inductive Timed.BeginsAlike {α : Type} (timed : Bool) : List (Timed α) → List (Timed α) → Prop
  | nil (ys : List (Timed α)) : BeginsAlike timed [] ys
  | cons {x y : Timed α} {xs ys : List (Timed α)} (h : x.Alike timed y)
    (rest : BeginsAlike timed xs ys) : BeginsAlike timed (x :: xs) (y :: ys)

namespace Timed

section Alike

variable {α : Type} {timed : Bool} {xs ys zs : List (Timed α)}

/-- Everything is alike to itself. -/
theorem Alike.refl (x : Timed α) : x.Alike timed x := ⟨rfl, fun _ => rfl⟩

/-- A list begins like every list that continues it. -/
theorem BeginsAlike.of_begins (h : xs <+: ys) : BeginsAlike timed xs ys := by
  induction xs generalizing ys with
  | nil => exact .nil ys
  | cons x xs ih =>
    obtain ⟨more, rfl⟩ := h
    exact .cons (.refl x) (ih (List.prefix_append xs more))

/-- The second list may go on. -/
theorem BeginsAlike.right_mono (h : BeginsAlike timed xs ys) (hpre : ys <+: zs) :
    BeginsAlike timed xs zs := by
  induction h generalizing zs with
  | nil => exact .nil zs
  | cons hxy _ ih =>
    obtain ⟨more, rfl⟩ := hpre
    exact .cons hxy (ih (List.prefix_append _ more))

/-- The first list may stop earlier. -/
theorem BeginsAlike.left_mono (h : BeginsAlike timed ys zs) (hpre : xs <+: ys) :
    BeginsAlike timed xs zs := by
  induction h generalizing xs with
  | nil =>
    rw [List.prefix_nil.mp hpre]
    exact .nil _
  | cons hxy _ ih =>
    rcases List.prefix_cons_iff.mp hpre with rfl | ⟨xs, rfl, hrest⟩
    · exact .nil _
    · exact .cons hxy (ih hrest)

/-- Lists that begin alike may be put behind lists that are alike throughout. -/
theorem BeginsAlike.append {xs' ys' : List (Timed α)}
    (h : List.Forall₂ (Alike timed) xs ys) (h' : BeginsAlike timed xs' ys') :
    BeginsAlike timed (xs ++ xs') (ys ++ ys') := by
  induction h with
  | nil => exact h'
  | cons hxy _ ih => exact .cons hxy ih

/-- What is done alike to lists that begin alike leaves them so. -/
theorem BeginsAlike.map {β : Type} {f g : Timed α → Timed β}
    (hfg : ∀ x y : Timed α, x.Alike timed y → (f x).Alike timed (g y))
    (h : BeginsAlike timed xs ys) : BeginsAlike timed (xs.map f) (ys.map g) := by
  induction h with
  | nil => exact .nil _
  | cons hxy _ ih => exact .cons (hfg _ _ hxy) ih

/-- The first list is alike to a first part of the second. -/
theorem BeginsAlike.exists_alike_part (h : BeginsAlike timed xs ys) :
    ∃ zs, zs <+: ys ∧ List.Forall₂ (Alike timed) xs zs := by
  induction h with
  | nil ys => exact ⟨[], List.nil_prefix, .nil⟩
  | @cons x y xs ys hxy _ ih =>
    obtain ⟨zs, hpre, halike⟩ := ih
    exact ⟨y :: zs, (List.prefix_cons_inj y).mpr hpre, .cons hxy halike⟩

/-- If the times count, only a list itself is alike to it. -/
theorem forall₂_alike_eq (h : List.Forall₂ (Alike true) xs ys) : xs = ys := by
  induction h with
  | nil => rfl
  | @cons x y _ _ hxy _ ih =>
    obtain ⟨time, value⟩ := x
    obtain ⟨rfl, htime⟩ := hxy
    obtain rfl : time = y.time := htime rfl
    rw [ih]

end Alike

end Timed

/-! ### The reports that are noticed -/

/-- Whether a report goes unnoticed, as a text does that is no valid frame or a greeting. -/
def TransportEvent.isIgnored (event : TransportEvent) : Bool :=
  event.isText && event.frame?.isNone

/-- The reports of a connection that are noticed, from a time on. A stream that ends is noticed as
a close. -/
def Arrival.noticed (silent : Bool) : ℕ → List Arrival → List (Timed TransportEvent)
  | time, [] => if silent then [] else [⟨time, .closed⟩]
  | time, arrival :: rest =>
    let time := time + arrival.after
    if arrival.event.isIgnored then noticed silent time rest
    else ⟨time, arrival.event⟩ :: noticed silent time rest

/-- One attempt goes like another as far as the first is known: both are refused, or both connect
and the second one begins with the noticed reports of the first. -/
inductive Attempt.GoesLike (timed : Bool) : Attempt → Attempt → Prop
  | refused {latency latency' : ℕ} (htime : timed = true → latency = latency') :
    GoesLike timed (.refused latency) (.refused latency')
  | opened {latency latency' : ℕ} {xs ys : List Arrival} {silent silent' : Bool}
    (htime : timed = true → latency = latency')
    (hnoticed : Timed.BeginsAlike timed (Arrival.noticed silent latency xs)
      (Arrival.noticed silent' latency' ys)) :
    GoesLike timed (.opened latency xs silent) (.opened latency' ys silent')

namespace Connection

/-- Whatever is known of the first connection, the second one goes like it. -/
def Covers (timed : Bool) (c c' : Connection) : Prop :=
  ∀ n, ∃ n', (c.cut n).GoesLike timed (c'.cut n')

/-- Two connections bring the same reports, those aside that go unnoticed. If they are timed, they
open at the same time and bring these reports at the same times. -/
def SameNoticed (timed : Bool) (c c' : Connection) : Prop :=
  Covers timed c c' ∧ Covers timed c' c

theorem SameNoticed.symm {timed : Bool} {c c' : Connection} (h : SameNoticed timed c c') :
    SameNoticed timed c' c :=
  ⟨h.2, h.1⟩

end Connection

/-- More reports are noticed of more, unless it is known that nothing follows. -/
theorem Arrival.noticed_mono (silent : Bool) (time : ℕ) {xs ys : List Arrival} (h : xs <+: ys) :
    noticed true time xs <+: noticed silent time ys := by
  obtain ⟨more, rfl⟩ := h
  induction xs generalizing time with
  | nil => exact List.nil_prefix
  | cons arrival rest ih =>
    rw [List.cons_append, noticed, noticed]
    split_ifs
    · exact ih _
    · exact (List.prefix_cons_inj _).mpr (ih _)

/-- What goes like a part goes like the whole. -/
theorem Attempt.GoesLike.trans_isPart {timed : Bool} {a b b' : Attempt} (h : a.GoesLike timed b)
    (hpart : b.IsPart b') : a.GoesLike timed b' := by
  cases hpart with
  | refl => exact h
  | opened latency silent hpre =>
    obtain - | ⟨htime, hnoticed⟩ := h
    exact .opened htime (hnoticed.right_mono (Arrival.noticed_mono silent latency hpre))

namespace PushChannel

/-! ### Hearing -/

/-- How listening goes when these reports are noticed. After the last of them the connection is
open. -/
inductive Hears : List (Timed TransportEvent) → List (Timed Act) × Ending × ℕ → Prop
  | nil (time : ℕ) : Hears [] ([], .none, time)
  | text (time : ℕ) (text : String) {rest : List (Timed TransportEvent)} {acts : List (Timed Act)}
    {ending : Ending × ℕ} (h : Hears rest (acts, ending)) :
    Hears (⟨time, .text text⟩ :: rest)
      ((dispatch text).toList.map (fun m => ⟨time, .send (.pushed m)⟩) ++ acts, ending)
  | closed (time : ℕ) (rest : List (Timed TransportEvent)) :
    Hears (⟨time, .closed⟩ :: rest)
      (enter time .disconnected ++ [⟨time, .release⟩], .closed, time)
  | failed (time : ℕ) (reason : String) (rest : List (Timed TransportEvent)) :
    Hears (⟨time, .failed reason⟩ :: rest)
      (enter time .error ++ [⟨time, .release⟩], .failed, time)

/-- Exactly the texts that go unnoticed are not dispatched. -/
theorem dispatch_eq_none_iff {text : String} :
    dispatch text = none ↔ (TransportEvent.text text).isIgnored = true := by
  rw [← frame?_text, ← Option.isNone_iff_eq_none, TransportEvent.isIgnored]
  rfl

/-- Listening takes notice of what is noticed only. -/
theorem hears_listen (silent : Bool) (time : ℕ) (arrivals : List Arrival) :
    Hears (Arrival.noticed silent time arrivals) (listen silent time arrivals) := by
  induction arrivals generalizing time with
  | nil =>
    rw [Arrival.noticed, listen]
    split_ifs
    · exact .nil time
    · exact .closed time []
  | cons arrival rest ih =>
    rw [Arrival.noticed, listen]
    cases hevent : arrival.event with
    | closed => exact .closed _ _
    | failed reason => exact .failed _ reason _
    | text text =>
      by_cases hignored : (TransportEvent.text text).isIgnored = true
      · have hnone : dispatch text = none := dispatch_eq_none_iff.mpr hignored
        simp only [hignored, if_true, hnone]
        exact ih _
      · rw [if_neg hignored]
        exact .text _ text (ih _)

/-! ### Outcomes -/

/-- One outcome leads to the same as another: it ended in the same way after the same acts, or it
is still open where the other may have gone on. -/
inductive LeadsLike (timed : Bool) :
    List (Timed Act) × Ending × ℕ → List (Timed Act) × Ending × ℕ → Prop
  | ended {xs ys : List (Timed Act)} (ending : Ending) {time time' : ℕ}
    (hacts : List.Forall₂ (Timed.Alike timed) xs ys) (htime : timed = true → time = time') :
    LeadsLike timed (xs, ending, time) (ys, ending, time')
  | still {xs ys : List (Timed Act)} (time : ℕ) (ending : Ending × ℕ)
    (hacts : Timed.BeginsAlike timed xs ys) : LeadsLike timed (xs, .none, time) (ys, ending)

section Like

variable {timed : Bool} {time time' : ℕ}

/-- The same state is entered alike. -/
theorem forall₂_enter (htime : timed = true → time = time') (state : ChannelState) :
    List.Forall₂ (Timed.Alike timed) (enter time state) (enter time' state) :=
  .cons ⟨rfl, htime⟩ (.cons ⟨rfl, htime⟩ .nil)

/-- Acts that are alike may be put in front. -/
theorem LeadsLike.prepend {xs ys : List (Timed Act)} {x y : List (Timed Act) × Ending × ℕ}
    (hacts : List.Forall₂ (Timed.Alike timed) xs ys) (h : LeadsLike timed x y) :
    LeadsLike timed (xs ++ x.1, x.2) (ys ++ y.1, y.2) := by
  cases h with
  | ended ending hxy htime => exact .ended ending (List.rel_append hacts hxy) htime
  | still time ending hxy => exact .still time ending (.append hacts hxy)

/-- Reports that begin alike are heard alike. -/
theorem Hears.leadsLike {xs ys : List (Timed TransportEvent)}
    {x y : List (Timed Act) × Ending × ℕ} (hx : Hears xs x) (hy : Hears ys y)
    (h : Timed.BeginsAlike timed xs ys) : LeadsLike timed x y := by
  induction hx generalizing ys y with
  | nil time => exact .still time _ (.nil _)
  | text time text _ ih =>
    obtain _ | @⟨_, report, _, _, ⟨hvalue, htime⟩, hrest⟩ := h
    obtain ⟨time', event⟩ := report
    obtain rfl : _ = event := hvalue
    obtain _ | ⟨_, _, hy⟩ := hy
    have hsent : List.Forall₂ (Timed.Alike timed)
        ((dispatch text).toList.map fun m => (⟨time, .send (.pushed m)⟩ : Timed Act))
        ((dispatch text).toList.map fun m => ⟨time', .send (.pushed m)⟩) := by
      rw [List.forall₂_map_left_iff, List.forall₂_map_right_iff, List.forall₂_same]
      exact fun m _ => ⟨rfl, htime⟩
    exact (ih hy hrest).prepend hsent
  | closed time rest =>
    obtain _ | @⟨_, report, _, _, ⟨hvalue, htime⟩, -⟩ := h
    obtain ⟨time', event⟩ := report
    obtain rfl : _ = event := hvalue
    cases hy with
    | closed =>
      exact .ended .closed
        (List.rel_append (forall₂_enter htime .disconnected) (.cons ⟨rfl, htime⟩ .nil)) htime
  | failed time reason rest =>
    obtain _ | @⟨_, report, _, _, ⟨hvalue, htime⟩, -⟩ := h
    obtain ⟨time', event⟩ := report
    obtain rfl : _ = event := hvalue
    cases hy with
    | failed =>
      exact .ended .failed
        (List.rel_append (forall₂_enter htime .error) (.cons ⟨rfl, htime⟩ .nil)) htime

/-! ### Attempts and runs -/

/-- From a later time on the same is noticed, later. -/
theorem noticed_add (silent : Bool) (time later : ℕ) (arrivals : List Arrival) :
    Arrival.noticed silent (time + later) arrivals =
      (Arrival.noticed silent later arrivals).map fun r => ⟨time + r.time, r.value⟩ := by
  induction arrivals generalizing later with
  | nil => cases silent <;> rfl
  | cons arrival rest ih =>
    rw [Arrival.noticed, Arrival.noticed, Nat.add_assoc, ih]
    split_ifs <;> rfl

/-- Attempts that go alike lead to the same. -/
theorem leadsLike_attempt {a b : Attempt} (h : a.GoesLike timed b)
    (htime : timed = true → time = time') :
    LeadsLike timed (attempt time a) (attempt time' b) := by
  have hopening : List.Forall₂ (Timed.Alike timed)
      (enter time .connecting ++ [⟨time, .connect⟩])
      (enter time' .connecting ++ [⟨time', .connect⟩]) :=
    List.rel_append (forall₂_enter htime .connecting) (.cons ⟨rfl, htime⟩ .nil)
  cases h with
  | @refused latency latency' hlatency =>
    have hanswer : timed = true → time + latency = time' + latency' := fun htimed => by
      rw [htime htimed, hlatency htimed]
    exact .ended .failed (List.rel_append hopening (forall₂_enter hanswer .error)) hanswer
  | @opened latency latency' xs ys silent silent' hlatency hnoticed =>
    have hanswer : timed = true → time + latency = time' + latency' := fun htimed => by
      rw [htime htimed, hlatency htimed]
    have habsolute : Timed.BeginsAlike timed (Arrival.noticed silent (time + latency) xs)
        (Arrival.noticed silent' (time' + latency') ys) := by
      rw [noticed_add, noticed_add]
      refine hnoticed.map fun x y hxy => ⟨hxy.value, fun htimed => ?_⟩
      rw [htime htimed, hxy.time htimed]
    have hheard := (hears_listen silent _ xs).leadsLike (hears_listen silent' _ ys) habsolute
    have hconnected := List.rel_append hopening (forall₂_enter hanswer .connected)
    exact hheard.prepend hconnected

variable {strategy : ReconnectStrategy} {reconnectOnError : Bool}

/-- What follows the same end is alike. -/
theorem forall₂_afterEnding (htime : timed = true → time = time') (ending : Ending) :
    List.Forall₂ (Timed.Alike timed) (afterEnding reconnectOnError time ending).1
      (afterEnding reconnectOnError time' ending).1 := by
  cases ending with
  | closed | none => exact .nil
  | failed =>
    cases reconnectOnError with
    | true => exact forall₂_enter htime .disconnected
    | false => exact .cons ⟨rfl, htime⟩ .nil

/-- Attempts that go like others are followed by the like. -/
theorem beginsAlike_acts {count : ℕ} {xs ys : List Attempt}
    (h : List.Forall₂ (Attempt.GoesLike timed) xs ys) (htime : timed = true → time = time') :
    Timed.BeginsAlike timed (acts strategy reconnectOnError count time xs)
      (acts strategy reconnectOnError count time' ys) := by
  induction h generalizing count time time' with
  | nil => exact .nil _
  | @cons a b xs ys hab _ ih =>
    rw [acts_cons, acts_cons]
    have hlead := leadsLike_attempt hab htime
    generalize attempt time a = x, attempt time' b = y at hlead
    cases hlead with
    | ended ending hacts hend =>
      refine .append hacts (.append (forall₂_afterEnding hend ending) ?_)
      simp only [goesOn_iff]
      split_ifs
      · exact ih fun htimed => by rw [hend htimed]
      · exact .nil _
    | still t ending hacts =>
      -- the attempt is still open as far as it is known, and nothing follows there
      simpa [afterEnding] using hacts.right_mono (List.prefix_append _ _)

end Like

end PushChannel

/-- Every attempt goes like itself. -/
theorem Attempt.GoesLike.refl (timed : Bool) (a : Attempt) : a.GoesLike timed a := by
  cases a with
  | refused => exact .refused fun _ => rfl
  | opened => exact .opened (fun _ => rfl) (.of_begins List.prefix_rfl)

namespace Connection

/-! ### One ignored text more -/

/-- What is noticed of the first `n` reports of a sequence, from a time on. -/
def noticed (silent : Bool) (time : ℕ) (s : Seq Arrival) (n : ℕ) : List (Timed TransportEvent) :=
  Arrival.noticed ((s.get? n).isSome || silent) time (s.take n)

variable {silent : Bool}

/-- The first report is noticed, or delays those after it. -/
private theorem noticed_cons (time : ℕ) (arrival : Arrival) (s : Seq Arrival) (n : ℕ) :
    noticed silent time (s.cons arrival) (n + 1) =
      if arrival.event.isIgnored then noticed silent (time + arrival.after) s n
      else ⟨time + arrival.after, arrival.event⟩ :: noticed silent (time + arrival.after) s n := by
  rw [noticed, Seq.get?_cons_succ, Seq.take_succ_cons, Arrival.noticed]
  rfl

/-- A text that goes unnoticed only delays the report after it. -/
private theorem noticed_insert (silent : Bool) (time : ℕ) (before : List Arrival)
    {ignored : Arrival} (h : ignored.event.isIgnored = true) (next : Arrival)
    (after : Seq Arrival) (n : ℕ) :
    noticed silent time ((Seq.ofList before).append ((after.cons next).cons ignored))
        (before.length + (n + 2)) =
      noticed silent time
        ((Seq.ofList before).append (after.cons ⟨ignored.after + next.after, next.event⟩))
        (before.length + (n + 1)) := by
  induction before generalizing time with
  | nil =>
    rw [Seq.ofList_nil, Seq.nil_append, Seq.nil_append, List.length_nil, Nat.zero_add,
      Nat.zero_add, noticed_cons, if_pos h, noticed_cons, noticed_cons, Nat.add_assoc]
  | cons first rest ih =>
    rw [Seq.ofList_cons, Seq.cons_append, Seq.cons_append, List.length_cons,
      Nat.add_right_comm, noticed_cons, Nat.add_right_comm, noticed_cons, ih]

/-- A connection is covered by one of which the same is noticed again and again. -/
theorem Covers.of_noticed {timed : Bool} {latency : ℕ} {s s' : Seq Arrival} {silent' : Bool}
    (h : ∀ n, ∃ k k', n ≤ k ∧ noticed silent latency s k = noticed silent' latency s' k') :
    Covers timed (.opened latency s silent) (.opened latency s' silent') := by
  intro n
  obtain ⟨k, k', hk, heq⟩ := h n
  obtain - | ⟨-, hmore⟩ := (Attempt.GoesLike.refl timed _).trans_isPart
    (isPart_cut (.opened latency s silent) hk)
  refine ⟨k', .opened (fun _ => rfl) ?_⟩
  change Timed.BeginsAlike timed _ (noticed silent' latency s' k')
  rw [← heq]
  exact hmore

/-- **Insertion and deletion.** A connection on which a text comes that goes unnoticed, and one on
which it does not come but all else does at the same times, bring the same reports. -/
theorem sameNoticed_insert (timed : Bool) (latency : ℕ) (before : List Arrival) {ignored : Arrival}
    (h : ignored.event.isIgnored = true) (next : Arrival) (after : Seq Arrival) (silent : Bool) :
    SameNoticed timed
      (.opened latency ((Seq.ofList before).append ((after.cons next).cons ignored)) silent)
      (.opened latency
        ((Seq.ofList before).append (after.cons ⟨ignored.after + next.after, next.event⟩))
        silent) := by
  have hsame (n : ℕ) := noticed_insert silent latency before h next after n
  exact ⟨.of_noticed fun n => ⟨_, _, by omega, hsame n⟩,
    .of_noticed fun n => ⟨_, _, by omega, (hsame n).symm⟩⟩

end Connection

/-! ### Transports -/

namespace Transport

/-- Transports that bring the same reports attempt by attempt, those aside that go unnoticed. -/
def SameNoticed (timed : Bool) (transport transport' : Transport) : Prop :=
  ∀ i, Option.Rel (Connection.SameNoticed timed) (transport.get? i) (transport'.get? i)

theorem SameNoticed.symm {timed : Bool} {transport transport' : Transport}
    (h : SameNoticed timed transport transport') : SameNoticed timed transport' transport := by
  intro i
  have hi := h i
  generalize transport.get? i = c, transport'.get? i = c' at hi ⊢
  obtain hc | - := hi
  · exact .some hc.symm
  · exact .none

/-- What is known of some connections is known of others like them, if enough is known of these. -/
private theorem exists_goesLike_cut {timed : Bool} {cs cs' : List Connection}
    (h : List.Forall₂ (Connection.Covers timed) cs cs') (n : ℕ) :
    ∃ bound, ∀ n' ≥ bound, List.Forall₂ (Attempt.GoesLike timed)
      (cs.map (Connection.cut n)) (cs'.map (Connection.cut n')) := by
  induction h with
  | nil => exact ⟨0, fun _ _ => .nil⟩
  | @cons c c' _ _ hc _ ih =>
    obtain ⟨k, hk⟩ := hc n
    obtain ⟨bound, hbound⟩ := ih
    refine ⟨max k bound, fun n' hn' => .cons ?_ (hbound n' (le_of_max_le_right hn'))⟩
    exact hk.trans_isPart (c'.isPart_cut (le_of_max_le_left hn'))

/-- Whatever is known of some connections, others like them go the same way. -/
theorem SameNoticed.exists_cut {timed : Bool} {transport transport' : Transport}
    (h : SameNoticed timed transport transport') (m n : ℕ) :
    ∃ n', List.Forall₂ (Attempt.GoesLike timed) (transport.cut m n) (transport'.cut m n') := by
  obtain ⟨bound, hbound⟩ :=
    exists_goesLike_cut ((Transport.forall₂_take h m).imp fun _ _ hc => hc.1) n
  exact ⟨bound, hbound bound le_rfl⟩

end Transport

namespace PushChannel

variable {strategy : ReconnectStrategy} {reconnectOnError timed : Bool}
  {transport transport' : Transport} {done : List (Timed Act)}

/-- What is done on a transport is matched by what is done on one that brings the same reports. -/
theorem IsRunPrefix.exists_alike (h : IsRunPrefix strategy reconnectOnError transport done)
    (hsame : transport.SameNoticed timed transport') :
    ∃ done', IsRunPrefix strategy reconnectOnError transport' done' ∧
      List.Forall₂ (Timed.Alike timed) done done' := by
  obtain ⟨m, n, hpre⟩ := h
  obtain ⟨n', hcut⟩ := hsame.exists_cut m n
  have hacts : Timed.BeginsAlike timed (acts strategy reconnectOnError 0 0 (transport.cut m n))
      (acts strategy reconnectOnError 0 0 (transport'.cut m n')) :=
    beginsAlike_acts hcut fun _ => rfl
  obtain ⟨done', hdone', halike⟩ := (hacts.left_mono hpre).exists_alike_part
  exact ⟨done', ⟨m, n', hdone'⟩, halike⟩

/-- Acts that are alike send the same messages. -/
theorem inbound_value_congr {done done' : List (Timed Act)}
    (h : List.Forall₂ (Timed.Alike timed) done done') :
    (inbound done').map (·.value) = (inbound done).map (·.value) := by
  induction h with
  | nil => rfl
  | @cons x y xs ys hxy _ ih =>
    obtain ⟨time, act⟩ := x
    obtain ⟨time', act'⟩ := y
    obtain rfl : act = act' := hxy.value
    cases act with
    | send message => exact congrArg (message :: ·) ih
    | publish | connect | release | stop => exact ih

/-- They make as many attempts. -/
theorem length_connects_congr {done done' : List (Timed Act)}
    (h : List.Forall₂ (Timed.Alike timed) done done') :
    (connects done').length = (connects done).length := by
  induction h with
  | nil => rfl
  | @cons x y xs ys hxy _ ih =>
    simp only [connects, List.length_map] at ih ⊢
    rw [List.filter_cons, List.filter_cons, hxy.value]
    split_ifs
    · exact congrArg (· + 1) ih
    · exact ih

/-! ### What reaches the session -/

/-- These messages are sent on a transport by some time, for which so many attempts to connect are
made. -/
def IsSent (strategy : ReconnectStrategy) (reconnectOnError : Bool) (transport : Transport)
    (messages : List Inbound) (attempts : ℕ) : Prop :=
  ∃ done, IsRunPrefix strategy reconnectOnError transport done ∧
    (inbound done).map (·.value) = messages ∧ (connects done).length = attempts

/-- What is sent on a transport is sent on any that brings the same reports. -/
theorem IsSent.of_sameNoticed {messages : List Inbound} {attempts : ℕ}
    (h : IsSent strategy reconnectOnError transport messages attempts)
    (hsame : transport.SameNoticed timed transport') :
    IsSent strategy reconnectOnError transport' messages attempts := by
  obtain ⟨done, hdone, hmessages, hattempts⟩ := h
  obtain ⟨done', hdone', halike⟩ := hdone.exists_alike hsame
  refine ⟨done', hdone', ?_, ?_⟩
  · rw [inbound_value_congr halike, hmessages]
  · rw [length_connects_congr halike, hattempts]

/-- If the reports come at the same times, the same is done at the same times. -/
theorem IsRunPrefix.of_sameNoticed (h : IsRunPrefix strategy reconnectOnError transport done)
    (hsame : transport.SameNoticed true transport') :
    IsRunPrefix strategy reconnectOnError transport' done := by
  obtain ⟨done', hdone', halike⟩ := h.exists_alike hsame
  rwa [Timed.forall₂_alike_eq halike]

/-- **Exactly the valid frames.** On every transport, what is pushed by some time is the beginning
of what is delivered of the attempts that are made, and whatever is known of the transport, all
that is delivered of it is pushed by some time. Nothing changes if connections are other than they
were after their first close or failure. Nor do the messages and the number of attempts, if
connections differ in what goes unnoticed; if what is noticed comes at the same times, nothing
changes at all. -/
theorem runPrefix_delivers (strategy : ReconnectStrategy) (reconnectOnError : Bool)
    (transport : Transport) :
    ((∀ done, IsRunPrefix strategy reconnectOnError transport done →
        ∃ m n, pushed (inbound done) <+: delivered reconnectOnError (transport.cut m n)) ∧
      ∀ m n, ∃ done, IsRunPrefix strategy reconnectOnError transport done ∧
        pushed (inbound done) = delivered reconnectOnError (transport.cut m n)) ∧
    (∀ transport', transport.SameUntilEnd transport' →
      ∀ done, IsRunPrefix strategy reconnectOnError transport' done ↔
        IsRunPrefix strategy reconnectOnError transport done) ∧
    ∀ timed transport', transport.SameNoticed timed transport' →
      (∀ messages attempts, IsSent strategy reconnectOnError transport' messages attempts ↔
        IsSent strategy reconnectOnError transport messages attempts) ∧
      (timed = true → ∀ done, IsRunPrefix strategy reconnectOnError transport' done ↔
        IsRunPrefix strategy reconnectOnError transport done) := by
  refine ⟨⟨?_, fun m n => ?_⟩, fun transport' hsame done => ?_, fun timed transport' hsame => ?_⟩
  · rintro done ⟨m, n, rest, hall⟩
    refine ⟨m, n, pushed (inbound rest), ?_⟩
    rw [← pushed_append, ← inbound_append, hall, pushed_acts]
  · exact ⟨_, ⟨m, n, List.prefix_rfl⟩, pushed_acts _ _ _ _ _⟩
  · simp only [IsRunPrefix, acts_cut_congr hsame]
  · refine ⟨fun messages attempts => ⟨fun h => h.of_sameNoticed hsame.symm,
      fun h => h.of_sameNoticed hsame⟩, ?_⟩
    rintro rfl done
    exact ⟨fun h => h.of_sameNoticed hsame.symm, fun h => h.of_sameNoticed hsame⟩

/-- A frame with one figure. -/
def frameWithCva : TransportEvent :=
  .text "\x7b\"type\":\"risk\",\"data\":\x7b\"cva\":1\x7d\x7d"

/-- A connection that brings the frame and closes. -/
def framed : Connection :=
  .opened 2 ((Seq.ofList [⟨1, frameWithCva⟩]).append (Seq.nil.cons ⟨5, .closed⟩)) false

/-- The same connection with a text before the close that is no frame. -/
def pinged : Connection :=
  .opened 2 ((Seq.ofList [⟨1, frameWithCva⟩]).append
    ((Seq.nil.cons ⟨2, .closed⟩).cons ⟨3, .text "ping"⟩)) false

/-- And with the frame once more after the close. -/
def pingedAndLate : Connection :=
  .opened 2 (Seq.ofList
    [⟨1, frameWithCva⟩, ⟨3, .text "ping"⟩, ⟨2, .closed⟩, ⟨1, frameWithCva⟩]) false

/-- The same is done on all three connections, and the frame is pushed once. -/
theorem runPrefix_delivers_framed :
    (∃ done, IsRunPrefix (.fixed 3000) true (Seq.ofList [pinged]) done ∧
      pushed (inbound done) = [.risk { Patch.empty with cva := some .one }]) ∧
    (∀ done, IsRunPrefix (.fixed 3000) true (Seq.ofList [pingedAndLate]) done ↔
      IsRunPrefix (.fixed 3000) true (Seq.ofList [pinged]) done) ∧
    (∀ done, IsRunPrefix (.fixed 3000) true (Seq.ofList [framed]) done ↔
      IsRunPrefix (.fixed 3000) true (Seq.ofList [pinged]) done) ∧
    ∀ messages attempts, IsSent (.fixed 3000) true (Seq.ofList [framed]) messages attempts ↔
      IsSent (.fixed 3000) true (Seq.ofList [pinged]) messages attempts := by
  have hping : (TransportEvent.text "ping").isIgnored = true := by decide +kernel
  obtain ⟨⟨-, hall⟩, hend, hunnoticed⟩ :=
    runPrefix_delivers (.fixed 3000) true (Seq.ofList [pinged])
  have hlate : Transport.SameUntilEnd (Seq.ofList [pinged]) (Seq.ofList [pingedAndLate]) := by
    intro i
    rcases i with _ | i
    · refine .some (.opened 2 (fun i hi => ?_) fun _ => rfl)
      -- beyond the third report the close is among those before
      rcases i with _ | _ | _ | i
      · rfl
      · rfl
      · rfl
      · have hclosed : TransportEvent.isText .closed := hi 2 (by omega) ⟨2, .closed⟩ rfl
        cases hclosed
    · exact .none
  have hinsert : Transport.SameNoticed true (Seq.ofList [pinged]) (Seq.ofList [framed]) := by
    intro i
    rcases i with _ | i
    · exact .some (Connection.sameNoticed_insert true 2 [⟨1, frameWithCva⟩] hping ⟨2, .closed⟩
        .nil false)
    · exact .none
  obtain ⟨hsent, hdone⟩ := hunnoticed true _ hinsert
  refine ⟨?_, hend _ hlate, hdone rfl, hsent⟩
  obtain ⟨done, hrun, hpushed⟩ := hall 1 3
  exact ⟨done, hrun, hpushed.trans (by decide +kernel)⟩

end PushChannel

end RiskBoard
