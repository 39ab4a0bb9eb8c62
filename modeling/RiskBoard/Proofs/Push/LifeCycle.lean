import Mathlib.Data.List.Chain
import RiskBoard.Proofs.Push.Transport

/-!
# The life cycle of the push connection

The messages that the channel sends are a walk in a small graph: `PushChannel.Follows` says which
message may come directly after which, and the channel walks from the state `disconnected`, where
it is before it sends anything. An open connection is heard (`PushChannel.walk_listen`), an attempt
is made (`PushChannel.walk_attempt`) and attempts follow each other (`PushChannel.walk_acts`) along
this graph, and what is sent by some time is the first part of such a walk. `LifeCycle` spells out
what a walk amounts to.

A state is published before it is told. `PushChannel.Paired` lists of acts do both together, so
that between two messages those who watch see the state that was told last.
-/

namespace RiskBoard

/-- The state of the channel that a message tells. -/
def Inbound.told? : Inbound → Option ChannelState
  | .channel state => some state
  | _ => none

namespace PushChannel

/-- The states of the channel that some messages tell, in order. -/
def told (sent : List (Timed Inbound)) : List ChannelState := sent.filterMap (·.value.told?)

/-- The life cycle of the push connection, as a law of the messages that are sent. -/
structure LifeCycle (reconnectOnError : Bool) (sent : List (Timed Inbound)) : Prop where
  starts : ∀ m ∈ sent.head?, m.value = .channel .connecting
  after_connecting : ∀ time m, [⟨time, .channel .connecting⟩, m] <:+: sent →
    m.value = .channel .connected ∨ m.value = .channel .error
  /-- Something is pushed only while the last state that was told is `connected`. -/
  pushed_connected : ∀ before time push, before ++ [⟨time, .pushed push⟩] <+: sent →
    (told before).getLast? = some .connected
  /-- What comes after `connected`, and some pushes, is another push or an end. -/
  after_connected : ∀ time pushes m, ⟨time, .channel .connected⟩ :: pushes ++ [m] <:+: sent →
    (∀ m ∈ pushes, ∃ push, m.value = .pushed push) →
    (∃ push, m.value = .pushed push) ∨ m.value = .channel .disconnected ∨
      m.value = .channel .error
  /-- An error is the last message, unless the channel is told to go on; then it is taken for a
  close at once. -/
  after_error : ∀ time m, [⟨time, .channel .error⟩, m] <:+: sent →
    reconnectOnError = true ∧ m = ⟨time, .channel .disconnected⟩
  after_disconnected : ∀ time m, [⟨time, .channel .disconnected⟩, m] <:+: sent →
    m.value = .channel .connecting
  /-- No state is told twice in a row, whatever is pushed in between. -/
  told_ne : (told sent).IsChain (· ≠ ·)

/-! ### The graph of messages -/

/-- A message that leaves the connection open: that it opened, or a push. -/
inductive IsOpen : Inbound → Prop
  | connected : IsOpen (.channel .connected)
  | pushed (push : PushMessage) : IsOpen (.pushed push)

/-- Which message may be sent directly after which. -/
inductive Follows (reconnectOnError : Bool) : Timed Inbound → Timed Inbound → Prop
  | accepted (t u : ℕ) :
    Follows reconnectOnError ⟨t, .channel .connecting⟩ ⟨u, .channel .connected⟩
  | refused (t u : ℕ) :
    Follows reconnectOnError ⟨t, .channel .connecting⟩ ⟨u, .channel .error⟩
  | pushed (t u : ℕ) {m : Inbound} (h : IsOpen m) (push : PushMessage) :
    Follows reconnectOnError ⟨t, m⟩ ⟨u, .pushed push⟩
  | closed (t u : ℕ) {m : Inbound} (h : IsOpen m) :
    Follows reconnectOnError ⟨t, m⟩ ⟨u, .channel .disconnected⟩
  | failed (t u : ℕ) {m : Inbound} (h : IsOpen m) :
    Follows reconnectOnError ⟨t, m⟩ ⟨u, .channel .error⟩
  | recovered (t : ℕ) (h : reconnectOnError = true) :
    Follows reconnectOnError ⟨t, .channel .error⟩ ⟨t, .channel .disconnected⟩
  | retried (t u : ℕ) :
    Follows reconnectOnError ⟨t, .channel .disconnected⟩ ⟨u, .channel .connecting⟩

/-- A walk from a message over some more messages to the last of them. -/
inductive Walk (reconnectOnError : Bool) :
    Timed Inbound → List (Timed Inbound) → Timed Inbound → Prop
  | nil (x : Timed Inbound) : Walk reconnectOnError x [] x
  | cons {x y z : Timed Inbound} {path : List (Timed Inbound)} (h : Follows reconnectOnError x y)
    (rest : Walk reconnectOnError y path z) : Walk reconnectOnError x (y :: path) z

/-- The state that a message leaves the channel in; a push leaves it `connected`. -/
def phase (message : Inbound) : ChannelState := message.told?.getD .connected

@[simp] theorem phase_channel (state : ChannelState) : phase (.channel state) = state := rfl

section Told

variable {m : Timed Inbound} {sent : List (Timed Inbound)}

/-- States are told in the order of the messages. -/
theorem told_append {sent' : List (Timed Inbound)} :
    told (sent ++ sent') = told sent ++ told sent' :=
  List.filterMap_append

/-- A message that tells no state leaves the list of states as it is. -/
private theorem told_cons_of_none (h : m.value.told? = none) : told (m :: sent) = told sent := by
  simp [told, h]

private theorem told_cons_of_some {state : ChannelState} (h : m.value.told? = some state) :
    told (m :: sent) = state :: told sent := by
  simp [told, h]

end Told

section Walks

variable {reconnectOnError : Bool} {x y z : Timed Inbound} {path path' : List (Timed Inbound)}

/-- While the connection is open the channel is `connected`. -/
theorem IsOpen.phase {message : Inbound} (h : IsOpen message) :
    phase message = .connected := by
  cases h <;> rfl

/-- A walk can be cut at any message, and walks that meet are one. -/
theorem Walk.append_iff : Walk reconnectOnError x (path ++ path') z ↔
    ∃ y, Walk reconnectOnError x path y ∧ Walk reconnectOnError y path' z := by
  constructor
  · intro h
    induction path generalizing x with
    | nil => exact ⟨x, .nil x, h⟩
    | cons first rest ih =>
      obtain _ | ⟨hfirst, hrest⟩ := h
      obtain ⟨y, hy, hz⟩ := ih hrest
      exact ⟨y, .cons hfirst hy, hz⟩
  · rintro ⟨y, hy, hz⟩
    induction hy with
    | nil => exact hz
    | cons hfirst _ ih => exact .cons hfirst (ih hz)

/-- A walk ends with its last message. -/
theorem Walk.getLast?_eq (h : Walk reconnectOnError x path z) : path.getLast?.getD x = z := by
  induction h with
  | nil => rfl
  | cons _ _ ih => rwa [List.getLast?_cons, Option.getD_some]

/-- Neighbours on a walk follow each other in the graph. -/
theorem Walk.follows {before after : List (Timed Inbound)} {a b : Timed Inbound}
    (h : Walk reconnectOnError x (before ++ a :: b :: after) z) : Follows reconnectOnError a b := by
  obtain ⟨w, -, h⟩ := Walk.append_iff.mp h
  obtain _ | ⟨-, _ | ⟨hab, -⟩⟩ := h
  exact hab

theorem Walk.follows_of_infix {a b : Timed Inbound} (h : Walk reconnectOnError x path z)
    (hab : [a, b] <:+: path) : Follows reconnectOnError a b := by
  obtain ⟨before, after, rfl⟩ := hab
  rw [List.append_assoc] at h
  exact h.follows

/-- A push tells no state and leaves the channel in its state; any other message tells a new
state. -/
theorem Follows.told? (h : Follows reconnectOnError x y) :
    y.value.told? = none ∧ phase y.value = phase x.value ∨
      y.value.told? = some (phase y.value) ∧ phase x.value ≠ phase y.value := by
  cases h with
  | pushed t u hopen push => exact .inl ⟨rfl, hopen.phase.symm⟩
  | closed t u hopen | failed t u hopen => exact .inr ⟨rfl, by simp [hopen.phase]⟩
  | accepted | refused | recovered | retried => exact .inr ⟨rfl, by simp⟩

/-- Something is pushed only onto an open connection. -/
theorem Follows.isOpen_of_pushed {time : ℕ} {push : PushMessage}
    (h : Follows reconnectOnError x ⟨time, .pushed push⟩) : IsOpen x.value := by
  cases h with
  | pushed _ _ hopen => exact hopen

/-- From `disconnected` there is only the next attempt. -/
theorem Follows.of_disconnected {time : ℕ}
    (h : Follows reconnectOnError ⟨time, .channel .disconnected⟩ y) :
    y.value = .channel .connecting := by
  cases h with
  | retried => rfl
  | pushed _ _ hopen | closed _ _ hopen | failed _ _ hopen => cases hopen

/-- The last state that was told is the one that the last message leaves the channel in. -/
theorem Walk.phase_eq (h : Walk reconnectOnError x path z) :
    (told path).getLast?.getD (phase x.value) = phase z.value := by
  induction h with
  | nil => rfl
  | @cons x y z path hxy _ ih =>
    rcases hxy.told? with ⟨hnone, hphase⟩ | ⟨hsome, -⟩
    · rw [told_cons_of_none hnone, ← hphase]
      exact ih
    · rw [told_cons_of_some hsome, List.getLast?_cons, Option.getD_some]
      exact ih

/-- No state is told twice in a row. -/
theorem Walk.told_ne (h : Walk reconnectOnError x path z) :
    (phase x.value :: told path).IsChain (· ≠ ·) := by
  induction h with
  | nil => exact .singleton _
  | @cons x y z path hxy _ ih =>
    rcases hxy.told? with ⟨hnone, hphase⟩ | ⟨hsome, hne⟩
    · rw [told_cons_of_none hnone, ← hphase]
      exact ih
    · rw [told_cons_of_some hsome]
      exact .cons_cons hne ih

/-- Pushes leave an open connection open. -/
theorem Walk.isOpen (h : Walk reconnectOnError x path z) (hx : IsOpen x.value)
    (hpath : ∀ m ∈ path, ∃ push, m.value = .pushed push) : IsOpen z.value := by
  induction h with
  | nil => exact hx
  | @cons x y z path _ _ ih =>
    obtain ⟨hy, hpath⟩ := List.forall_mem_cons.mp hpath
    obtain ⟨push, hy⟩ := hy
    exact ih (hy ▸ .pushed push) hpath

/-- **Walks are life cycles.** Whatever is sent along a walk from `disconnected` obeys the law. -/
theorem Walk.lifeCycle {time : ℕ} {sent : List (Timed Inbound)}
    (h : Walk reconnectOnError ⟨time, .channel .disconnected⟩ sent z) :
    LifeCycle reconnectOnError sent where
  starts := by
    rintro m hm
    obtain _ | ⟨hfirst, -⟩ := h
    · cases hm
    · cases hm
      exact hfirst.of_disconnected
  after_connecting := by
    intro time m hm
    cases h.follows_of_infix hm with
    | accepted => exact .inl rfl
    | refused => exact .inr rfl
    | pushed _ _ hopen | closed _ _ hopen | failed _ _ hopen => cases hopen
  pushed_connected := by
    rintro before time push ⟨after, rfl⟩
    rw [List.append_assoc] at h
    -- a push follows only a message `y` of an open connection, which the last state told is
    obtain ⟨y, hy, hrest⟩ := Walk.append_iff.mp h
    obtain _ | ⟨hpush, -⟩ := hrest
    have hphase := hy.phase_eq
    rw [hpush.isOpen_of_pushed.phase, phase_channel] at hphase
    cases hlast : (told before).getLast? with
    | none => simp [hlast] at hphase
    | some state => exact congrArg some (by simpa [hlast] using hphase)
  after_connected := by
    rintro time pushes m ⟨before, after, rfl⟩ hpushes
    simp only [List.append_assoc, List.cons_append] at h
    obtain ⟨y, -, hrest⟩ := Walk.append_iff.mp h
    obtain _ | ⟨-, hrest⟩ := hrest
    obtain ⟨w, hw, hrest⟩ := Walk.append_iff.mp hrest
    have hopen : IsOpen w.value := hw.isOpen .connected hpushes
    obtain _ | ⟨hm, -⟩ := hrest
    cases hm with
    | pushed _ _ _ push => exact .inl ⟨push, rfl⟩
    | closed => exact .inr (.inl rfl)
    | failed => exact .inr (.inr rfl)
    | accepted | refused | recovered | retried => cases hopen
  after_error := by
    intro time m hm
    cases h.follows_of_infix hm with
    | recovered _ hflag => exact ⟨hflag, rfl⟩
    | pushed _ _ hopen | closed _ _ hopen | failed _ _ hopen => cases hopen
  after_disconnected := fun _ _ hm => (h.follows_of_infix hm).of_disconnected
  told_ne := h.told_ne.tail

end Walks

/-! ### The channel walks -/

section Inbound

variable {time : ℕ} {done done' : List (Timed Act)}

@[simp] theorem inbound_nil : inbound [] = [] := rfl

/-- What is sent is sent in the order of the acts. -/
@[simp] theorem inbound_append : inbound (done ++ done') = inbound done ++ inbound done' :=
  List.filterMap_append

/-- Entering a state tells it once. -/
@[simp] theorem inbound_enter (state : ChannelState) :
    inbound (enter time state) = [⟨time, .channel state⟩] := rfl

@[simp] theorem inbound_connect : inbound (⟨time, .connect⟩ :: done) = inbound done := rfl

@[simp] theorem inbound_release : inbound (⟨time, .release⟩ :: done) = inbound done := rfl

@[simp] theorem inbound_stop : inbound (⟨time, .stop⟩ :: done) = inbound done := rfl

@[simp] theorem inbound_send (message : Inbound) :
    inbound (⟨time, .send message⟩ :: done) = ⟨time, message⟩ :: inbound done := rfl

end Inbound

/-- The message that an attempt ends with. -/
inductive Ends : Ending → ℕ → Timed Inbound → Prop
  | closed (time : ℕ) : Ends .closed time ⟨time, .channel .disconnected⟩
  | failed (time : ℕ) : Ends .failed time ⟨time, .channel .error⟩
  | none (time : ℕ) {m : Timed Inbound} (h : IsOpen m.value) : Ends .none time m

section Walking

variable {strategy : ReconnectStrategy} {reconnectOnError : Bool}

/-- A message that may follow makes a walk of one step. -/
private theorem walk_single {x y : Timed Inbound} (h : Follows reconnectOnError x y) :
    Walk reconnectOnError x [y] y :=
  .cons h (.nil y)

/-- Listening walks from an open connection to the end of it, or stays in it. -/
theorem walk_listen (silent : Bool) (time : ℕ) (arrivals : List Arrival) {m : Inbound} (t : ℕ)
    (hm : IsOpen m) :
    ∃ y, Walk reconnectOnError ⟨t, m⟩ (inbound (listen silent time arrivals).1) y ∧
      Ends (listen silent time arrivals).2.1 (listen silent time arrivals).2.2 y := by
  induction arrivals generalizing t time m with
  | nil =>
    rw [listen]
    split_ifs
    · exact ⟨_, .nil _, .none time hm⟩
    · exact ⟨_, walk_single (.closed t time hm), .closed time⟩
  | cons arrival rest ih =>
    rw [listen]
    cases arrival.event with
    | closed => exact ⟨_, walk_single (.closed t _ hm), .closed _⟩
    | failed reason => exact ⟨_, walk_single (.failed t _ hm), .failed _⟩
    | text text =>
      cases hd : dispatch text with
      | none =>
        obtain ⟨y, hwalk, hends⟩ := ih (time + arrival.after) t hm
        exact ⟨y, by simpa [hd] using hwalk, hends⟩
      | some push =>
        obtain ⟨y, hwalk, hends⟩ :=
          ih (time + arrival.after) (time + arrival.after) (.pushed push)
        exact ⟨y, by simpa [hd] using .cons (.pushed t _ hm push) hwalk, hends⟩

/-- An attempt walks from `disconnected` to the end of the connection, or to its open part. -/
theorem walk_attempt (reconnectOnError : Bool) (time : ℕ) (a : Attempt) (t : ℕ) :
    ∃ y, Walk reconnectOnError ⟨t, .channel .disconnected⟩ (inbound (attempt time a).1) y ∧
      Ends (attempt time a).2.1 (attempt time a).2.2 y := by
  cases a with
  | refused latency =>
    have hwalk : Walk reconnectOnError ⟨t, .channel .disconnected⟩
        [⟨time, .channel .connecting⟩, ⟨time + latency, .channel .error⟩]
        ⟨time + latency, .channel .error⟩ :=
      .cons (.retried t time) (walk_single (.refused time _))
    exact ⟨_, hwalk, .failed _⟩
  | opened latency arrivals silent =>
    obtain ⟨y, hwalk, hends⟩ :=
      walk_listen silent (time + latency) arrivals (time + latency) .connected
    refine ⟨y, ?_, hends⟩
    simpa [attempt] using .cons (.retried t time) (.cons (.accepted time _) hwalk)

/-- All that is ever sent is sent along a walk, which does not stop at an error that is taken for a
close. -/
theorem walk_acts (strategy : ReconnectStrategy) (reconnectOnError : Bool) (count time : ℕ)
    (attempts : List Attempt) (t : ℕ) :
    ∃ y, Walk reconnectOnError ⟨t, .channel .disconnected⟩
        (inbound (acts strategy reconnectOnError count time attempts)) y ∧
      (reconnectOnError = true → y.value ≠ .channel .error) := by
  induction attempts generalizing count time t with
  | nil => exact ⟨_, .nil _, fun _ => by simp⟩
  | cons a rest ih =>
    rw [acts_cons, inbound_append, inbound_append]
    obtain ⟨y, hwalk, hends⟩ := walk_attempt reconnectOnError time a t
    generalize (attempt time a).2.1 = ending, (attempt time a).2.2 = time' at hends ⊢
    cases hends with
    | closed =>
      obtain ⟨z, hrest, hz⟩ := ih _ _ time'
      exact ⟨z, Walk.append_iff.mpr ⟨_, hwalk, hrest⟩, hz⟩
    | failed =>
      cases reconnectOnError with
      | false => exact ⟨_, by simpa [afterEnding] using hwalk, fun h => by cases h⟩
      | true =>
        -- the error is taken for a close at the same time, from which the next attempt starts
        obtain ⟨z, hrest, hz⟩ := ih _ _ time'
        exact ⟨z, Walk.append_iff.mpr ⟨_, hwalk, .cons (.recovered time' rfl) hrest⟩, hz⟩
    | none _ hopen =>
      refine ⟨y, by simpa [afterEnding] using hwalk, fun _ hy => ?_⟩
      rw [hy] at hopen
      cases hopen

end Walking

/-! ### What those who watch see -/

/-- Acts in which a state is told exactly when it was published just before. -/
inductive Paired : List (Timed Act) → Prop
  | nil : Paired []
  | enter (time : ℕ) (state : ChannelState) {rest : List (Timed Act)} (h : Paired rest) :
    Paired (enter time state ++ rest)
  | other (act : Timed Act) {rest : List (Timed Act)} (hseen : ∀ s, act.value.seen s = s)
    (htold : told (inbound [act]) = []) (h : Paired rest) : Paired (act :: rest)

section Watching

variable {done all : List (Timed Act)}

/-- Paired lists may follow each other. -/
theorem Paired.append (h : Paired done) (h' : Paired all) : Paired (done ++ all) := by
  induction h with
  | nil => exact h'
  | enter time state _ ih => exact .enter time state ih
  | other act hseen htold _ ih => exact .other act hseen htold ih

/-- Entering a state publishes it and tells it at once. -/
theorem paired_enter (time : ℕ) (state : ChannelState) : Paired (enter time state) :=
  .enter time state .nil

theorem Paired.connect {time : ℕ} (h : Paired done) : Paired (⟨time, .connect⟩ :: done) :=
  .other _ (fun _ => rfl) rfl h

/-- Listening publishes a state only to tell it. -/
theorem paired_listen (silent : Bool) (time : ℕ) (arrivals : List Arrival) :
    Paired (listen silent time arrivals).1 := by
  have hrelease (time : ℕ) (state : ChannelState) :
      Paired (enter time state ++ [⟨time, .release⟩]) :=
    .enter time state (.other _ (fun _ => rfl) rfl .nil)
  induction arrivals generalizing time with
  | nil =>
    rw [listen]
    split_ifs
    · exact .nil
    · exact hrelease time .disconnected
  | cons arrival rest ih =>
    rw [listen]
    cases arrival.event with
    | closed => exact hrelease _ .disconnected
    | failed reason => exact hrelease _ .error
    | text text =>
      cases hd : dispatch text with
      | none => simpa [hd] using ih (time + arrival.after)
      | some push =>
        simpa [hd] using .other _ (fun _ => rfl) rfl (ih (time + arrival.after))

/-- So does an attempt. -/
theorem paired_attempt (time : ℕ) (a : Attempt) : Paired (attempt time a).1 := by
  cases a with
  | refused latency => exact .enter _ _ (paired_enter _ _).connect
  | opened latency arrivals silent =>
    exact .enter _ _ (Paired.connect (.enter _ _ (paired_listen silent _ arrivals)))

theorem paired_afterEnding (reconnectOnError : Bool) (time : ℕ) (ending : Ending) :
    Paired (afterEnding reconnectOnError time ending).1 := by
  cases ending with
  | closed | none => exact .nil
  | failed =>
    cases reconnectOnError with
    | true => exact paired_enter time .disconnected
    | false => exact .other _ (fun _ => rfl) rfl .nil

/-- So does everything that is ever done. -/
theorem paired_acts (strategy : ReconnectStrategy) (reconnectOnError : Bool) (count time : ℕ)
    (attempts : List Attempt) : Paired (acts strategy reconnectOnError count time attempts) := by
  induction attempts generalizing count time with
  | nil => exact .nil
  | cons a rest ih =>
    rw [acts_cons]
    refine (paired_attempt time a).append ((paired_afterEnding _ _ _).append ?_)
    split_ifs
    · exact ih _ _
    · exact .nil

/-- Unless the last act published a state that is still to be told, those who watch see the state
that was told last. -/
theorem Paired.state_eq (h : Paired all) (hdone : done <+: all)
    (hlast : ∀ time state, done.getLast? ≠ some ⟨time, .publish state⟩) (before : ChannelState) :
    done.foldl (fun state act => act.value.seen state) before =
      (told (inbound done)).getLast?.getD before := by
  induction h generalizing done before with
  | nil =>
    rw [List.prefix_nil.mp hdone]
    rfl
  | enter time state _ ih =>
    rcases List.prefix_cons_iff.mp hdone with rfl | ⟨done₁, rfl, hdone₁⟩
    · rfl
    rcases List.prefix_cons_iff.mp hdone₁ with rfl | ⟨done₂, rfl, hdone₂⟩
    · -- the state is published but still to be told
      exact absurd rfl (hlast time state)
    have heq := ih hdone₂ (fun t s h => hlast t s (by simp [List.getLast?_cons, h])) state
    change _ = (state :: told (inbound done₂)).getLast?.getD before
    rw [List.getLast?_cons, Option.getD_some, ← heq]
    rfl
  | other act hseen htold _ ih =>
    rcases List.prefix_cons_iff.mp hdone with rfl | ⟨done₁, rfl, hdone₁⟩
    · rfl
    have heq := ih hdone₁ (fun t s h => hlast t s (by simp [List.getLast?_cons, h])) before
    rw [List.foldl_cons, hseen, heq, ← List.singleton_append, inbound_append, told_append, htold,
      List.nil_append]

end Watching

/-! ### The life cycle -/

section Runs

variable {strategy : ReconnectStrategy} {reconnectOnError : Bool} {transport : Transport}
  {done : List (Timed Act)}

/-- What was done is the first part of more that is done, and all that is sent is sent along a walk
that does not end with an error that is taken for a close. -/
theorem IsRunPrefix.walk (h : IsRunPrefix strategy reconnectOnError transport done) :
    ∃ rest x y, IsRunPrefix strategy reconnectOnError transport (done ++ rest) ∧
      Walk reconnectOnError ⟨0, .channel .disconnected⟩ (inbound done) x ∧
      Walk reconnectOnError x (inbound rest) y ∧
      (reconnectOnError = true → y.value ≠ .channel .error) := by
  obtain ⟨m, n, rest, hall⟩ := h
  obtain ⟨y, hwalk, hy⟩ := walk_acts strategy reconnectOnError 0 0 (transport.cut m n) 0
  rw [← hall, inbound_append] at hwalk
  obtain ⟨x, hdone, hrest⟩ := Walk.append_iff.mp hwalk
  exact ⟨rest, x, y, ⟨m, n, hall ▸ List.prefix_rfl⟩, hdone, hrest, hy⟩

/-- An error that is taken for a close is not the last message. -/
theorem IsRunPrefix.exists_recovery (h : IsRunPrefix strategy true transport done) {time : ℕ}
    (herror : (inbound done).getLast? = some ⟨time, .channel .error⟩) :
    ∃ later, IsRunPrefix strategy true transport (done ++ later) ∧
      inbound later = [⟨time, .channel .disconnected⟩] := by
  obtain ⟨rest, x, y, hall, hdone, hrest, hy⟩ := h.walk
  obtain rfl : x = ⟨time, .channel .error⟩ := by
    rw [← hdone.getLast?_eq, herror, Option.getD_some]
  generalize hpath : inbound rest = path at hrest
  obtain _ | ⟨hnext, -⟩ := hrest
  · exact absurd rfl (hy rfl)
  cases hnext with
  | recovered =>
    -- what is done before the message is sent sends nothing itself
    obtain ⟨before, act, after, rfl, hbefore, hact, -⟩ := List.filterMap_eq_cons_iff.mp hpath
    have hnil : inbound before = [] := List.filterMap_eq_nil_iff.mpr hbefore
    have hone : inbound [act] = [⟨time, .channel .disconnected⟩] := by
      simp only [inbound, List.filterMap_cons, hact, List.filterMap_nil]
    refine ⟨before ++ [act], hall.mono ⟨after, by simp⟩, ?_⟩
    rw [inbound_append, hnil, hone, List.nil_append]
  | pushed _ _ hopen | closed _ _ hopen | failed _ _ hopen => cases hopen

/-- **The life cycle of the push connection.** On every transport, what was sent by some time obeys
the life cycle; an error that is taken for a close is followed by `disconnected` at the same time;
and unless a state was published that is still to be told, those who watch see the state that was
told last, or `disconnected` before the first. -/
theorem runPrefix_lifeCycle (h : IsRunPrefix strategy reconnectOnError transport done) :
    LifeCycle reconnectOnError (inbound done) ∧
      (∀ time, reconnectOnError = true →
        (inbound done).getLast? = some ⟨time, .channel .error⟩ →
        ∃ later, IsRunPrefix strategy reconnectOnError transport (done ++ later) ∧
          inbound later = [⟨time, .channel .disconnected⟩]) ∧
      ((∀ time s, done.getLast? ≠ some ⟨time, .publish s⟩) →
        state done = (told (inbound done)).getLast?.getD .disconnected) := by
  refine ⟨?_, ?_, fun hlast => ?_⟩
  · obtain ⟨-, x, -, -, hdone, -⟩ := h.walk
    exact hdone.lifeCycle
  · rintro time rfl herror
    exact h.exists_recovery herror
  · obtain ⟨m, n, hpre⟩ := h
    exact (paired_acts _ _ _ _ _).state_eq hpre hlast .disconnected

/-- A transport whose first connection is reset, and which then refuses every attempt. -/
def resetThenRefusing : Transport :=
  Stream'.Seq.cons (.opened 2 (Stream'.Seq.ofList [⟨1, .failed "reset"⟩]) false)
    (Stream'.Seq.ofStream (Stream'.const (.refused 5)))

/-- What is done on it until the first error is told. -/
def untilReset : List (Timed Act) :=
  enter 0 .connecting ++ ⟨0, .connect⟩ :: (enter 2 .connected ++ enter 3 .error)

/-- Up to its first error this transport obeys the law, and next `disconnected` is told at the same
time. -/
theorem untilReset_lifeCycle :
    IsRunPrefix (.fixed 3000) true resetThenRefusing untilReset ∧
      LifeCycle true (inbound untilReset) ∧ state untilReset = .error ∧
      ∃ later, IsRunPrefix (.fixed 3000) true resetThenRefusing (untilReset ++ later) ∧
        inbound later = [⟨3, .channel .disconnected⟩] := by
  have hrun : IsRunPrefix (.fixed 3000) true resetThenRefusing untilReset :=
    ⟨1, 1, ⟨⟨3, .release⟩ :: enter 3 .disconnected, rfl⟩⟩
  obtain ⟨hcycle, hrecovery, hstate⟩ := runPrefix_lifeCycle hrun
  refine ⟨hrun, hcycle, ?_, hrecovery 3 rfl rfl⟩
  exact hstate fun time s h => by cases h

end Runs

end PushChannel

end RiskBoard
