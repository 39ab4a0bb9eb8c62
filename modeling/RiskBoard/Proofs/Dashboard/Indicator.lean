import Mathlib.Logic.Relation
import RiskBoard.Proofs.Dashboard.Painting
import RiskBoard.Proofs.Push.LifeCycle

/-!
# The connection indicator

What the user sees of the push connection comes a long way: the channel sends its states into the
queue of the session, among messages of other producers, the session tells events, and the
dashboard shows them. `Pipeline.Step` lets the four act in any order. What the indicator will show
once all that is on its way has arrived is at any time the latest status that the channel has sent
(`Pipeline.IsFaithful`).

An attempt shows nothing, so that status need not be the one of the channel's state. It is right
nevertheless, since the channel walks: `PushChannel.Indicates` says which status belongs to a state
that is reached with a number of attempts, and every message that may follow keeps to it
(`PushChannel.Indicates.next`).
-/

namespace RiskBoard

open Inbound (latest)

/-- The status of the connection that a message tells. -/
def Inbound.status? (message : Inbound) : Option ConnectionStatus :=
  message.told?.bind (·.status?)

open Inbound (status? latest_append latest_cons)

/-! ### The walk of the channel -/

namespace PushChannel

/-- How many attempts to connect were begun. -/
def attempts (sent : List (Timed Inbound)) : ℕ := (told sent).count .connecting

/-- The messages that were sent, without their times. -/
def messages (sent : List (Timed Inbound)) : List Inbound := sent.map (·.value)

/-- The status that is right for a state that the channel is in after a number of attempts. Before
the first attempt has settled there is none, and while a later one is made it is still the one from
before, when the connection was lost. -/
inductive Indicates : ℕ → ChannelState → Option ConnectionStatus → Prop
  | unused : Indicates 0 .disconnected none
  | first : Indicates 1 .connecting none
  | again (n : ℕ) : Indicates (n + 2) .connecting (some .disconnected)
  | connected (n : ℕ) : Indicates (n + 1) .connected (some .connected)
  | error (n : ℕ) : Indicates (n + 1) .error (some .error)
  | disconnected (n : ℕ) : Indicates (n + 1) .disconnected (some .disconnected)

section Walks

variable {reconnectOnError : Bool} {x y z : Timed Inbound} {path : List (Timed Inbound)}
  {n : ℕ} {status : Option ConnectionStatus}

theorem attempts_cons (x : Timed Inbound) (sent : List (Timed Inbound)) :
    attempts (x :: sent) = attempts [x] + attempts sent := by
  rw [attempts, attempts, attempts, ← List.count_append, ← told_append, List.singleton_append]

/-- A step of the channel keeps the indicator true. -/
theorem Indicates.next (h : Indicates n (phase x.value) status)
    (hxy : Follows reconnectOnError x y) :
    Indicates (n + attempts [y]) (phase y.value) ((status? y.value).or status) := by
  cases hxy with
  | pushed t u hopen push =>
    rw [hopen.phase] at h
    exact h
  | accepted | refused =>
    -- a first attempt or a later one settles
    cases h
    · first | exact .connected 0 | exact .error 0
    · first | exact .connected _ | exact .error _
  | closed t u hopen | failed t u hopen =>
    rw [hopen.phase] at h
    cases h
    first | exact .disconnected _ | exact .error _
  | recovered =>
    cases h
    exact .disconnected _
  | retried =>
    cases h
    · exact .first
    · exact .again _

/-- So does a walk. -/
theorem Walk.indicates (hwalk : Walk reconnectOnError x path z)
    (h : Indicates n (phase x.value) status) :
    Indicates (n + attempts path) (phase z.value) ((latest status? (messages path)).or status) := by
  induction hwalk generalizing n status with
  | nil => exact h
  | @cons x y z path hxy _ ih =>
    have hnext := ih (h.next hxy)
    rw [attempts_cons, ← Nat.add_assoc]
    rwa [messages, List.map_cons, latest_cons, Option.or_assoc]

end Walks

section Runs

variable {strategy : ReconnectStrategy} {reconnectOnError : Bool} {transport : Transport}
  {done : List (Timed Act)}

/-- What was sent by some time tells the status that is right for the state that watchers see,
unless a state was published that is still to be told. -/
theorem IsRunPrefix.indicates (h : IsRunPrefix strategy reconnectOnError transport done)
    (hlast : ∀ time s, done.getLast? ≠ some ⟨time, .publish s⟩) :
    Indicates (attempts (inbound done)) (state done)
      (latest status? (messages (inbound done))) := by
  obtain ⟨-, x, -, -, hwalk, -, -⟩ := h.walk
  obtain ⟨m, n, hpre⟩ := h
  have hstate : state done = phase x.value :=
    ((paired_acts _ _ _ _ _).state_eq hpre hlast .disconnected).trans hwalk.phase_eq
  have hind := hwalk.indicates .unused
  rwa [Nat.zero_add, Option.or_none, ← hstate] at hind

end Runs

/-- What the channel does without a pause in between: to enter a state is to publish and to tell it;
everything else is done by itself. -/
inductive Burst : List (Timed Act) → Prop
  | enter (time : ℕ) (state : ChannelState) : Burst (enter time state)
  | single (act : Timed Act) (h : ∀ state, act.value ≠ .publish state) : Burst [act]

/-- After a burst no state is published that is still to be told. -/
theorem Burst.getLast?_ne {burst : List (Timed Act)} (h : Burst burst) (done : List (Timed Act))
    (time : ℕ) (s : ChannelState) : (done ++ burst).getLast? ≠ some ⟨time, .publish s⟩ := by
  cases h with
  | enter => simp [PushChannel.enter]
  | single act hact =>
    rw [List.getLast?_concat]
    rintro heq
    exact hact s (congrArg (·.value) (Option.some.inj heq))

end PushChannel

/-! ### From the channel to the dashboard -/

open PushChannel

/-- The channel, the session and the dashboard, with what is on its way between them. -/
structure Pipeline where
  /-- What the channel has done. -/
  done : List (Timed Act)
  /-- The messages that the session has not taken yet. -/
  queue : List Inbound
  session : Session
  /-- The events that the dashboard has not shown yet. -/
  unshown : List Event
  dashboard : Dashboard

namespace Pipeline

/-- Before anything was done. -/
def initial : Pipeline := ⟨[], [], .initial, [], .initial⟩

/-- What can happen next. Messages of other producers come in at any time; they never tell a state
of the channel. -/
inductive Step (strategy : ReconnectStrategy) (reconnectOnError : Bool) (transport : Transport)
    (p : Pipeline) : Pipeline → Prop
  /-- The channel goes on, and what it sends is queued. -/
  | channel (burst : List (Timed Act)) (hburst : Burst burst)
    (hrun : IsRunPrefix strategy reconnectOnError transport (p.done ++ burst)) :
    Step strategy reconnectOnError transport p
      { p with done := p.done ++ burst, queue := p.queue ++ messages (inbound burst) }
  /-- Another producer sends a message. -/
  | produce (message : Inbound) (h : message.told? = none) :
    Step strategy reconnectOnError transport p { p with queue := p.queue ++ [message] }
  /-- The session takes the first message of the queue. -/
  | take (message : Inbound) (rest : List Inbound) (r : Reaction)
    (hqueue : p.queue = message :: rest) (hstep : p.session.step? message = some r) :
    Step strategy reconnectOnError transport p
      { p with queue := rest, session := r.session, unshown := p.unshown ++ r.events }
  /-- The dashboard shows the next event. -/
  | present (event : Event) (rest : List Event) (h : p.unshown = event :: rest) :
    Step strategy reconnectOnError transport p
      { p with unshown := rest, dashboard := p.dashboard.apply event }

/-- What may be the case after any number of steps. -/
def Reachable (strategy : ReconnectStrategy) (reconnectOnError : Bool) (transport : Transport)
    (p : Pipeline) : Prop :=
  Relation.ReflTransGen (Step strategy reconnectOnError transport) initial p

/-- Nothing is on its way to the dashboard. -/
structure IsDrained (p : Pipeline) : Prop where
  queue : p.queue = []
  unshown : p.unshown = []

variable {strategy : ReconnectStrategy} {reconnectOnError : Bool} {transport : Transport}
  {p q : Pipeline}

/-! ### What an event and a message do to the indicator -/

/-- A message changes the indicator if it tells a status, and only then. -/
theorem status_of_step? {session : Session} {message : Inbound} {r : Reaction}
    (h : session.step? message = some r) (dashboard : Dashboard) :
    (dashboard.fold r.events).status = (status? message).or dashboard.status := by
  cases Session.step?_eq_some_iff.mp h with
  | replaced snapshot hk => cases snapshot <;> rfl
  | told state => cases state <;> rfl
  | _ => rfl

/-! ### The invariant -/

/-- What the channel has done is a part of its run, in which no state is published that is still to
be told; and once the queue is taken and all is shown, the indicator shows the latest status that
the channel has sent. -/
structure IsFaithful (strategy : ReconnectStrategy) (reconnectOnError : Bool)
    (transport : Transport) (p : Pipeline) : Prop where
  isRunPrefix : IsRunPrefix strategy reconnectOnError transport p.done
  told : ∀ time s, p.done.getLast? ≠ some ⟨time, .publish s⟩
  status : (latest status? p.queue).or (p.dashboard.fold p.unshown).status =
    latest status? (messages (inbound p.done))

/-- At first nothing has happened, and the indicator says so. -/
theorem isFaithful_initial : IsFaithful strategy reconnectOnError transport initial where
  isRunPrefix := ⟨0, 0, List.nil_prefix⟩
  told _ _ h := by cases h
  status := rfl

/-- Every step of the pipeline keeps the invariant, whichever part makes it. -/
theorem IsFaithful.step (h : IsFaithful strategy reconnectOnError transport p)
    (hstep : Step strategy reconnectOnError transport p q) :
    IsFaithful strategy reconnectOnError transport q := by
  cases hstep with
  | channel burst hburst hrun =>
    refine ⟨hrun, hburst.getLast?_ne p.done, ?_⟩
    simp only [inbound_append, messages, List.map_append, latest_append]
    rw [Option.or_assoc, h.status, messages]
  | produce message hm =>
    refine ⟨h.isRunPrefix, h.told, ?_⟩
    rw [← h.status, latest_append, latest_cons, status?, hm]
    rfl
  | take message rest r hqueue hs =>
    refine ⟨h.isRunPrefix, h.told, ?_⟩
    rw [← h.status, hqueue, Dashboard.fold_append, status_of_step? hs, latest_cons, Option.or_assoc]
  | present event rest hunshown =>
    refine ⟨h.isRunPrefix, h.told, ?_⟩
    rw [← h.status, hunshown]
    rfl

theorem Reachable.isFaithful (h : Reachable strategy reconnectOnError transport p) :
    IsFaithful strategy reconnectOnError transport p := by
  induction h with
  | refl => exact isFaithful_initial
  | tail _ hstep ih => exact ih.step hstep

/-- When nothing is on its way, the dashboard shows the status that is right for the channel. -/
theorem Reachable.indicates (h : Reachable strategy reconnectOnError transport p)
    (hdrained : p.IsDrained) :
    Indicates (attempts (inbound p.done)) (state p.done) p.dashboard.status := by
  have hf := h.isFaithful
  have hstatus := hf.status
  rw [hdrained.queue, hdrained.unshown] at hstatus
  have hind := hf.isRunPrefix.indicates hf.told
  rwa [← hstatus] at hind

/-- **The indicator is truthful.** Whatever the transport does and however the steps are
interleaved: when nothing is on its way to the dashboard, the indicator shows `connected` and
`error` exactly in these states of the channel, and `disconnected` exactly if the channel is
disconnected after an attempt or makes a later attempt than the first. It shows nothing, and its
text is empty, exactly as long as the first attempt has not settled. -/
theorem indicator_truthful (h : Reachable strategy reconnectOnError transport p)
    (hdrained : p.IsDrained) :
    (p.dashboard.status = some .connected ↔ state p.done = .connected) ∧
    (p.dashboard.status = some .error ↔ state p.done = .error) ∧
    (p.dashboard.status = some .disconnected ↔
      state p.done = .disconnected ∧ 1 ≤ attempts (inbound p.done) ∨
        state p.done = .connecting ∧ 2 ≤ attempts (inbound p.done)) ∧
    (p.dashboard.status = none ↔
      attempts (inbound p.done) = 0 ∨
        attempts (inbound p.done) = 1 ∧ state p.done = .connecting) ∧
    (p.dashboard.statusText = "" ↔ p.dashboard.status = none) := by
  have htext : p.dashboard.statusText = "" ↔ p.dashboard.status = none := by
    rw [Dashboard.statusText]
    rcases p.dashboard.status with _ | _ | _ | _ <;> decide
  generalize p.dashboard.statusText = text at htext ⊢
  have hind := h.indicates hdrained
  generalize attempts (inbound p.done) = n, state p.done = s, p.dashboard.status = status
    at hind htext ⊢
  refine ⟨?_, ?_, ?_, ?_, htext⟩ <;> cases hind <;> simp

/-! ### Draining -/

/-- All events that wait may be shown. -/
theorem Reachable.presentAll (events : List Event) :
    ∀ {p : Pipeline}, Reachable strategy reconnectOnError transport p → p.unshown = events →
      Reachable strategy reconnectOnError transport
        { p with unshown := [], dashboard := p.dashboard.fold events } := by
  induction events with
  | nil =>
    rintro ⟨done, queue, session, unshown, dashboard⟩ h rfl
    exact h
  | cons event rest ih =>
    intro p h hp
    exact ih (h.tail (.present event rest hp)) rfl

/-- All messages that wait may be taken. -/
theorem Reachable.takeAll (queue : List Inbound) :
    ∀ {p : Pipeline} {r : Reaction}, Reachable strategy reconnectOnError transport p →
      p.queue = queue → p.session.run? queue = some r →
      Reachable strategy reconnectOnError transport
        { p with queue := [], session := r.session, unshown := p.unshown ++ r.events } := by
  induction queue with
  | nil =>
    rintro ⟨done, queue, session, unshown, dashboard⟩ r h rfl hr
    cases hr
    simpa [Reaction.idle] using h
  | cons message rest ih =>
    intro p r h hp hr
    rw [Session.run?_cons] at hr
    obtain ⟨first, hfirst, hr⟩ := Option.bind_eq_some_iff.mp hr
    obtain ⟨others, hothers, rfl⟩ := Option.map_eq_some_iff.mp hr
    have hrest := ih (h.tail (.take message rest first hp hfirst)) rfl hothers
    simpa [Reaction.andThen] using hrest

/-- The queue can be taken and all be shown, unless a chart cannot be drawn. -/
theorem Reachable.drain {r : Reaction} (h : Reachable strategy reconnectOnError transport p)
    (hr : p.session.run? p.queue = some r) :
    Reachable strategy reconnectOnError transport
      ⟨p.done, [], r.session, [], (p.dashboard.fold p.unshown).fold r.events⟩ := by
  rw [← Dashboard.fold_append]
  exact (h.takeAll p.queue rfl hr).presentAll (p.unshown ++ r.events) rfl

/-- The pipeline while a connection that was reset is made again. The user has visited the risk view
in the meantime. -/
def reconnecting : Pipeline where
  done := enter 0 .connecting ++ [⟨0, .connect⟩] ++ enter 2 .connected ++ enter 3 .error ++
    [⟨3, .release⟩] ++ enter 3 .disconnected ++ enter 3003 .connecting
  queue := []
  session := { Session.initial with active := .risk }
  unshown := []
  dashboard := { Dashboard.initial with status := some .disconnected, active := .risk }

/-- A pipeline that waits for its next attempt is reached. -/
theorem reachable_reconnecting :
    Reachable (.fixed 3000) true resetThenRefusing reconnecting := by
  have hrun : ∀ done, done <+: reconnecting.done →
      IsRunPrefix (.fixed 3000) true resetThenRefusing done := fun done hpre =>
    IsRunPrefix.mono ⟨2, 1, ⟨⟨3003, .connect⟩ :: (enter 3008 .error ++ enter 3008 .disconnected),
      rfl⟩⟩ hpre
  -- the channel acts, the user visits a view before the connection is lost, and all is delivered
  have h₁ : Reachable (.fixed 3000) true resetThenRefusing initial := .refl
  have h₂ := h₁.tail (.channel _ (.enter 0 .connecting) (hrun _ ⟨_, rfl⟩))
  have h₃ := h₂.tail (.channel _ (.single ⟨0, .connect⟩ (by simp)) (hrun _ ⟨_, rfl⟩))
  have h₄ := h₃.tail (.channel _ (.enter 2 .connected) (hrun _ ⟨_, rfl⟩))
  have h₅ := h₄.tail (.produce (.navigate .risk) rfl)
  have h₆ := h₅.tail (.channel _ (.enter 3 .error) (hrun _ ⟨_, rfl⟩))
  have h₇ := h₆.tail (.channel _ (.single ⟨3, .release⟩ (by simp)) (hrun _ ⟨_, rfl⟩))
  have h₈ := h₇.tail (.channel _ (.enter 3 .disconnected) (hrun _ ⟨_, rfl⟩))
  have h₉ := h₈.tail (.channel _ (.enter 3003 .connecting) (hrun _ ⟨[], rfl⟩))
  exact Reachable.drain h₉ rfl

/-- While the connection is made again the indicator still shows that it was lost. -/
theorem indicator_reconnecting :
    Reachable (.fixed 3000) true resetThenRefusing reconnecting ∧ reconnecting.IsDrained ∧
      state reconnecting.done = .connecting ∧
      reconnecting.dashboard.status = some .disconnected := by
  have hdrained : reconnecting.IsDrained := ⟨rfl, rfl⟩
  obtain ⟨-, -, hdisconnected, -, -⟩ := indicator_truthful reachable_reconnecting hdrained
  exact ⟨reachable_reconnecting, hdrained, rfl, hdisconnected.mpr (.inr ⟨rfl, by decide⟩)⟩

end Pipeline

end RiskBoard
