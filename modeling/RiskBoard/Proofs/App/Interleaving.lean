import RiskBoard.App
import RiskBoard.Proofs.Session.Run

/-!
# Interleavings of the whole dashboard

`App.Step` lists what can happen to the running dashboard, one thing at a time and in any order: it
starts, the poll ticks, a fetch completes, the user or the push channel sends a message, or the
session takes the first message of the queue. Fetches complete in any order and at any time, for
nothing cancels them; the queue is unbounded and the session is its only reader.

The history of a run says what was sent, taken, started and completed. What every step keeps is
that these accounts balance (`App.IsBalanced`): the queue holds what was sent and not yet taken,
the pending fetches are those started and not yet completed, and a snapshot is sent for each fetch
that succeeds. Forward exposure is fetched at the start and on every visit, the other kinds on
every tick.
-/

namespace RiskBoard

/-- The snapshot that a message delivers. -/
def Inbound.snapshot? : Inbound → Option Snapshot
  | .pulled snapshot => some snapshot
  | _ => none

namespace Session

variable {session : Session} {message : Inbound} {r : Reaction}

/-- A session asks for forward exposure when its view is visited, and for nothing else. -/
theorem fetches_of_step? (h : session.step? message = some r) :
    r.fetches = if message = .navigate .exposure then [.exposure] else [] := by
  obtain ⟨snapshot, -⟩ | _ | _ | _ | _ | _ | view := step?_eq_some_iff.mp h
  · rfl
  · rfl
  · rfl
  · rfl
  · rfl
  · rfl
  · cases view <;> rfl

end Session

namespace App

/-! ### What can happen -/

/-- Something that happens to the dashboard. -/
inductive Action where
  | start
  /-- The poll ticks. -/
  | tick
  /-- A fetch of a kind completes, with a snapshot or, if it fails, with nothing. -/
  | complete (kind : Kind) (result : Option Snapshot)
  /-- The user or the push channel sends a message. -/
  | send (message : Inbound)
  /-- The session takes a message. -/
  | take (message : Inbound) (reaction : Reaction)
deriving DecidableEq

/-- The dashboard between two things that happen to it. -/
structure State where
  running : Bool
  session : Session
  /-- The messages that were sent and not taken yet. -/
  queue : List Inbound
  /-- The fetches that were started and have not completed yet. -/
  pending : List Kind
  /-- The events that were told to the view layer. -/
  told : List Event

/-- The dashboard before it starts. -/
def State.initial : State := ⟨false, .initial, [], [], []⟩

/-- What can happen in a state. Messages may be sent before the start. -/
inductive Step (s : State) : Action → State → Prop
  | start (h : s.running = false) :
    Step s .start { s with running := true, pending := s.pending ++ [.exposure] }
  | tick (h : s.running = true) : Step s .tick { s with pending := s.pending ++ Poll.kinds }
  | complete (before after : List Kind) (kind : Kind) (result : Option Snapshot)
    (h : s.pending = before ++ kind :: after) :
    Step s (.complete kind result)
      { s with
        pending := before ++ after
        queue := s.queue ++ (result.map Inbound.pulled).toList }
  | send (message : Inbound) (h : message.snapshot? = none) :
    Step s (.send message) { s with queue := s.queue ++ [message] }
  | take (message : Inbound) (rest : List Inbound) (r : Reaction) (hrunning : s.running = true)
    (hqueue : s.queue = message :: rest) (hstep : s.session.step? message = some r) :
    Step s (.take message r)
      { s with
        session := r.session
        queue := rest
        pending := s.pending ++ r.fetches
        told := s.told ++ r.events }

/-- What has happened from the beginning, and the state that it led to. -/
inductive Run : List Action → State → Prop
  | nil : Run [] .initial
  | concat {actions : List Action} {s t : State} (h : Run actions s) (action : Action)
    (hstep : Step s action t) : Run (actions ++ [action]) t

/-! ### Accounts -/

namespace Action

/-- The messages that are sent. -/
def sent : Action → List Inbound
  | complete _ result => (result.map Inbound.pulled).toList
  | send message => [message]
  | start | tick | take _ _ => []

/-- The messages that are taken. -/
def taken : Action → List Inbound
  | take message _ => [message]
  | start | tick | complete _ _ | send _ => []

/-- The fetches that are started. -/
def started : Action → List Kind
  | start => [.exposure]
  | tick => Poll.kinds
  | take _ reaction => reaction.fetches
  | complete _ _ | send _ => []

/-- The fetches that complete, with their results. -/
def completed : Action → List (Kind × Option Snapshot)
  | complete kind result => [(kind, result)]
  | start | tick | send _ | take _ _ => []

end Action

variable {actions : List Action} {action : Action} {s t : State}

/-! ### What one step does to the accounts -/

theorem Step.queue_eq (h : Step s action t) :
    action.taken ++ t.queue = s.queue ++ action.sent := by
  obtain _ | _ | ⟨before, after, kind, result, -⟩ | ⟨message, -⟩ | ⟨message, rest, r, -, hqueue, -⟩ := h
  · exact (List.append_nil _).symm
  · exact (List.append_nil _).symm
  · rfl
  · rfl
  · rw [hqueue, Action.sent, List.append_nil]
    rfl

theorem Step.pending_perm (h : Step s action t) :
    (s.pending ++ action.started).Perm (action.completed.map (·.1) ++ t.pending) := by
  obtain _ | _ | ⟨before, after, kind, result, hpending⟩ | _ | _ := h
  · exact .refl _
  · exact .refl _
  · rw [hpending, Action.started, List.append_nil]
    exact List.perm_middle
  · exact .of_eq (List.append_nil _)
  · exact .refl _

theorem Step.delivered_eq (h : Step s action t) :
    action.sent.filterMap Inbound.snapshot? = action.completed.filterMap (·.2) := by
  obtain _ | _ | ⟨before, after, kind, result, -⟩ | ⟨message, hmessage⟩ | _ := h
  · rfl
  · rfl
  · rcases result with _ | snapshot
    · rfl
    · rfl
  · rw [Action.sent, List.filterMap_cons_none hmessage]
    rfl
  · rfl

/-- Forward exposure is fetched at the start, and again for each visit that is taken. -/
theorem Step.exposure_eq (h : Step s action t) :
    s.running.toNat + action.started.count .exposure =
      t.running.toNat + action.taken.count (.navigate .exposure) := by
  -- the start moves both sides, for it cannot come twice, and so does a visit that is taken
  obtain hstart | _ | _ | _ | ⟨message, rest, r, -, -, hstep⟩ := h
  · rw [hstart]
    rfl
  · rfl
  · rfl
  · rfl
  · rw [Action.started, Action.taken, Session.fetches_of_step? hstep, List.count_singleton]
    by_cases hvisit : message = .navigate .exposure
    · simp [hvisit]
    · simp [hvisit]

/-- The other kinds are fetched on every tick, once each. -/
theorem Step.polled_eq (h : Step s action t) {kind : Kind} (hkind : kind ≠ .exposure) :
    action.started.count kind = [action].count .tick := by
  obtain _ | _ | _ | _ | ⟨message, rest, r, -, -, hstep⟩ := h
  · exact List.count_eq_zero.mpr (by simpa [Action.started] using hkind)
  · rcases kind with _ | _ | _
    · rfl
    · rfl
    · exact absurd rfl hkind
  · rfl
  · rfl
  · refine List.count_eq_zero.mpr fun hmem => ?_
    rw [Action.started, Session.fetches_of_step? hstep] at hmem
    split_ifs at hmem
    · exact hkind (List.mem_singleton.mp hmem)
    · exact List.not_mem_nil hmem

theorem Step.session_eq (h : Step s action t) : ∃ events fetches,
    s.session.run? action.taken = some ⟨t.session, events, fetches⟩ ∧
      t.told = s.told ++ events := by
  obtain _ | _ | _ | _ | ⟨message, rest, r, -, -, hstep⟩ := h
  · exact ⟨[], [], rfl, (List.append_nil _).symm⟩
  · exact ⟨[], [], rfl, (List.append_nil _).symm⟩
  · exact ⟨[], [], rfl, (List.append_nil _).symm⟩
  · exact ⟨[], [], rfl, (List.append_nil _).symm⟩
  · exact ⟨r.events, r.fetches, Session.run?_singleton.trans hstep, rfl⟩

/-! ### Runs -/

/-- What holds of the history of a run and the state that it led to. -/
structure IsBalanced (actions : List Action) (s : State) : Prop where
  /-- The queue is first in, first out. -/
  queue : actions.flatMap Action.taken ++ s.queue = actions.flatMap Action.sent
  pending : (actions.flatMap Action.started).Perm
    ((actions.flatMap Action.completed).map (·.1) ++ s.pending)
  delivered : (actions.flatMap Action.sent).filterMap Inbound.snapshot? =
    (actions.flatMap Action.completed).filterMap (·.2)
  exposure : (actions.flatMap Action.started).count .exposure =
    s.running.toNat + (actions.flatMap Action.taken).count (.navigate .exposure)
  polled : ∀ kind, kind ≠ .exposure →
    (actions.flatMap Action.started).count kind = actions.count .tick
  /-- Nothing but the messages that were taken has changed the session or told anything. -/
  session : ∃ fetches, Session.initial.run? (actions.flatMap Action.taken) =
    some ⟨s.session, s.told, fetches⟩

theorem isBalanced_initial : IsBalanced [] .initial where
  queue := rfl
  pending := .nil
  delivered := rfl
  exposure := rfl
  polled _ _ := rfl
  session := ⟨[], rfl⟩

theorem IsBalanced.step (h : IsBalanced actions s) (hstep : Step s action t) :
    IsBalanced (actions ++ [action]) t where
  queue := by
    rw [List.flatMap_append, List.flatMap_append, List.flatMap_singleton, List.flatMap_singleton,
      List.append_assoc, hstep.queue_eq, ← List.append_assoc, h.queue]
  pending := by
    simp only [List.flatMap_append, List.flatMap_singleton, List.map_append]
    -- what the step starts joins both sides, and then what is pending splits as the step has it
    have hall := h.pending.append_right action.started
    have hone := hstep.pending_perm.append_left ((actions.flatMap Action.completed).map (·.1))
    rw [List.append_assoc] at hall
    rw [List.append_assoc]
    exact hall.trans hone
  delivered := by
    simp only [List.flatMap_append, List.flatMap_singleton, List.filterMap_append]
    rw [h.delivered, hstep.delivered_eq]
  exposure := by
    simp only [List.flatMap_append, List.flatMap_singleton, List.count_append]
    have hone := hstep.exposure_eq
    have hall := h.exposure
    omega
  polled := by
    intro kind hkind
    rw [List.flatMap_append, List.flatMap_singleton, List.count_append, List.count_append,
      h.polled kind hkind, hstep.polled_eq hkind]
  session := by
    -- a run over the messages taken so far goes on with the one taken now, if there is one
    obtain ⟨fetches, hall⟩ := h.session
    obtain ⟨events, more, hone, htold⟩ := hstep.session_eq
    refine ⟨fetches ++ more, ?_⟩
    rw [List.flatMap_append, List.flatMap_singleton, Session.run?_append_eq_some]
    exact ⟨_, _, hall, hone, by rw [htold]; rfl⟩

theorem Run.isBalanced (h : Run actions s) : IsBalanced actions s := by
  induction h with
  | nil => exact isBalanced_initial
  | concat _ action hstep ih => exact ih.step hstep

/-- A fetch that completes is no longer pending, and a snapshot that it brings is sent. Nothing else
changes. -/
theorem Step.complete_eq {kind : Kind} {result : Option Snapshot}
    (h : Step s (.complete kind result) t) :
    s.pending.Perm (kind :: t.pending) ∧
      t = { s with
        pending := t.pending
        queue := s.queue ++ (result.map Inbound.pulled).toList } := by
  refine ⟨?_, ?_⟩
  · simpa [Action.started, Action.completed] using h.pending_perm
  · obtain ⟨⟩ := h
    rfl

/-- **The accounts of a run.** However the dashboard's steps are interleaved, after the start the
following holds. What was taken and then what is queued is what was sent, in order. Forward
exposure was fetched once at the start and once for each visit to its view that was taken, and
portfolio and risk were fetched once for each tick. The snapshots that were sent are those of the
fetches that completed and succeeded, in the order of their completion; the fetches that were
started are those that completed and those that are pending. The session and what was told are
what the messages that were taken lead to; and a fetch that fails is dropped from those pending and
changes nothing else. -/
theorem Run.accounts (h : Run actions s) (hrunning : s.running = true) :
    actions.flatMap Action.taken ++ s.queue = actions.flatMap Action.sent ∧
    ((actions.flatMap Action.started).count .exposure =
        1 + (actions.flatMap Action.taken).count (.navigate .exposure) ∧
      (actions.flatMap Action.started).count .portfolio = actions.count .tick ∧
      (actions.flatMap Action.started).count .risk = actions.count .tick) ∧
    (actions.flatMap Action.sent).filterMap Inbound.snapshot? =
      (actions.flatMap Action.completed).filterMap (·.2) ∧
    (actions.flatMap Action.started).Perm
      ((actions.flatMap Action.completed).map (·.1) ++ s.pending) ∧
    (∃ fetches, Session.initial.run? (actions.flatMap Action.taken) =
      some ⟨s.session, s.told, fetches⟩) ∧
    ∀ kind t, Step s (.complete kind none) t →
      s.pending.Perm (kind :: t.pending) ∧ t = { s with pending := t.pending } := by
  have hb := h.isBalanced
  have hexposure := hb.exposure
  rw [hrunning] at hexposure
  refine ⟨hb.queue, ⟨hexposure, hb.polled .portfolio (by decide), hb.polled .risk (by decide)⟩,
    hb.delivered, hb.pending, hb.session, fun kind t hfail => ?_⟩
  obtain ⟨hpending, ht⟩ := hfail.complete_eq
  rw [Option.map_none, Option.toList_none, List.append_nil] at ht
  exact ⟨hpending, ht⟩

/-- A visit that is sent before the start and taken after the first tick, a fetch that overtakes
another, and two fetches that fail. -/
def overtaking : List Action :=
  [.send (.navigate .exposure), .start, .tick, .complete .risk (some (.risk Risk.zero)),
    .take (.navigate .exposure) (Session.initial.takeNavigation .exposure),
    .complete .portfolio none, .complete .exposure none,
    .take (.pulled (.risk Risk.zero))
      (Session.write { Session.initial with active := .exposure } (.replace (.risk Risk.zero)))]

/-- Where this leads: one fetch of forward exposure is still pending. -/
def afterOvertaking : State where
  running := true
  session := ⟨Store.empty.replace (.risk Risk.zero), .initial, .exposure⟩
  queue := []
  pending := [.exposure]
  told := [.activeView ⟨.dashboard, .exposure⟩, .dataset (.replaced (.risk Risk.zero))]

theorem run_overtaking : Run overtaking afterOvertaking := by
  have h₁ := Run.nil.concat _ (.send (.navigate .exposure) rfl)
  have h₂ := h₁.concat _ (.start rfl)
  have h₃ := h₂.concat _ (.tick rfl)
  have h₄ := h₃.concat _
    (.complete [.exposure, .portfolio] [] .risk (some (.risk Risk.zero)) rfl)
  have h₅ := h₄.concat _
    (.take _ [.pulled (.risk Risk.zero)] (Session.initial.takeNavigation .exposure) rfl rfl rfl)
  have h₆ := h₅.concat _ (.complete [.exposure] [.exposure] .portfolio none rfl)
  have h₇ := h₆.concat _ (.complete [] [.exposure] .exposure none rfl)
  exact h₇.concat _ (.take _ []
    (Session.write { Session.initial with active := .exposure } (.replace (.risk Risk.zero)))
    rfl rfl rfl)

/-- The fetch that is still pending may fail, too. -/
theorem accounts_overtaking : Run overtaking afterOvertaking ∧ afterOvertaking.running = true ∧
    (overtaking.flatMap Action.started).count .exposure = 2 ∧
    (overtaking.flatMap Action.started).count .risk = 1 ∧
    ∃ t, Step afterOvertaking (.complete .exposure none) t ∧
      t = { afterOvertaking with pending := [] } := by
  obtain ⟨-, ⟨hexposure, -, hrisk⟩, -, -, -, hfail⟩ := run_overtaking.accounts rfl
  have hstep : Step afterOvertaking (.complete .exposure none) _ :=
    .complete [] [] .exposure none rfl
  obtain ⟨-, ht⟩ := hfail .exposure _ hstep
  exact ⟨run_overtaking, rfl, hexposure, hrisk, _, hstep, ht⟩

end App

end RiskBoard
