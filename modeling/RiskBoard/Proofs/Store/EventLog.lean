import Mathlib.Data.List.Induction
import RiskBoard.Store

/-!
# The log of changes determines the store

Every write to a told store is told by one change: a replacement by its value, a merge by its patch
together with the value that it led to. So a change names the write that it comes from
(`DatasetUpdate.write`) and the value that the store holds after it (`DatasetUpdate.snapshot`), and
a log of changes can be replayed in two ways. Both lead to the store (`ToldStore.run_told`), since
the value in a change is that of the log so far with the patch applied.

Writes are told as long as somebody listens. Nothing of the store depends on that
(`ToldStore.store_run`), so after the listener has gone it goes on as before.
-/

namespace RiskBoard

namespace DatasetUpdate

/-- The write that a change comes from. -/
def write : DatasetUpdate → Write
  | .replaced snapshot => .replace snapshot
  | .merged _ patch => .merge patch

/-- The last value of a kind that a log of changes tells. -/
def latest? (kind : Kind) (log : List DatasetUpdate) : Option Snapshot :=
  ((log.map snapshot).filter (·.kind = kind)).getLast?

/-- The last change of a kind is its current value. -/
theorem latest?_concat (kind : Kind) (log : List DatasetUpdate) (change : DatasetUpdate) :
    latest? kind (log ++ [change]) =
      if change.snapshot.kind = kind then some change.snapshot else latest? kind log := by
  rw [latest?, List.map_append, List.filter_append]
  split_ifs with h
  · simp [h]
  · simp [h, latest?]

end DatasetUpdate

namespace Store

variable (store : Store) (writes : List Write)

/-- The store after writes. -/
def applyAll : Store := writes.foldl apply store

/-- The changes that writes amount to, one after another. -/
def updates (store : Store) : List Write → List DatasetUpdate
  | [] => []
  | write :: rest => store.update write :: (store.apply write).updates rest

/-- The store that a log of changes leads to when the writes are made once more. -/
def replayWrites (log : List DatasetUpdate) : Store := empty.applyAll (log.map (·.write))

/-- The store that a log of changes leads to when every value is put in place of the one before. -/
def replaySnapshots (log : List DatasetUpdate) : Store :=
  log.foldl (fun store change => store.replace change.snapshot) empty

@[simp] theorem write_update (write : Write) : (store.update write).write = write := by
  cases write <;> rfl

/-- A merge puts the merged value in place of the one before. -/
theorem replace_snapshot_update (write : Write) :
    store.replace (store.update write).snapshot = store.apply write := by
  cases write <;> rfl

/-- Changes are logged in the order of the writes. -/
theorem updates_append (writes' : List Write) :
    store.updates (writes ++ writes') =
      store.updates writes ++ (store.applyAll writes).updates writes' := by
  induction writes generalizing store with
  | nil => rfl
  | cons write rest ih => exact congrArg (_ :: ·) (ih (store.apply write))

/-- Every write is logged, as it was made. -/
theorem map_write_updates : (store.updates writes).map (·.write) = writes := by
  induction writes generalizing store with
  | nil => rfl
  | cons write rest ih => rw [updates, List.map_cons, write_update, ih]

/-- A change in a log is told by one of the writes, after those before it. -/
theorem exists_of_updates {store : Store} {writes : List Write} {before after : List DatasetUpdate}
    {change : DatasetUpdate} (h : store.updates writes = before ++ change :: after) :
    ∃ earlier write, store.updates earlier = before ∧
      (store.applyAll earlier).update write = change := by
  induction before generalizing store writes with
  | nil =>
    obtain _ | ⟨write, rest⟩ := writes
    · cases h
    · exact ⟨[], write, rfl, (List.cons_eq_cons.mp h).1⟩
  | cons first before ih =>
    obtain _ | ⟨write, rest⟩ := writes
    · cases h
    · obtain ⟨rfl, hrest⟩ := List.cons_eq_cons.mp h
      obtain ⟨earlier, later, hearlier, hlater⟩ := ih hrest
      exact ⟨write :: earlier, later, congrArg (_ :: ·) hearlier, hlater⟩

/-! ### What a log says about the store -/

/-- The log of some writes, and the store that they lead to. -/
structure IsToldBy (store : Store) (writes : List Write) (log : List DatasetUpdate) : Prop where
  /-- Every write is told by one change, in the order of the writes. -/
  writes : log.map (·.write) = writes
  current : ∀ kind, store.current kind = DatasetUpdate.latest? kind log
  /-- A merged value is the one before it, or zero if there is none, with the patch applied. -/
  merged : ∀ before risk patch after, log = before ++ .merged risk patch :: after →
    ∃ previous : Risk, risk = previous.merge patch ∧
      (DatasetUpdate.latest? .risk before = some (.risk previous) ∨
        DatasetUpdate.latest? .risk before = none ∧ previous = .zero)
  replayWrites : replayWrites log = store
  replaySnapshots : replaySnapshots log = store

/-- The log says what the store holds. -/
theorem current_applyAll (writes : List Write) (kind : Kind) :
    (empty.applyAll writes).current kind = DatasetUpdate.latest? kind (empty.updates writes) := by
  induction writes using List.reverseRecOn with
  | nil => exact current_empty kind
  | append_singleton writes write ih =>
    have hstore : empty.applyAll (writes ++ [write]) = (empty.applyAll writes).apply write :=
      List.foldl_append
    rw [hstore, current_apply, updates_append, ih]
    exact (DatasetUpdate.latest?_concat kind _ _).symm

/-- Replaying the logged values leads to the same store. -/
theorem foldl_replace_updates (store : Store) (writes : List Write) :
    (store.updates writes).foldl (fun store change => store.replace change.snapshot) store =
      store.applyAll writes := by
  induction writes generalizing store with
  | nil => rfl
  | cons write rest ih =>
    rw [updates, List.foldl_cons, replace_snapshot_update]
    exact ih (store.apply write)

/-- What is logged tells the writes. -/
theorem isToldBy_updates (writes : List Write) :
    (empty.applyAll writes).IsToldBy writes (empty.updates writes) where
  writes := map_write_updates empty writes
  current := current_applyAll writes
  merged := by
    intro before risk patch after hlog
    obtain ⟨earlier, write, rfl, hchange⟩ := exists_of_updates hlog
    obtain _ | patch := write
    · cases hchange
    · obtain ⟨rfl, rfl⟩ := DatasetUpdate.merged.inj hchange
      refine ⟨_, rfl, ?_⟩
      -- the patch was applied to what the log tells last of the risk snapshot
      rw [← current_applyAll]
      cases hrisk : (empty.applyAll earlier).risk <;> simp [current, hrisk]
  replayWrites := congrArg empty.applyAll (map_write_updates empty writes)
  replaySnapshots := foldl_replace_updates empty writes

end Store

/-! ### Telling -/

namespace ToldStore

variable (s : ToldStore) (writes : List Write)

/-- Makes writes one after another and tells each of them. -/
def run : ToldStore := writes.foldl apply s

/-- What the store holds does not depend on who listens. -/
theorem store_run : (s.run writes).store = s.store.applyAll writes := by
  induction writes generalizing s with
  | nil => rfl
  | cons write rest ih => exact ih (s.apply write)

/-- Whoever listens is delivered every change, and nobody else any. -/
theorem delivered_run : (s.run writes).boundary.delivered = s.boundary.delivered ++
    if s.boundary.listening then (s.store.updates writes).map .dataset else [] := by
  induction writes generalizing s with
  | nil => cases hl : s.boundary.listening <;> simp [run, Store.updates]
  | cons write rest ih =>
    have hstep : (s.run (write :: rest)) = (s.apply write).run rest := rfl
    rw [hstep, ih]
    cases hl : s.boundary.listening <;> simp [apply, Boundary.emit, hl, Store.updates]

/-- **The log determines the store.** On a fresh store with somebody listening, every write is told
by one change, when it is made and in the order of the writes. Of every kind the store holds the
value told last, every merged value is the one told before it with the patch applied, and replaying
the writes of the log or its values leads to the store. If the listener goes at some point, nothing
more is told, and the store goes on as it would have. -/
theorem run_told (before after : List Write) :
    ∃ log : List DatasetUpdate,
      (fresh.run (before ++ after)).store.IsToldBy (before ++ after) log ∧
      (fresh.run (before ++ after)).boundary.delivered = log.map .dataset ∧
      (fresh.run before).boundary.delivered = (log.take before.length).map .dataset ∧
      (((fresh.run before).close).run after).store = (fresh.run (before ++ after)).store ∧
      (((fresh.run before).close).run after).boundary.delivered =
        (fresh.run before).boundary.delivered := by
  have hlength : (Store.empty.updates before).length = before.length := by
    rw [← List.length_map (·.write), Store.map_write_updates]
  refine ⟨Store.empty.updates (before ++ after), ?_, ?_, ?_, ?_, ?_⟩
  · rw [store_run]
    exact Store.isToldBy_updates (before ++ after)
  · exact delivered_run fresh (before ++ after)
  · rw [Store.updates_append, ← hlength, List.take_left]
    exact delivered_run fresh before
  · have hclosed : (fresh.run before).close.store = (fresh.run before).store := rfl
    rw [store_run, store_run, hclosed, store_run]
    exact List.foldl_append.symm
  · rw [delivered_run]
    exact List.append_nil _

end ToldStore

end RiskBoard
