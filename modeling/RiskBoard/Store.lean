import RiskBoard.Event

/-!
# The snapshot store

The latest value of each kind of dataset. A pull replaces a value, a push merges figures into the
risk snapshot, and whichever comes last wins. Every write is told to the view layer.
-/

namespace RiskBoard

/-- The current values. -/
structure Store where
  portfolio : Option Portfolio
  risk : Option Risk
  exposure : Option ExposureSeries
deriving DecidableEq

/-- A write to the store. -/
inductive Write where
  | replace (snapshot : Snapshot)
  | merge (patch : Patch)
deriving DecidableEq

namespace Store

/-- The store before the first write. -/
def empty : Store := ⟨none, none, none⟩

/-- The current value of a kind. -/
def current (store : Store) : Kind → Option Snapshot
  | .portfolio => store.portfolio.map .portfolio
  | .risk => store.risk.map .risk
  | .exposure => store.exposure.map .exposure

/-- Puts a value in place of the current one of its kind. -/
def replace (store : Store) : Snapshot → Store
  | .portfolio value => { store with portfolio := some value }
  | .risk value => { store with risk := some value }
  | .exposure value => { store with exposure := some value }

/-- The risk snapshot after a patch; without a current one the zero snapshot is patched. -/
def merged (store : Store) (patch : Patch) : Risk := (store.risk.getD .zero).merge patch

/-- Merges a patch into the risk snapshot. -/
def merge (store : Store) (patch : Patch) : Store :=
  { store with risk := some (store.merged patch) }

/-- The store after a write. -/
def apply (store : Store) : Write → Store
  | .replace snapshot => store.replace snapshot
  | .merge patch => store.merge patch

/-- The change that a write amounts to. -/
def update (store : Store) : Write → DatasetUpdate
  | .replace snapshot => .replaced snapshot
  | .merge patch => .merged (store.merged patch) patch

/-! ### Lemmas -/

@[simp] theorem current_empty (kind : Kind) : empty.current kind = none := by cases kind <;> rfl

theorem current_replace (store : Store) (snapshot : Snapshot) (kind : Kind) :
    (store.replace snapshot).current kind =
      if snapshot.kind = kind then some snapshot else store.current kind := by
  cases snapshot <;> cases kind <;> rfl

theorem current_merge (store : Store) (patch : Patch) (kind : Kind) :
    (store.merge patch).current kind =
      if kind = .risk then some (.risk (store.merged patch)) else store.current kind := by
  cases kind <;> rfl

/-- After a write the store holds the value that was told, and no other kind has changed. -/
theorem current_apply (store : Store) (write : Write) (kind : Kind) :
    (store.apply write).current kind =
      if (store.update write).snapshot.kind = kind then some (store.update write).snapshot
      else store.current kind := by
  cases write with
  | replace snapshot => exact current_replace store snapshot kind
  | merge patch => cases kind <;> rfl

end Store

/-- A store together with the boundary to which its writes are told. -/
structure ToldStore where
  store : Store
  boundary : Boundary
deriving DecidableEq

namespace ToldStore

/-- The store before the first write, with somebody listening. -/
def fresh : ToldStore := ⟨.empty, .fresh⟩

/-- Makes a write and tells it. -/
def apply (s : ToldStore) (write : Write) : ToldStore :=
  ⟨s.store.apply write, s.boundary.emit (.dataset (s.store.update write))⟩

/-- Nobody listens any more. -/
def close (s : ToldStore) : ToldStore := { s with boundary := s.boundary.close }

end ToldStore

end RiskBoard
