import RiskBoard.Dataset.Risk

/-!
# Pushed figures

A push carries some of the figures of one of two groups: those about valuation or those about
exposure. Seen as a patch it carries the same values and nothing of the other group.
-/

namespace RiskBoard

/-- Pushed figures about valuation. The stated sum of adjustments is never pushed. -/
structure ValuationPush where
  totalPv : Option Binary64
  cva : Option Binary64
  dva : Option Binary64
  fva : Option Binary64
deriving DecidableEq

/-- Pushed figures about exposure. -/
structure ExposurePush where
  ee : Option Binary64
  epe : Option Binary64
  pfe : Option Binary64
deriving DecidableEq

namespace ValuationPush

/-- The push that carries nothing. -/
def empty : ValuationPush := ⟨none, none, none, none⟩

/-- The pushed figures as a patch. -/
def toPatch (push : ValuationPush) : Patch :=
  { Patch.empty with totalPv := push.totalPv, cva := push.cva, dva := push.dva, fva := push.fva }

/-- The part of a patch that a push about valuation can carry. -/
def ofPatch (patch : Patch) : ValuationPush := ⟨patch.totalPv, patch.cva, patch.dva, patch.fva⟩

@[simp] theorem ofPatch_toPatch (push : ValuationPush) : ofPatch push.toPatch = push := rfl

theorem figure_toPatch_of_not_mem (push : ValuationPush) {f : Figure} (h : f ∉ Figure.valuation) :
    push.toPatch.figure f = none := by
  cases f <;> simp_all [Figure.valuation, toPatch, Patch.figure, Patch.empty]

end ValuationPush

namespace ExposurePush

/-- The push that carries nothing. -/
def empty : ExposurePush := ⟨none, none, none⟩

/-- The pushed figures as a patch. -/
def toPatch (push : ExposurePush) : Patch :=
  { Patch.empty with ee := push.ee, epe := push.epe, pfe := push.pfe }

/-- The part of a patch that a push about exposure can carry. -/
def ofPatch (patch : Patch) : ExposurePush := ⟨patch.ee, patch.epe, patch.pfe⟩

@[simp] theorem ofPatch_toPatch (push : ExposurePush) : ofPatch push.toPatch = push := rfl

theorem figure_toPatch_of_not_mem (push : ExposurePush) {f : Figure} (h : f ∉ Figure.exposure) :
    push.toPatch.figure f = none := by
  cases f <;> simp_all [Figure.exposure, toPatch, Patch.figure, Patch.empty]

end ExposurePush

end RiskBoard
