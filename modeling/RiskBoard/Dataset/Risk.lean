import RiskBoard.Dataset.Figure

/-!
# Risk snapshots and patches

A snapshot holds all figures, of which only the total present value may be absent. A patch carries
some of them, and merging it into a snapshot overwrites exactly those. Both have one view, their
value at a `Figure`, and `Risk.figure_merge` says what a merge does to it.
-/

namespace RiskBoard

/-- A snapshot of counterparty risk. -/
structure Risk where
  totalPv : Option Binary64
  cva : Binary64
  dva : Binary64
  fva : Binary64
  totalXva : Binary64
  ee : Binary64
  epe : Binary64
  pfe : Binary64
deriving DecidableEq

/-- Some of the figures of a risk snapshot. -/
structure Patch where
  totalPv : Option Binary64
  cva : Option Binary64
  dva : Option Binary64
  fva : Option Binary64
  totalXva : Option Binary64
  ee : Option Binary64
  epe : Option Binary64
  pfe : Option Binary64
deriving DecidableEq

namespace Patch

/-- The patch that carries nothing. -/
def empty : Patch := ⟨none, none, none, none, none, none, none, none⟩

/-- The value that a patch carries for a figure. -/
def figure (patch : Patch) : Figure → Option Binary64
  | .totalPv => patch.totalPv
  | .cva => patch.cva
  | .dva => patch.dva
  | .fva => patch.fva
  | .totalXva => patch.totalXva
  | .ee => patch.ee
  | .epe => patch.epe
  | .pfe => patch.pfe

/-- The patch with given values. -/
def ofFigures (value : Figure → Option Binary64) : Patch :=
  ⟨value .totalPv, value .cva, value .dva, value .fva, value .totalXva, value .ee, value .epe,
    value .pfe⟩

@[simp] theorem figure_ofFigures (value : Figure → Option Binary64) (f : Figure) :
    (ofFigures value).figure f = value f := by cases f <;> rfl

@[simp] theorem ofFigures_figure (patch : Patch) : ofFigures patch.figure = patch := rfl

@[ext] theorem ext_figure {p q : Patch} (h : ∀ f, p.figure f = q.figure f) : p = q := by
  rw [← ofFigures_figure p, ← ofFigures_figure q, funext h]

/-- A patch with one value changed. -/
def set (f : Figure) (value : Option Binary64) (patch : Patch) : Patch :=
  ofFigures fun g => if g = f then value else patch.figure g

@[simp] theorem figure_set (f g : Figure) (value : Option Binary64) (patch : Patch) :
    (patch.set f value).figure g = if g = f then value else patch.figure g := by simp [set]

/-- The figures that a patch carries, in the order of a record. -/
def carried (patch : Patch) : List Figure := Figure.all.filter fun f => (patch.figure f).isSome

@[simp] theorem mem_carried {patch : Patch} {f : Figure} :
    f ∈ patch.carried ↔ (patch.figure f).isSome := by
  simp [carried, Figure.mem_all]

/-- Whether a patch carries nothing. -/
def isEmpty (patch : Patch) : Bool := patch.carried.isEmpty

/-- The part of a patch that is about some figures. -/
def restrict (figures : List Figure) (patch : Patch) : Patch :=
  ofFigures fun f => if f ∈ figures then patch.figure f else none

end Patch

namespace Risk

/-- The snapshot from which merging starts when there is none. -/
def zero : Risk := ⟨none, .zero, .zero, .zero, .zero, .zero, .zero, .zero⟩

/-- The value of a figure; only the total present value may be absent. -/
def figure (risk : Risk) : Figure → Option Binary64
  | .totalPv => risk.totalPv
  | .cva => some risk.cva
  | .dva => some risk.dva
  | .fva => some risk.fva
  | .totalXva => some risk.totalXva
  | .ee => some risk.ee
  | .epe => some risk.epe
  | .pfe => some risk.pfe

/-- Overwrites the figures that a patch carries. -/
def merge (risk : Risk) (patch : Patch) : Risk where
  totalPv := patch.totalPv <|> risk.totalPv
  cva := patch.cva.getD risk.cva
  dva := patch.dva.getD risk.dva
  fva := patch.fva.getD risk.fva
  totalXva := patch.totalXva.getD risk.totalXva
  ee := patch.ee.getD risk.ee
  epe := patch.epe.getD risk.epe
  pfe := patch.pfe.getD risk.pfe

@[simp] theorem figure_merge (risk : Risk) (patch : Patch) (f : Figure) :
    (risk.merge patch).figure f = (patch.figure f <|> risk.figure f) := by
  have getD_orElse (o : Option Binary64) (x : Binary64) : some (o.getD x) = (o <|> some x) := by
    cases o <;> rfl
  cases f
  case totalPv => rfl
  all_goals exact getD_orElse _ _

@[ext] theorem ext_figure {r s : Risk} (h : ∀ f, r.figure f = s.figure f) : r = s := by
  obtain ⟨h₁, h₂, h₃, h₄, h₅, h₆, h₇, h₈⟩ := And.intro (h .totalPv) <| And.intro (h .cva) <|
    And.intro (h .dva) <| And.intro (h .fva) <| And.intro (h .totalXva) <| And.intro (h .ee) <|
    And.intro (h .epe) (h .pfe)
  cases r
  cases s
  simp_all [figure]

end Risk

end RiskBoard
