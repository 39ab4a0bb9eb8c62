import Mathlib.Logic.Relation
import RiskBoard.Proofs.Dashboard.Painting
import RiskBoard.Proofs.Store.EventLog

/-!
# Merges coalesce

Of patches that are merged one after another only the last value of each figure counts.
`Patch.coalesce` is the patch that carries these values, and merging it alone has the effect of
merging all of them: on the store, where a figure that no patch carries keeps its value or becomes
zero (`Risk.foldl_merge`), and on a dashboard that folds what is told, where it is not painted
(`Dashboard.paintAll_coalesce`). The store and the dashboard go through the figures separately, and
each of them is read figure by figure here.

Lists of patches with the same last values therefore cannot be told apart. Patches that share no
figure may change places, as a push about valuation and one about exposure may, and merging a patch
once more has no effect.
-/

namespace RiskBoard

namespace Patch

/-- The patch that carries, for each figure, the last value that one of the patches carries. -/
def coalesce (patches : List Patch) : Patch :=
  ofFigures fun f => (patches.filterMap (·.figure f)).getLast?

/-- Patches are disjoint if there is no figure that both carry. -/
def IsDisjoint (p q : Patch) : Prop := ∀ f, p.figure f = none ∨ q.figure f = none

/-- Two disjoint patches that stand side by side change places. -/
inductive Swap : List Patch → List Patch → Prop
  | swap (before after : List Patch) {p q : Patch} (h : p.IsDisjoint q) :
    Swap (before ++ p :: q :: after) (before ++ q :: p :: after)

variable {patches : List Patch} {p q : Patch}

theorem figure_coalesce (patches : List Patch) (f : Figure) :
    (coalesce patches).figure f = (patches.filterMap (·.figure f)).getLast? :=
  figure_ofFigures _ f

theorem figure_coalesce_concat (patches : List Patch) (p : Patch) (f : Figure) :
    (coalesce (patches ++ [p])).figure f = (p.figure f).or ((coalesce patches).figure f) := by
  rw [figure_coalesce, figure_coalesce, List.filterMap_append, List.getLast?_append]
  cases h : p.figure f <;> simp [h]

theorem coalesce_singleton (p : Patch) : coalesce [p] = p := by
  refine ext_figure fun f => ?_
  rw [figure_coalesce]
  cases h : p.figure f <;> simp [h]

theorem coalesce_swap (before after : List Patch) (h : p.IsDisjoint q) :
    coalesce (before ++ p :: q :: after) = coalesce (before ++ q :: p :: after) := by
  refine ext_figure fun f => ?_
  rw [figure_coalesce, figure_coalesce, List.filterMap_append, List.filterMap_append]
  rcases h f with hp | hq
  · simp [List.filterMap_cons, hp]
  · simp [List.filterMap_cons, hq]

theorem coalesce_again (before after : List Patch) (p : Patch) :
    coalesce (before ++ p :: p :: after) = coalesce (before ++ p :: after) := by
  refine ext_figure fun f => ?_
  rw [figure_coalesce, figure_coalesce, List.filterMap_append, List.filterMap_append,
    List.getLast?_append, List.getLast?_append]
  cases hp : p.figure f <;> simp [hp, List.getLast?_cons]

/-- Pushes about valuation and about exposure have no figure in common. -/
theorem isDisjoint_pushes (v : ValuationPush) (e : ExposurePush) :
    v.toPatch.IsDisjoint e.toPatch := by
  intro f
  by_cases hf : f ∈ Figure.valuation
  · have hexposure : f ∉ Figure.exposure := by
      revert hf
      cases f <;> decide
    exact .inr (e.figure_toPatch_of_not_mem hexposure)
  · exact .inl (v.figure_toPatch_of_not_mem hf)

end Patch

open Patch

/-! ### The store -/

theorem Risk.foldl_merge (risk : Risk) (patches : List Patch) :
    patches.foldl Risk.merge risk = risk.merge (coalesce patches) := by
  induction patches using List.reverseRecOn with
  | nil => exact Risk.ext_figure fun f => by rw [figure_merge, figure_coalesce]; rfl
  | append_singleton patches p ih =>
    refine Risk.ext_figure fun f => ?_
    rw [List.foldl_append, List.foldl_cons, List.foldl_nil, ih, figure_merge, figure_merge,
      figure_merge, figure_coalesce_concat]
    cases p.figure f <;> rfl

/-- A first patch is merged into the risk snapshot or onto zero, and the others into the result. -/
theorem Store.applyAll_merge (store : Store) (p : Patch) (rest : List Patch) :
    store.applyAll ((p :: rest).map .merge) =
      { store with risk := some ((p :: rest).foldl Risk.merge (store.risk.getD .zero)) } := by
  induction rest generalizing store p with
  | nil => rfl
  | cons q rest ih => exact ih (store.merge p) q

/-! ### The dashboard -/

namespace Dashboard

theorem paintAll_coalesce (panel : Panel) (patches : List Patch) :
    panel.paintAll (patches.flatMap patchStrokes) =
      panel.paintAll (patchStrokes (coalesce patches)) := by
  induction patches using List.reverseRecOn with
  | nil => rfl
  | append_singleton patches p ih =>
    rw [List.flatMap_append, List.flatMap_singleton, Panel.paintAll_append, ih]
    refine Panel.ext_tile fun t => ?_
    rcases t with _ | f
    · simp only [patchStrokes, Panel.tradeCount_paintAll_figures]
    · rw [tile_patch, tile_patch, tile_patch, figure_coalesce_concat]
      cases p.figure f <;> rfl

/-- Of what merges tell, a dashboard paints the patches and nothing else. -/
theorem fold_updates_merge (dashboard : Dashboard) (store : Store) (patches : List Patch) :
    dashboard.fold ((store.updates (patches.map .merge)).map .dataset) =
      { dashboard with panel := dashboard.panel.paintAll (patches.flatMap patchStrokes) } := by
  induction patches generalizing dashboard store with
  | nil => rfl
  | cons p rest ih =>
    rw [List.flatMap_cons, Panel.paintAll_append]
    exact ih (dashboard.apply (.dataset (store.update (.merge p)))) (store.merge p)

end Dashboard

/-! ### Both together -/

/-- The store after patches were merged one after another, and a dashboard after what was told of
it. -/
def mergeAll (store : Store) (dashboard : Dashboard) (patches : List Patch) : Store × Dashboard :=
  let told := (ToldStore.mk store .fresh).run (patches.map .merge)
  (told.store, dashboard.fold told.boundary.delivered)

section MergeAll

variable {store : Store} {dashboard : Dashboard} {patches patches' : List Patch}

theorem mergeAll_eq (h : patches ≠ []) : mergeAll store dashboard patches =
    ({ store with risk := some ((store.risk.getD .zero).merge (coalesce patches)) },
      { dashboard with
        panel := dashboard.panel.paintAll (Dashboard.patchStrokes (coalesce patches)) }) := by
  obtain ⟨p, rest, rfl⟩ := List.exists_cons_of_ne_nil h
  have hdelivered : ((ToldStore.mk store .fresh).run ((p :: rest).map .merge)).boundary.delivered =
      (store.updates ((p :: rest).map .merge)).map .dataset := ToldStore.delivered_run _ _
  rw [mergeAll, ToldStore.store_run, Store.applyAll_merge, Risk.foldl_merge, hdelivered,
    Dashboard.fold_updates_merge, Dashboard.paintAll_coalesce]

/-- Lists with the same last values have the same effect. -/
theorem mergeAll_congr (h : patches ≠ []) (h' : patches' ≠ [])
    (heq : coalesce patches = coalesce patches') :
    mergeAll store dashboard patches = mergeAll store dashboard patches' := by
  rw [mergeAll_eq h, mergeAll_eq h', heq]

theorem mergeAll_of_reordered (h : Relation.ReflTransGen Swap patches patches') :
    mergeAll store dashboard patches' = mergeAll store dashboard patches := by
  induction h with
  | refl => rfl
  | tail _ hswap ih =>
    obtain ⟨before, after, hdisjoint⟩ := hswap
    rw [← ih]
    exact mergeAll_congr (by simp) (by simp) (coalesce_swap before after hdisjoint).symm

/-- **Merges coalesce.** Merging some patches has the same effect on the store, whether it holds a
risk snapshot or not, and on a dashboard that folds what is told, as one merge of the patch with the
last value of each figure. The effect does not change if disjoint neighbours change places any
number of times, as pushes about valuation and about exposure may, or if a patch is merged twice in
a row. -/
theorem mergeAll_coalesces (store : Store) (dashboard : Dashboard) (h : patches ≠ []) :
    mergeAll store dashboard patches = mergeAll store dashboard [coalesce patches] ∧
    (∀ reordered, Relation.ReflTransGen Swap patches reordered →
      mergeAll store dashboard reordered = mergeAll store dashboard patches) ∧
    (∀ (v : ValuationPush) (e : ExposurePush), v.toPatch.IsDisjoint e.toPatch) ∧
    ∀ before p after, patches = before ++ p :: after →
      mergeAll store dashboard (before ++ p :: p :: after) = mergeAll store dashboard patches := by
  refine ⟨?_, fun _ => mergeAll_of_reordered, isDisjoint_pushes, ?_⟩
  · exact mergeAll_congr h (List.cons_ne_nil _ _) (coalesce_singleton _).symm
  · rintro before p after rfl
    exact mergeAll_congr (by simp) h (coalesce_again before after p)

/-- Two pushed values of one figure, with one of another figure in between. -/
def alternatingPatches : List Patch :=
  [ValuationPush.toPatch ⟨none, some .one, none, none⟩,
    ExposurePush.toPatch ⟨some .one, none, none⟩,
    ValuationPush.toPatch ⟨none, some .zero, none, none⟩]

/-- The same with the other figure last. -/
def regroupedPatches : List Patch :=
  [ValuationPush.toPatch ⟨none, some .one, none, none⟩,
    ValuationPush.toPatch ⟨none, some .zero, none, none⟩,
    ExposurePush.toPatch ⟨some .one, none, none⟩]

/-- Either way the later value counts, also before there is a risk snapshot. -/
theorem mergeAll_alternatingPatches :
    mergeAll .empty .initial regroupedPatches = mergeAll .empty .initial
      [{ Patch.empty with cva := some .zero, ee := some .one }] ∧
    (mergeAll .empty .initial alternatingPatches).1.risk =
      some { Risk.zero with cva := .zero, ee := .one } := by
  have hne : alternatingPatches ≠ [] := List.cons_ne_nil _ _
  obtain ⟨hone, hreordered, hpushes, -⟩ := mergeAll_coalesces .empty .initial hne
  have hlast : coalesce alternatingPatches =
      { Patch.empty with cva := some .zero, ee := some .one } := by decide +kernel
  have hswap : Swap alternatingPatches regroupedPatches :=
    .swap [_] [] fun f => (hpushes ⟨none, some .zero, none, none⟩ ⟨some .one, none, none⟩ f).symm
  rw [hlast] at hone
  exact ⟨(hreordered _ (.single hswap)).trans hone, congrArg (·.1.risk) hone⟩

end MergeAll

end RiskBoard
