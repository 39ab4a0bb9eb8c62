import RiskBoard.Dataset.Figure
import RiskBoard.Display

/-!
# Tiles

The scalar fields of the dashboard. Each figure has a tile, and the portfolio adds its number of
trades. The total present value is one tile, painted by the portfolio and by pushes about
valuation, never by a pulled risk snapshot.
-/

namespace RiskBoard

/-- A scalar field of the dashboard. -/
inductive Tile where
  | tradeCount
  | figure (f : Figure)
deriving DecidableEq, Repr

namespace Tile

/-- All tiles in the order of the dashboard. -/
def all : List Tile := .figure .totalPv :: .tradeCount :: (Figure.all.tail.map .figure)

theorem mem_all (t : Tile) : t ∈ all := by
  rcases t with _ | f
  · decide
  · cases f <;> decide

/-- The name of a tile in records. -/
def name : Tile → String
  | tradeCount => "trade_count"
  | figure f => f.name

/-- The name of a tile in a log. -/
def title : Tile → String
  | tradeCount => "TradeCount"
  | figure .totalPv => "TotalPv"
  | figure .cva => "Cva"
  | figure .dva => "Dva"
  | figure .fva => "Fva"
  | figure .totalXva => "TotalXva"
  | figure .ee => "Ee"
  | figure .epe => "Epe"
  | figure .pfe => "Pfe"

end Tile

/-- How a figure is shown: values and adjustments in the tone of their sign, exposures without
one. -/
def Figure.show (f : Figure) (x : Binary64) : Shown :=
  if f ∈ Figure.exposure then .plainCurrency x else .currency x

/-- What the tiles show. -/
structure Panel where
  tradeCount : Option Shown
  totalPv : Option Shown
  cva : Option Shown
  dva : Option Shown
  fva : Option Shown
  totalXva : Option Shown
  ee : Option Shown
  epe : Option Shown
  pfe : Option Shown
deriving DecidableEq

namespace Panel

/-- The panel before anything is painted. -/
def blank : Panel := ⟨none, none, none, none, none, none, none, none, none⟩

/-- What a tile shows. -/
def tile (panel : Panel) : Tile → Option Shown
  | .tradeCount => panel.tradeCount
  | .figure .totalPv => panel.totalPv
  | .figure .cva => panel.cva
  | .figure .dva => panel.dva
  | .figure .fva => panel.fva
  | .figure .totalXva => panel.totalXva
  | .figure .ee => panel.ee
  | .figure .epe => panel.epe
  | .figure .pfe => panel.pfe

/-- The panel with given texts. -/
def ofTiles (shown : Tile → Option Shown) : Panel :=
  ⟨shown .tradeCount, shown (.figure .totalPv), shown (.figure .cva), shown (.figure .dva),
    shown (.figure .fva), shown (.figure .totalXva), shown (.figure .ee), shown (.figure .epe),
    shown (.figure .pfe)⟩

@[simp] theorem tile_ofTiles (shown : Tile → Option Shown) (t : Tile) :
    (ofTiles shown).tile t = shown t := by
  rcases t with _ | f
  · rfl
  · cases f <;> rfl

@[simp] theorem ofTiles_tile (panel : Panel) : ofTiles panel.tile = panel := rfl

@[ext] theorem ext_tile {p q : Panel} (h : ∀ t, p.tile t = q.tile t) : p = q := by
  rw [← ofTiles_tile p, ← ofTiles_tile q, funext h]

/-- Paints one tile. -/
def paint (panel : Panel) (t : Tile) (shown : Shown) : Panel :=
  ofTiles fun u => if u = t then some shown else panel.tile u

@[simp] theorem tile_paint (panel : Panel) (t u : Tile) (shown : Shown) :
    (panel.paint t shown).tile u = if u = t then some shown else panel.tile u := by simp [paint]

/-- Paints tiles one after another. -/
def paintAll (panel : Panel) (strokes : List (Tile × Shown)) : Panel :=
  strokes.foldl (fun panel stroke => panel.paint stroke.1 stroke.2) panel

end Panel

end RiskBoard
