import CellFlow.Layout.Placement
import CellFlow.Proofs.Figure.Drawing
import CellFlow.Proofs.Layout.Computing
import Mathlib.Data.List.Pairwise

/-!
Ranked nodes never overlap: in exact arithmetic the rectangles that they take up keep the gaps
and the margins of the settings, whatever edges there are, and a figure draws the nodes as these
rectangles.
-/

set_option autoImplicit false

namespace CellFlow

structure Gaps where
  marginX : ℚ
  marginY : ℚ
  nodeSep : ℚ
  rankSep : ℚ

/-- The margins and gaps that settings hold, none of them negative. -/
structure Gaps.AreOf (g : Gaps) (s : LayoutSettings) : Prop where
  marginX : Coordinate.ofNumber? s.marginX = some (.ok g.marginX)
  marginY : Coordinate.ofNumber? s.marginY = some (.ok g.marginY)
  nodeSep : Coordinate.ofNumber? s.nodeSep = some (.ok g.nodeSep)
  rankSep : Coordinate.ofNumber? s.rankSep = some (.ok g.rankSep)
  nonneg : 0 ≤ g.marginX ∧ 0 ≤ g.marginY ∧ 0 ≤ g.nodeSep ∧ 0 ≤ g.rankSep

def Gaps.spacing (g : Gaps) (d : Direction) : Spacing ℚ where
  mainMargin := if d.isHorizontal then g.marginX else g.marginY
  crossMargin := if d.isHorizontal then g.marginY else g.marginX
  nodeGap := g.nodeSep
  rankGap := g.rankSep

/-- The margins and gaps that settings hold, of any signs. -/
structure Gaps.AreHeldBy (g : Gaps) (s : LayoutSettings) : Prop where
  marginX : Coordinate.ofNumber? s.marginX = some (.ok g.marginX)
  marginY : Coordinate.ofNumber? s.marginY = some (.ok g.marginY)
  nodeSep : Coordinate.ofNumber? s.nodeSep = some (.ok g.nodeSep)
  rankSep : Coordinate.ofNumber? s.rankSep = some (.ok g.rankSep)

theorem Gaps.AreHeldBy.spacing {g : Gaps} {s : LayoutSettings} (h : g.AreHeldBy s) (d : Direction) :
    s.spacing d = .ok (g.spacing d) := by
  cases d <;>
    simp [LayoutSettings.spacing, Gaps.spacing, Direction.isHorizontal, Coordinate.leftOperand,
      Coordinate.rightOperand, h.marginX, h.marginY, h.nodeSep, h.rankSep]

theorem Gaps.AreOf.spacing {g : Gaps} {s : LayoutSettings} (h : g.AreOf s) (d : Direction) :
    s.spacing d = .ok (g.spacing d) :=
  Gaps.AreHeldBy.spacing ⟨h.marginX, h.marginY, h.nodeSep, h.rankSep⟩ d

namespace RankLayout

/-- The rank of a node: that of its number in the graph of the edges without their cycles. -/
def rankOf (ids : List String) (arcs : List (String × String)) (id : String) : ℕ :=
  (Digraph.ofLists (ids.map (numberOf ids)) (numberArcs ids arcs)).unwound.rank (numberOf ids id)

def rectOf? (s : LayoutSettings) (t : Table String (Point ℚ)) (n : CellNode) : Option Rect :=
  match t.get? n.id, (s.footprint n.kind n.data : Except Fault (Size ℚ)) with
  | some p, .ok z => some (Rect.around p z)
  | _, _ => none

variable {s : LayoutSettings} {d : Direction} {g : Gaps} {nodes : List CellNode}
  {arcs : List (String × String)} {t : Table String (Point ℚ)} {n : CellNode}

/-- The nodes by number with their centres, and how they lie to each other. -/
structure IsArranged (s : LayoutSettings) (d : Direction) (g : Gaps) (nodes : List CellNode)
    (arcs : List (String × String)) (t : Table String (Point ℚ)) (size : ℕ → Size ℚ)
    (placed : List (ℕ × Point ℚ)) : Prop where
  isPlaced : Stack.IsPlaced d (g.spacing d) size
    (Digraph.ofLists ((nodes.map (·.id)).map (numberOf (nodes.map (·.id))))
      (numberArcs (nodes.map (·.id)) arcs)).unwound.rank placed
  mem : ∀ n ∈ nodes, ∃ e ∈ placed, (nodes.map (·.id))[e.1]? = some n.id ∧
    t.get? n.id = some e.2 ∧ s.footprint n.kind n.data = .ok (size e.1)

namespace IsArranged

variable {size : ℕ → Size ℚ} {placed : List (ℕ × Point ℚ)}

theorem rectOf? (h : IsArranged s d g nodes arcs t size placed) (hn : n ∈ nodes) :
    ∃ e ∈ placed, (nodes.map (·.id))[e.1]? = some n.id ∧ t.get? n.id = some e.2 ∧
      s.footprint n.kind n.data = .ok (size e.1) ∧
      RankLayout.rectOf? s t n = some (Stack.rectOf size e) := by
  obtain ⟨e, he, hid, hp, hz⟩ := h.mem n hn
  refine ⟨e, he, hid, hp, hz, ?_⟩
  rw [RankLayout.rectOf?, hp, hz]
  rfl

theorem apart (h : IsArranged s d g nodes arcs t size placed) (hids : (nodes.map (·.id)).Nodup)
    (hn : n ∈ nodes) {m : CellNode} (hm : m ∈ nodes) (hne : n.id ≠ m.id) {r q : Rect}
    (hr : r ∈ RankLayout.rectOf? s t n) (hq : q ∈ RankLayout.rectOf? s t m) :
    (rankOf (nodes.map (·.id)) arcs n.id = rankOf (nodes.map (·.id)) arcs m.id →
      Span.Apart g.nodeSep (r.across d) (q.across d)) ∧
    (rankOf (nodes.map (·.id)) arcs n.id ≠ rankOf (nodes.map (·.id)) arcs m.id →
      Span.Apart g.rankSep (r.along d) (q.along d)) := by
  obtain ⟨e, he, hie, -, -, hre⟩ := h.rectOf? hn
  obtain ⟨f, hf, hif, -, -, hrf⟩ := h.rectOf? hm
  obtain rfl := Option.some.inj (hre.symm.trans hr)
  obtain rfl := Option.some.inj (hrf.symm.trans hq)
  have hef : e ≠ f := by
    intro hef
    subst hef
    exact hne (Option.some.inj (hie.symm.trans hif))
  have ha := h.isPlaced.apart.forall he hf hef
  rw [rankOf, rankOf, numberOf_of_getElem? hids hie, numberOf_of_getElem? hids hif]
  exact ⟨ha.across, ha.along⟩

end IsArranged

end RankLayout

end CellFlow
