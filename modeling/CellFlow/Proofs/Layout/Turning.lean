import Mathlib
import CellFlow.Proofs.Layout.LongestPaths
import CellFlow.Proofs.Layout.Separation

/-!
The four directions draw one layout: turning it round mirrors it in the middle of what it takes up,
margins included, and laying it out sideways is laying it out with all widths and heights exchanged.
Both are shown of stacks of layers first, which see a direction only in the extents that it picks
and in whether it is turned round.
-/

set_option autoImplicit false

namespace CellFlow

namespace Stack

open Coordinate

section Extents

variable {ι α : Type} [Coordinate α] {d d' : Direction} {size size' : ι → Size α}

/-- A stack knows its direction and its sizes by the extents only. -/
theorem stack_congr (s : Spacing α) (hm : ∀ v, mainExtent d (size v) = mainExtent d' (size' v))
    (hc : ∀ v, crossExtent d (size v) = crossExtent d' (size' v)) (cursor : α) (layers : List (List ι)) :
    stack d s size cursor layers = stack d' s size' cursor layers := by
  induction layers generalizing cursor with
  | nil => rfl
  | cons layer layers ih =>
    rw [stack, stack]
    simp only [hm, hc, ih]

theorem place_of_not_isReversed (hd : d.isReversed = false) (s : Spacing α) (size : ι → Size α)
    (layers : List (List ι)) : place d s size layers =
      (stack d s size s.mainMargin layers).1.map fun e => (e.1, toPoint d e.2) := by
  simp only [place, hd]
  rfl

theorem place_of_isReversed (hd : d.isReversed = true) (s : Spacing α) (size : ι → Size α)
    (layers : List (List ι)) : place d s size layers =
      (turnRound s (stack d s size s.mainMargin layers).2 (stack d s size s.mainMargin layers).1).map
        fun e => (e.1, toPoint d e.2) := by
  simp only [place, hd]
  rfl

end Extents

variable {ι : Type} {d d' : Direction} {s : Spacing ℚ} {size : ι → Size ℚ}

/-- The largest extent in a layer. -/
def layerExtent (extent : ι → ℚ) (layer : List ι) : ℚ := (layer.map extent).max?.getD 0

/-- What layers take up along the main axis: their extents, the gaps between them, and a margin on
either side. -/
def reach (extent : ι → ℚ) (gap margin : ℚ) (layers : List (List ι)) : ℚ :=
  (layers.map (layerExtent extent)).sum + gap * (layers.length - 1 : ℕ) + 2 * margin

theorem largest_eq_max? (a : ℚ) (l : List ℚ) : some (largest a l) = (a :: l).max? := by
  have hstep : (fun m b : ℚ => if less m b then b else m) = max := by
    funext m b
    rw [max_def_lt]
    simp only [less_eq_true]
  rw [largest, hstep]
  rfl

theorem thickness_eq (extent : ι → ℚ) {layer : List ι} (h : layer ≠ []) :
    thickness extent layer = some (layerExtent extent layer) := by
  cases layer with
  | nil => exact absurd rfl h
  | cons v layer =>
    rw [thickness, layerExtent, List.map_cons, ← largest_eq_max?]
    rfl

/-- A stack stops behind all its layers and a gap for each. -/
theorem snd_stack (cursor : ℚ) {layers : List (List ι)} (hn : ∀ layer ∈ layers, layer ≠ []) :
    (stack d s size cursor layers).2 = cursor +
      (layers.map (layerExtent fun v => mainExtent d (size v))).sum + s.rankGap * layers.length := by
  induction layers generalizing cursor with
  | nil => simp [stack]
  | cons layer layers ih =>
    rw [stack_cons (thickness_eq _ (hn layer List.mem_cons_self)),
      ih _ fun l hl => hn l (List.mem_cons_of_mem layer hl), List.map_cons, List.sum_cons,
      List.length_cons]
    push_cast
    ring

theorem total_eq_reach {layers : List (List ι)} (hn : ∀ layer ∈ layers, layer ≠ []) (hne : layers ≠ []) :
    (stack d s size s.mainMargin layers).2 - s.rankGap + s.mainMargin =
      reach (fun v => mainExtent d (size v)) s.rankGap s.mainMargin layers := by
  have hpos : 1 ≤ layers.length := List.length_pos_iff.2 hne
  rw [snd_stack _ hn, reach, Nat.cast_sub hpos]
  push_cast
  ring

end Stack

/-- The mirror image of a point, along one of the axes, in the middle of a stretch from zero on. -/
def Point.mirrored (horizontal : Bool) (total : ℚ) (p : Point ℚ) : Point ℚ :=
  if horizontal then ⟨total - p.x, p.y⟩ else ⟨p.x, total - p.y⟩

def Point.swapped (p : Point ℚ) : Point ℚ := ⟨p.y, p.x⟩

def Size.swapped (z : Size ℚ) : Size ℚ := ⟨z.height, z.width⟩

namespace Stack

variable {ι : Type} {d d' : Direction} {s : Spacing ℚ} {size : ι → Size ℚ}

theorem place_mirrored (hh : d'.isHorizontal = d.isHorizontal) (hd : d.isReversed = false)
    (hd' : d'.isReversed = true) {layers : List (List ι)} (hn : ∀ layer ∈ layers, layer ≠ []) :
    place d' s size layers = (place d s size layers).map fun e =>
      (e.1, e.2.mirrored d.isHorizontal
        (reach (fun v => mainExtent d (size v)) s.rankGap s.mainMargin layers)) := by
  rw [place_of_isReversed hd', place_of_not_isReversed hd]
  by_cases hne : layers = []
  · subst hne
    rfl
  have hstack : stack d' s size s.mainMargin layers = stack d s size s.mainMargin layers :=
    stack_congr s (fun v => by rw [mainExtent, mainExtent, hh])
      (fun v => by rw [crossExtent, crossExtent, hh])
      _ _
  rw [hstack, turnRound, List.map_map, List.map_map]
  refine List.map_congr_left fun e _ => Prod.ext rfl ?_
  rw [Function.comp_apply, Function.comp_apply, ← total_eq_reach hn hne, Point.mirrored, toPoint, toPoint, hh]
  cases d.isHorizontal with
  | true => rfl
  | false => rfl

theorem place_swapped (s : Spacing ℚ) (size : ι → Size ℚ) (layers : List (List ι)) :
    place .leftToRight s size layers =
      (place .topToBottom s (fun v => (size v).swapped) layers).map fun e => (e.1, e.2.swapped) := by
  have hstack : stack .leftToRight s size s.mainMargin layers =
      stack .topToBottom s (fun v => (size v).swapped) s.mainMargin layers := by
    refine stack_congr s (fun v => ?_) (fun v => ?_) _ _
    · rfl
    · rfl
  rw [place_of_not_isReversed rfl, place_of_not_isReversed rfl, hstack, List.map_map]
  exact List.map_congr_left fun e _ => rfl

end Stack

theorem Table.mapValues_put {κ α β : Type} [BEq κ] (f : α → β) (t : Table κ α) (k : κ) (a : α) :
    (t.put k a).mapValues f = (t.mapValues f).put k (f a) := by
  have hput : ∀ l : List (κ × α), (Table.putInto k a l).map (fun e => (e.1, f e.2)) =
      Table.putInto k (f a) (l.map fun e => (e.1, f e.2)) := by
    intro l
    induction l with
    | nil => rfl
    | cons e l ih =>
      rw [List.map_cons, Table.putInto, Table.putInto]
      by_cases he : (e.1 == k) = true
      · rw [if_pos he, if_pos he, List.map_cons]
      · rw [if_neg he, if_neg he, List.map_cons, ih]
  rw [Table.put, Table.put, Table.mapValues, Table.mapValues, hput]

theorem Table.foldl_put_mapValues {κ α β : Type} [BEq κ] (f : α → β) (l : List (κ × α)) (t : Table κ α) :
    (l.map fun p => (p.1, f p.2)).foldl (fun t p => t.put p.1 p.2) (t.mapValues f) =
      (l.foldl (fun t p => t.put p.1 p.2) t).mapValues f := by
  induction l generalizing t with
  | nil => rfl
  | cons p l ih => rw [List.map_cons, List.foldl_cons, List.foldl_cons, ← Table.mapValues_put, ih]

def LayoutSettings.facing (s : LayoutSettings) (d : Direction) : LayoutSettings :=
  { s with rankDirection := .text d.code }

/-- Settings with the two margins exchanged, and the width and height of cells. -/
def LayoutSettings.transposed (s : LayoutSettings) : LayoutSettings :=
  { s with marginX := s.marginY, marginY := s.marginX, nodeWidth := s.nodeHeight, nodeHeight := s.nodeWidth }

def Key.transposed : Key → Key
  | .text "width" => .text "height"
  | .text "height" => .text "width"
  | k => k

/-- Data with the fields of width and height exchanged. -/
def Fields.transposed (fs : Fields) : Fields := fs.map fun f => (f.1.transposed, f.2)

def Node.transposed (n : CellNode) : CellNode := { n with data := Fields.transposed n.data }

theorem Key.beq_transposed (k : Key) : (Key.text "width" == k.transposed) = (Key.text "height" == k) ∧
    (Key.text "height" == k.transposed) = (Key.text "width" == k) := by
  unfold Key.transposed
  split
  · decide
  · decide
  · rename_i hw hh
    have hne : ∀ s : String, (s = "width" ∨ s = "height") → (Key.text s == k) = false := by
      intro s hs
      cases k with
      | text t =>
        rw [Key.text_beq_text, beq_eq_false_iff_ne]
        rintro rfl
        rcases hs with rfl | rfl
        · exact hw rfl
        · exact hh rfl
      | _ => rfl
    rw [hne _ (.inl rfl), hne _ (.inr rfl)]
    exact ⟨rfl, rfl⟩

theorem Fields.getD_transposed (fs : Fields) (v : Value) :
    Fields.getD fs.transposed "width" v = Fields.getD fs "height" v ∧
    Fields.getD fs.transposed "height" v = Fields.getD fs "width" v := by
  have hl : ∀ key other : Key, (∀ k : Key, (key == k.transposed) = (other == k)) →
      fs.transposed.lookup key = fs.lookup other := by
    intro key other hk
    rw [Fields.transposed]
    induction fs with
    | nil => rfl
    | cons f fs ih => rw [List.map_cons, List.lookup_cons, List.lookup_cons, hk, ih]
  rw [Fields.getD, Fields.getD, Fields.getD, Fields.getD, hl _ _ fun k => (Key.beq_transposed k).1,
    hl _ _ fun k => (Key.beq_transposed k).2]
  exact ⟨rfl, rfl⟩

theorem LayoutSettings.footprint_transposed {s : LayoutSettings} {n : CellNode} {z : Size ℚ}
    (h : s.footprint n.kind n.data = .ok z) :
    s.transposed.footprint n.transposed.kind n.transposed.data = .ok z.swapped := by
  have hread : ∀ {a b : Value}, (do
      let width ← Coordinate.read a
      let height ← Coordinate.read b
      return ⟨width, height⟩ : Except Fault (Size ℚ)) = .ok z → (do
      let width ← Coordinate.read b
      let height ← Coordinate.read a
      return ⟨width, height⟩ : Except Fault (Size ℚ)) = .ok z.swapped := by
    intro a b h
    obtain ⟨width, hw, h⟩ := bind_eq_ok.1 h
    obtain ⟨height, hh, h⟩ := bind_eq_ok.1 h
    obtain rfl := Except.ok.inj h
    rw [hh, ok_bind, hw]
    rfl
  obtain ⟨id, label, kind, data⟩ := n
  cases kind with
  | primary => exact hread h
  | secondary => exact hread h
  | group =>
    simp only [Node.transposed, footprint, (Fields.getD_transposed data _).1,
      (Fields.getD_transposed data _).2]
    exact hread h

/-- The gaps of settings whose margins are exchanged. -/
def Gaps.transposed (g : Gaps) : Gaps := { g with marginX := g.marginY, marginY := g.marginX }

namespace Gaps.AreHeldBy

variable {g : Gaps} {s : LayoutSettings}

theorem facing (h : g.AreHeldBy s) (d : Direction) : g.AreHeldBy (s.facing d) :=
  ⟨h.marginX, h.marginY, h.nodeSep, h.rankSep⟩

theorem transposed (h : g.AreHeldBy s) : g.transposed.AreHeldBy s.transposed :=
  ⟨h.marginY, h.marginX, h.nodeSep, h.rankSep⟩

end Gaps.AreHeldBy

theorem LayoutSettings.direction_facing (s : LayoutSettings) (d : Direction) :
    (s.facing d).direction = .ok d := by
  cases d <;> rfl

namespace RankLayout

theorem byId_mapValues {ι α β : Type} [BEq ι] (ids : List ι) (f : Point α → Point β)
    (placed : List (ℕ × Point α)) :
    byId ids (placed.map fun e => (e.1, f e.2)) = (byId ids placed).mapValues f := by
  have hnamed : (placed.map fun e => (e.1, f e.2)).filterMap (fun p => ids[p.1]?.map fun id => (id, p.2)) =
      (placed.filterMap fun p => ids[p.1]?.map fun id => (id, p.2)).map fun p => (p.1, f p.2) := by
    rw [List.filterMap_map, List.map_filterMap]
    simp only [Option.map_map, Function.comp_def]
  rw [byId_eq, byId_eq, hnamed]
  exact Table.foldl_put_mapValues f _ .empty

variable {s : LayoutSettings} {nodes : List CellNode} {arcs : List (String × String)}

/-- The layers of the nodes, in the order in which they are stacked. -/
def rows (nodes : List CellNode) (arcs : List (String × String)) (sweeps : ℕ) : List (List CellNode) :=
  (layers ((nodes.map (·.id)).map (numberOf (nodes.map (·.id)))) (numberArcs (nodes.map (·.id)) arcs)
    sweeps).map fun layer => layer.filterMap fun number => nodes[number]?

theorem reach_rows (hn : (nodes.map (·.id)).Nodup) (extent : Size ℚ → ℚ) (gap margin : ℚ) (sweeps : ℕ) :
    Stack.reach (fun n => extent (sizeOf s n)) gap margin (rows nodes arcs sweeps) =
      Stack.reach (fun number => extent (sizeByNumber s nodes number)) gap margin
        (layers ((nodes.map (·.id)).map (numberOf (nodes.map (·.id)))) (numberArcs (nodes.map (·.id)) arcs)
          sweeps) := by
  have hlayer : ∀ layer : List ℕ, (∀ number ∈ layer, number < nodes.length) →
      (layer.filterMap fun number => nodes[number]?).map (fun n => extent (sizeOf s n)) =
        layer.map fun number => extent (sizeByNumber s nodes number) := by
    intro layer hlt
    induction layer with
    | nil => rfl
    | cons number layer ih =>
      have hget := List.getElem?_eq_getElem (hlt number List.mem_cons_self)
      rw [List.filterMap_cons_some hget, List.map_cons, List.map_cons, sizeByNumber_eq hn hget,
        ih fun k hk => hlt k (List.mem_cons_of_mem number hk)]
  rw [Stack.reach, Stack.reach, rows, List.map_map, List.length_map]
  congr 3
  refine List.map_congr_left fun layer hl => ?_
  rw [Function.comp_apply, Stack.layerExtent, Stack.layerExtent, hlayer layer fun number hm => ?_]
  have hv := (mem_layers (nodup_map_numberOf hn) _ _ number).1 (List.mem_flatten_of_mem hl hm)
  rwa [map_numberOf hn, List.mem_range, List.length_map] at hv

theorem sizeByNumber_transposed (hn : (nodes.map (·.id)).Nodup)
    (hz : ∀ n ∈ nodes, ∃ z : Size ℚ, s.footprint n.kind n.data = .ok z) (number : ℕ) :
    sizeByNumber s.transposed (nodes.map Node.transposed) number =
      (sizeByNumber s nodes number : Size ℚ).swapped := by
  have hids : (nodes.map Node.transposed).map (·.id) = nodes.map (·.id) := by
    rw [List.map_map]
    rfl
  cases hget : nodes[number]? with
  | none =>
    have hnone : (nodes.map (·.id))[number]? = none := by rw [List.getElem?_map, hget]; rfl
    rw [sizeByNumber, sizeByNumber, sizeAt, sizeAt, hids, hnone]
    rfl
  | some n =>
    obtain ⟨z, hsize⟩ := hz n (List.mem_of_getElem? hget)
    have hget' : (nodes.map Node.transposed)[number]? = some n.transposed := by
      rw [List.getElem?_map, hget]
      rfl
    rw [sizeByNumber_eq hn hget, sizeByNumber_eq (hids ▸ hn) hget', sizeOf_eq hsize,
      sizeOf_eq (LayoutSettings.footprint_transposed hsize)]

/-- Where the nodes stand when they are laid out in a direction. -/
def centres (s : LayoutSettings) (g : Gaps) (sweeps : ℤ) (nodes : List CellNode)
    (arcs : List (String × String)) (d : Direction) : Table String (Point ℚ) :=
  byId (nodes.map (·.id)) (arranged s d (g.spacing d) sweeps nodes arcs)

variable {g : Gaps} {sweeps : ℤ}

theorem keys_centres (hn : (nodes.map (·.id)).Nodup) (arcs : List (String × String)) (d : Direction) :
    (centres s g sweeps nodes arcs d).keys.Perm (nodes.map (·.id)) :=
  keys_byId_perm hn (mem_map_fst_arranged hn d (g.spacing d) sweeps arcs)

theorem compute_eq_centres (hg : g.AreHeldBy s) (hk : s.crossingSweeps.toIndex = .ok sweeps)
    (hz : ∀ n ∈ nodes, ∃ z : Size ℚ, s.footprint n.kind n.data = .ok z)
    (arcs : List (String × String)) (d : Direction) :
    compute (s.facing d) nodes arcs = .ok (centres s g sweeps nodes arcs d) := by
  by_cases hne : nodes = []
  · subst hne
    have hkeys : (centres s g sweeps [] arcs d).keys = [] := (keys_centres (by simp) arcs d).eq_nil
    rw [show centres s g sweeps [] arcs d = .empty from
      congrArg Table.mk (List.map_eq_nil_iff.1 hkeys)]
    rfl
  · exact compute_eq_ok arcs hne hz (fun _ _ => rfl) hk (s.direction_facing d) ((hg.facing d).spacing d)

theorem centres_mirrored (s : LayoutSettings) (g : Gaps) (sweeps : ℤ) (d d' : Direction)
    (hh : d'.isHorizontal = d.isHorizontal) (hd : d.isReversed = false) (hd' : d'.isReversed = true) (hn : (nodes.map (·.id)).Nodup)
    (arcs : List (String × String)) :
    centres s g sweeps nodes arcs d' = (centres s g sweeps nodes arcs d).mapValues fun p =>
      p.mirrored d.isHorizontal (Stack.reach (fun n => Stack.mainExtent d (sizeOf s n)) g.rankSep
        (g.spacing d).mainMargin (rows nodes arcs sweeps.toNat)) := by
  have hl := isLayering_layers (nodup_map_numberOf hn) (numberArcs (nodes.map (·.id)) arcs) sweeps.toNat
  have hspacing : g.spacing d' = g.spacing d := by rw [Gaps.spacing, Gaps.spacing, hh]
  rw [centres, centres, ← byId_mapValues, arranged, arranged, arrange, arrange, hspacing,
    Stack.place_mirrored hh hd hd' hl.ne_nil, reach_rows hn (Stack.mainExtent d)]
  rfl

theorem centres_swapped (hn : (nodes.map (·.id)).Nodup)
    (hz : ∀ n ∈ nodes, ∃ z : Size ℚ, s.footprint n.kind n.data = .ok z)
    (arcs : List (String × String)) :
    centres s g sweeps nodes arcs .leftToRight =
      (centres s.transposed g.transposed sweeps (nodes.map Node.transposed) arcs
        .topToBottom).mapValues Point.swapped := by
  have hids : (nodes.map Node.transposed).map (·.id) = nodes.map (·.id) := by
    rw [List.map_map]
    rfl
  have hsize : (sizeByNumber s.transposed (nodes.map Node.transposed) : ℕ → Size ℚ) =
      fun number => (sizeByNumber s nodes number).swapped :=
    funext (sizeByNumber_transposed hn hz)
  rw [centres, centres, ← byId_mapValues, arranged, arranged, arrange, arrange, hids, hsize,
    Stack.place_swapped]
  rfl

/-- Turning a layout round mirrors it, along the axis of its ranks, in what its layers take up with
the gaps between them and the margins; and a layout to the right is the one downwards in which all
widths and heights, and the margins, are exchanged. -/
theorem compute_facing (hg : g.AreHeldBy s) (hk : s.crossingSweeps.toIndex = .ok sweeps)
    (hn : (nodes.map (·.id)).Nodup)
    (hz : ∀ n ∈ nodes, ∃ z : Size ℚ, s.footprint n.kind n.data = .ok z)
    (arcs : List (String × String)) :
    let rows := rows nodes arcs sweeps.toNat
    let height := Stack.reach (fun n => (sizeOf s n).height) g.rankSep g.marginY rows
    let width := Stack.reach (fun n => (sizeOf s n).width) g.rankSep g.marginX rows
    ∃ t : Direction → Table String (Point ℚ),
      (∀ d, compute (s.facing d) nodes arcs = .ok (t d) ∧ (t d).keys.Perm (nodes.map (·.id))) ∧
      t .bottomToTop = (t .topToBottom).mapValues (fun p => ⟨p.x, height - p.y⟩) ∧
      t .rightToLeft = (t .leftToRight).mapValues (fun p => ⟨width - p.x, p.y⟩) ∧
      ∃ t' : Table String (Point ℚ),
        compute (s.transposed.facing .topToBottom) (nodes.map Node.transposed) arcs = .ok t' ∧
        t .leftToRight = t'.mapValues Point.swapped := by
  intro rows height width
  have hz' : ∀ n ∈ nodes.map Node.transposed,
      ∃ z : Size ℚ, s.transposed.footprint n.kind n.data = .ok z := by
    intro m hm
    obtain ⟨n, hn, rfl⟩ := List.mem_map.1 hm
    obtain ⟨z, hsize⟩ := hz n hn
    exact ⟨_, LayoutSettings.footprint_transposed hsize⟩
  have hturned : centres s g sweeps nodes arcs .bottomToTop =
      (centres s g sweeps nodes arcs .topToBottom).mapValues (Point.mirrored false height) :=
    centres_mirrored s g sweeps .topToBottom .bottomToTop rfl rfl rfl hn arcs
  have hleft : centres s g sweeps nodes arcs .rightToLeft =
      (centres s g sweeps nodes arcs .leftToRight).mapValues (Point.mirrored true width) :=
    centres_mirrored s g sweeps .leftToRight .rightToLeft rfl rfl rfl hn arcs
  exact ⟨centres s g sweeps nodes arcs,
    fun d => ⟨compute_eq_centres hg hk hz arcs d, keys_centres hn arcs d⟩, hturned, hleft, _,
    compute_eq_centres hg.transposed hk hz' arcs .topToBottom, centres_swapped hn hz arcs⟩

/-- A chain with a shortcut, and in its middle a group that is wider than it is high. -/
theorem compute_facing_group :
    let s : LayoutSettings := { marginX := .int 10 }
    let nodes : List CellNode := [
      { id := "1", label := .text "1" },
      { id := "2", label := .text "load", kind := .group, data := [("width", .int 80), ("height", .int 60)] },
      { id := "3", label := .text "3" }]
    let arcs := [("1", "2"), ("2", "3"), ("1", "3")]
    ∃ t : Direction → Table String (Point ℚ),
      (∀ d, compute (s.facing d) nodes arcs = .ok (t d) ∧ (t d).keys.Perm ["1", "2", "3"]) ∧
      t .bottomToTop = (t .topToBottom).mapValues (fun p => ⟨p.x, 280 - p.y⟩) ∧
      t .rightToLeft = (t .leftToRight).mapValues (fun p => ⟨400 - p.x, p.y⟩) ∧
      ∃ t' : Table String (Point ℚ),
        compute (s.transposed.facing .topToBottom) (nodes.map Node.transposed) arcs = .ok t' ∧
        t .leftToRight = t'.mapValues Point.swapped := by
  intro s nodes arcs
  have hz : ∀ n ∈ nodes, ∃ z : Size ℚ, s.footprint n.kind n.data = .ok z := by
    intro n hn
    simp only [nodes, List.mem_cons, List.not_mem_nil, or_false] at hn
    rcases hn with rfl | rfl | rfl
    · exact ⟨⟨100, 40⟩, rfl⟩
    · exact ⟨⟨80, 60⟩, rfl⟩
    · exact ⟨⟨100, 40⟩, rfl⟩
  have hg : Gaps.AreHeldBy ⟨10, 20, 50, 50⟩ s := ⟨rfl, rfl, rfl, rfl⟩
  have hk : s.crossingSweeps.toIndex = .ok 4 := rfl
  have hheight : Stack.reach (fun n => (sizeOf s n : Size ℚ).height) 50 20
      (rows nodes arcs (4 : ℤ).toNat) = 280 := by decide +kernel
  have hwidth : Stack.reach (fun n => (sizeOf s n : Size ℚ).width) 50 10
      (rows nodes arcs (4 : ℤ).toNat) = 400 := by decide +kernel
  have h := compute_facing hg hk (by decide) hz arcs
  simp only [hheight, hwidth] at h
  exact h

end RankLayout

end CellFlow
