import CellFlow.Proofs.Figure.Drawing
import CellFlow.Proofs.Layout.Placing
import Mathlib

/-!
The limits of a figure and the shapes within them. The limits leave room for the larger side of a cell
around the outermost centres, so cells and artifacts are drawn within them wherever they stand; but a group
grows with its cells, and at the rim it reaches beyond the limits as soon as its side is more than twice
that room.
-/

set_option autoImplicit false

namespace CellFlow

/-- Coordinates without rounding, in which the directions of a ring have their places, too. -/
noncomputable instance : Coordinate ℝ where
  ofInt? n := some n
  ofFloat? x := Option.map (fun q : ℚ => (q : ℝ)) <| Number.exact? x
  half x := x / 2
  less x y := decide (x < y)

theorem Coordinate.comparesByOrder_real : ComparesByOrder ℝ := fun x y => decide_eq_true_iff (p := x < y)

/-- The whole shape is between the limits; the vertical ones count downwards. The shape is the one that the
node asks for: where a box is painted, its rounded outline stands further out by `Figure.outlinePad`. -/
def Shape.Within (f : Frame ℝ) : Shape ℝ → Prop
  | .box left bottom width height =>
    (f.left ≤ left ∧ left + width ≤ f.right) ∧ f.top ≤ bottom ∧ bottom + height ≤ f.bottom
  | .disc centre radius =>
    (f.left ≤ centre.x - radius ∧ centre.x + radius ≤ f.right) ∧
      f.top ≤ centre.y - radius ∧ centre.y + radius ≤ f.bottom

/-- No other point is further out on one of the four sides. -/
def Point.IsOutermost (p : Point ℝ) (points : List (Point ℝ)) : Prop :=
  (∀ q ∈ points, p.x ≤ q.x) ∨ (∀ q ∈ points, q.x ≤ p.x) ∨ (∀ q ∈ points, p.y ≤ q.y) ∨ ∀ q ∈ points, q.y ≤ p.y

section Geometry

variable {first p : Point ℝ} {others : List (Point ℝ)} {room : ℝ} {kind : NodeKind} {z : Size ℝ}

theorem Shape.within_around_iff {f : Frame ℝ} (hz : kind = .secondary → z.width = z.height) :
    (Shape.around kind p z).Within f ↔ (f.left ≤ p.x - z.width / 2 ∧ p.x + z.width / 2 ≤ f.right) ∧
      f.top ≤ p.y - z.height / 2 ∧ p.y + z.height / 2 ≤ f.bottom := by
  have hend (c e : ℝ) : c - e / 2 + e = c + e / 2 := by ring
  have hbox : (Shape.box (p.x - z.width / 2) (p.y - z.height / 2) z.width z.height).Within f ↔
      (f.left ≤ p.x - z.width / 2 ∧ p.x + z.width / 2 ≤ f.right) ∧
        f.top ≤ p.y - z.height / 2 ∧ p.y + z.height / 2 ≤ f.bottom := by
    rw [Within, hend, hend]
  cases kind with
  | primary => exact hbox
  | group => exact hbox
  | secondary =>
    have hdisc : Shape.around .secondary p z = .disc p (z.width / 2) := rfl
    rw [hdisc, Within, ← hz rfl]

theorem Frame.around_spec (room : ℝ) (hp : p ∈ first :: others) :
    ((Frame.around room first others).left ≤ p.x - room ∧ p.x + room ≤ (Frame.around room first others).right) ∧
      (Frame.around room first others).top ≤ p.y - room ∧ p.y + room ≤ (Frame.around room first others).bottom := by
  have hx : p.x ∈ first.x :: others.map (·.x) := List.mem_map_of_mem (f := (·.x)) hp
  have hy : p.y ∈ first.y :: others.map (·.y) := List.mem_map_of_mem (f := (·.y)) hp
  have hc := Coordinate.comparesByOrder_real
  exact ⟨⟨sub_le_sub_right ((Coordinate.smallest_spec hc _ _).2 _ hx) room,
      add_le_add_left ((Coordinate.largest_spec hc _ _).2 _ hx) room⟩,
    sub_le_sub_right ((Coordinate.smallest_spec hc _ _).2 _ hy) room,
    add_le_add_left ((Coordinate.largest_spec hc _ _).2 _ hy) room⟩

theorem Shape.within_around (hp : p ∈ first :: others) (hz : kind = .secondary → z.width = z.height)
    (hw : z.width / 2 ≤ room) (hh : z.height / 2 ≤ room) :
    (Shape.around kind p z).Within (Frame.around room first others) := by
  obtain ⟨⟨hleft, hright⟩, htop, hbottom⟩ := Frame.around_spec room hp
  rw [within_around_iff hz]
  exact ⟨⟨by linarith, by linarith⟩, by linarith, by linarith⟩

/-- Each limit belongs to some point. -/
theorem Frame.exists_mem_around (first : Point ℝ) (others : List (Point ℝ)) (room : ℝ) :
    (∃ q ∈ first :: others, (Frame.around room first others).left = q.x - room) ∧
    (∃ q ∈ first :: others, (Frame.around room first others).right = q.x + room) ∧
    (∃ q ∈ first :: others, (Frame.around room first others).top = q.y - room) ∧
    ∃ q ∈ first :: others, (Frame.around room first others).bottom = q.y + room := by
  have hc := Coordinate.comparesByOrder_real
  have hmem (f : Point ℝ → ℝ) (a : ℝ) (ha : a ∈ (first :: others).map f) : ∃ q ∈ first :: others, a = f q := by
    obtain ⟨q, hq, rfl⟩ := List.mem_map.1 ha
    exact ⟨q, hq, rfl⟩
  refine ⟨?_, ?_, ?_, ?_⟩
  · obtain ⟨q, hq, he⟩ := hmem (·.x) _ (Coordinate.smallest_spec hc first.x (others.map (·.x))).1
    exact ⟨q, hq, congrArg (· - room) he⟩
  · obtain ⟨q, hq, he⟩ := hmem (·.x) _ (Coordinate.largest_spec hc first.x (others.map (·.x))).1
    exact ⟨q, hq, congrArg (· + room) he⟩
  · obtain ⟨q, hq, he⟩ := hmem (·.y) _ (Coordinate.smallest_spec hc first.y (others.map (·.y))).1
    exact ⟨q, hq, congrArg (· - room) he⟩
  · obtain ⟨q, hq, he⟩ := hmem (·.y) _ (Coordinate.largest_spec hc first.y (others.map (·.y))).1
    exact ⟨q, hq, congrArg (· + room) he⟩

/-- What is within the limits although it is outermost has half of its side in the room around. -/
theorem Shape.half_le_of_within {side : ℝ} (ho : p.IsOutermost (first :: others))
    (hw : (Shape.around kind p ⟨side, side⟩).Within (Frame.around room first others)) : side / 2 ≤ room := by
  rw [within_around_iff fun _ => rfl] at hw
  obtain ⟨⟨hleft, hright⟩, htop, hbottom⟩ := hw
  obtain ⟨⟨a, ha, hal⟩, ⟨b, hb, hbr⟩, ⟨c, hc, hct⟩, d, hd, hdb⟩ := Frame.exists_mem_around first others room
  dsimp only at hleft hright htop hbottom
  rcases ho with h | h | h | h
  · linarith [h a ha]
  · linarith [h b hb]
  · linarith [h c hc]
  · linarith [h d hd]

end Geometry

/-- Settings that can be read without rounding, with cells of some size. -/
structure LayoutSettings.IsExact (s : LayoutSettings) (cell : Size ℝ) : Prop where
  spacing : ∃ (d : Direction) (gaps : Spacing ℝ), s.direction = .ok d ∧ s.spacing d = .ok gaps
  crossingSweeps : ∃ sweeps, s.crossingSweeps.toIndex = .ok sweeps
  nodeWidth : Coordinate.ofNumber? s.nodeWidth = some (.ok cell.width)
  nodeHeight : Coordinate.ofNumber? s.nodeHeight = some (.ok cell.height)
  positive : 0 < cell.width ∧ 0 < cell.height

namespace Figure

variable {s : LayoutSettings} {cell : Size ℝ}

theorem room_of_isExact (hs : s.IsExact cell) : room s = .ok (max cell.width cell.height) := by
  have hlargest : Coordinate.largest cell.width [cell.height] = max cell.width cell.height := by
    obtain ⟨hm, hle⟩ := Coordinate.largest_spec Coordinate.comparesByOrder_real cell.width [cell.height]
    refine le_antisymm ?_ (max_le (hle _ (by simp)) (hle _ (by simp)))
    rcases List.mem_cons.1 hm with hm | hm
    · exact hm.le.trans (le_max_left _ _)
    · exact (List.mem_singleton.1 hm).le.trans (le_max_right _ _)
  rw [room, hs.nodeWidth, hs.nodeHeight, ← hlargest]
  rfl

theorem shapeOf_eq_ok {n : ChartNode ℝ} {z : Size ℝ} (h : extent s n = .ok z) :
    shapeOf s n = .ok (Shape.around n.kind n.centre z) := by
  rw [shapeOf_eq_map, h]
  rfl

theorem footprint_of_cell (hs : s.IsExact cell) {kind : NodeKind} (hk : kind ≠ .group) (data : Fields) :
    s.footprint kind data = .ok cell :=
  LayoutSettings.footprint_of_ne_group (Coordinate.read_of_ofNumber? hs.nodeWidth)
    (Coordinate.read_of_ofNumber? hs.nodeHeight) hk data

theorem footprint_of_group {data : Fields} {k : ℕ} (hz : Collapse.IsSizedBy data k) :
    s.footprint .group data = .ok (⟨Collapse.footprint k, Collapse.footprint k⟩ : Size ℝ) := by
  rw [LayoutSettings.footprint, (hz.2 s.nodeWidth).1, (hz.2 s.nodeHeight).2]
  rfl

theorem extent_of_artifact (hs : s.IsExact cell) {n : ChartNode ℝ} (hk : n.kind = .secondary) :
    extent s n = .ok (⟨cell.height, cell.height⟩ : Size ℝ) := by
  rw [extent, hk]
  dsimp only
  rw [Coordinate.read_of_ofNumber? hs.nodeHeight]
  rfl

/-- How nodes stand in the limits: only a group can reach beyond them, and one that is outermost does so if
its side is more than twice the room. -/
structure KeepsWithin (s : LayoutSettings) (room : ℝ) (nodes : List (ChartNode ℝ)) (f : Frame ℝ) : Prop where
  cells : ∀ n ∈ nodes, n.kind ≠ .group → ∃ shape, shapeOf s n = .ok shape ∧ shape.Within f
  groups : ∀ n ∈ nodes, n.kind = .group → ∃ (k : ℕ) (shape : Shape ℝ),
    Fields.getD n.data "size" .null = .int k ∧ shapeOf s n = .ok shape ∧
    ((Collapse.footprint k : ℝ) ≤ 2 * room → shape.Within f) ∧
    (n.centre.IsOutermost (nodes.map (·.centre)) → shape.Within f → (Collapse.footprint k : ℝ) ≤ 2 * room)

theorem exists_limits_keepsWithin (hs : s.IsExact cell) {first : ChartNode ℝ} {others : List (ChartNode ℝ)}
    (hg : ∀ n ∈ first :: others, n.kind = .group → ∃ k, Collapse.IsSizedBy n.data k) :
    ∃ f, limits s first others = .ok f ∧ KeepsWithin s (max cell.width cell.height) (first :: others) f := by
  have hmem {n : ChartNode ℝ} (hn : n ∈ first :: others) : n.centre ∈ first.centre :: others.map (·.centre) :=
    List.mem_map_of_mem (f := (·.centre)) hn
  have hw : cell.width / 2 ≤ max cell.width cell.height :=
    (half_le_self hs.positive.1.le).trans (le_max_left _ _)
  have hh : cell.height / 2 ≤ max cell.width cell.height :=
    (half_le_self hs.positive.2.le).trans (le_max_right _ _)
  refine ⟨_, by rw [limits, room_of_isExact hs]; rfl, fun n hn hk => ?_, fun n hn hk => ?_⟩
  · cases hkind : n.kind with
    | primary =>
      have hz : extent s n = .ok cell := by
        rw [extent_of_ranked (by rw [hkind]; rfl), footprint_of_cell hs hk]
      have hround (h : n.kind = .secondary) : cell.width = cell.height := absurd (hkind.symm.trans h) (by decide)
      exact ⟨_, shapeOf_eq_ok hz, Shape.within_around (hmem hn) hround hw hh⟩
    | secondary =>
      exact ⟨_, shapeOf_eq_ok (extent_of_artifact hs hkind), Shape.within_around (hmem hn) (fun _ => rfl) hh hh⟩
    | group => exact absurd hkind hk
  · obtain ⟨k, hz⟩ := hg n hn hk
    have hextent : extent s n = .ok (⟨Collapse.footprint k, Collapse.footprint k⟩ : Size ℝ) := by
      rw [extent_of_ranked (by rw [hk]; rfl), hk, footprint_of_group hz]
    refine ⟨k, _, hz.1, shapeOf_eq_ok hextent, fun hle => ?_, fun ho hwithin => ?_⟩
    · exact Shape.within_around (hmem hn) (fun _ => rfl) (by linarith) (by linarith)
    · have hside := Shape.half_le_of_within ho hwithin
      linarith

end Figure

theorem Collapse.IsSizedBy.setDefault {data : Fields} {k : ℕ} (h : IsSizedBy data k) (label : Value) :
    IsSizedBy (Fields.setDefault data "label" label) k := by
  refine ⟨?_, fun v => ⟨?_, ?_⟩⟩
  · rw [Fields.getD_setDefault_of_ne (by decide), h.1]
  · rw [Fields.getD_setDefault_of_ne (by decide), (h.2 v).1]
  · rw [Fields.getD_setDefault_of_ne (by decide), (h.2 v).2]

/-- A graph is drawn in such a way that only its large groups reach beyond the limits. -/
def CellGraph.IsFramed (s : LayoutSettings) (room : ℝ) (ring : Ring ℝ) (g : CellGraph) : Prop :=
  ∃ nodes, Placement.place (RankLayout.compute s) (.ok ring) g.nodes g.edges =
      .ok (nodes, Placement.numberEdges g.edges) ∧
    ∀ first others, nodes = first :: others →
      ∃ f, Figure.limits s first others = .ok f ∧ Figure.KeepsWithin s room nodes f

section Graphs

variable {s : LayoutSettings} {cell : Size ℝ} {r : BuildRules} {cells : List Cell} {g : CellGraph}

theorem CellGraph.isFramed (hs : s.IsExact cell) (ring : Ring ℝ) (hg : Placement.IsComplete g.nodes g.edges)
    (hz : ∀ n ∈ g.nodes, n.kind = .group → ∃ k, Collapse.IsSizedBy n.data k) :
    g.IsFramed s (max cell.width cell.height) ring := by
  obtain ⟨d, gaps, hd, hgaps⟩ := hs.spacing
  obtain ⟨sweeps, hk⟩ := hs.crossingSweeps
  have hfootprint : ∀ n ∈ g.nodes.filter fun n => n.kind.isRanked, ∃ z : Size ℝ, s.footprint n.kind n.data = .ok z := by
    intro n hn
    by_cases hkind : n.kind = .group
    · obtain ⟨k, hsized⟩ := hz n (List.mem_filter.1 hn).1 hkind
      exact ⟨_, hkind ▸ Figure.footprint_of_group hsized⟩
    · exact ⟨cell, Figure.footprint_of_cell hs hkind n.data⟩
  obtain ⟨ranked, hr, hkeys⟩ := RankLayout.exists_compute_keys_perm (g.edges.map fun e => (e.source, e.target))
    (hg.ids.sublist (List.filter_sublist.map _)) hfootprint hk hd hgaps
  obtain ⟨nodes, hplace, hplaced⟩ := hg.exists_place_eq_ok ring hr fun n hn =>
    Table.isSome_get?_iff.2 (hkeys.mem_iff.2 (List.mem_map_of_mem hn))
  refine ⟨nodes, hplace, fun first others he => ?_⟩
  subst he
  refine Figure.exists_limits_keepsWithin hs fun c hc hkind => ?_
  obtain ⟨n, hn, -, hnkind, hdata⟩ := exists_of_mem_forall₂ hplaced hc
  obtain ⟨k, hsized⟩ := hz n hn (hnkind ▸ hkind)
  exact ⟨k, hdata ▸ hsized.setDefault n.label⟩

/-- A collapsed graph is complete, however large its groups are. -/
theorem Collapse.exists_isComplete (h : BuiltFrom r cells g) (groups : List Group) (color : Value) :
    ∃ q, g.collapse cells groups color = .ok q ∧ Placement.IsComplete q.nodes q.edges ∧
      ∀ n ∈ q.nodes, n.kind = .group → ∃ k, IsSizedBy n.data k := by
  obtain ⟨q, hq, hids, hof, hcarried⟩ := collapse_eq_ok h groups color
  have hlinks : q.links = (projected groups cells g).keys := by
    rw [CellGraph.links, hcarried, Table.keys_mapValues]
  refine ⟨q, hq, ⟨?_, fun e he => ?_, fun n hn hk => ?_⟩, fun n hn hk => ?_⟩
  · rw [hids]
    exact nodup_eraseDups _
  · obtain ⟨⟨l, names⟩, hl, rfl⟩ := List.mem_map.1 he
    obtain ⟨-, ⟨n, hn, -, hs⟩, m, hm, -, ht⟩ := ends_of_classes h hids hof hlinks (List.mem_map_of_mem hl)
    exact ⟨List.mem_map.2 ⟨n, hn, hs⟩, List.mem_map.2 ⟨m, hm, ht⟩⟩
  · obtain ⟨c, -, rfl⟩ := hof n hn
    rw [isRanked_nodeOf] at hk
    cases hk
  · obtain ⟨c, -, rfl⟩ := hof n hn
    obtain ⟨k, -, hsized⟩ := isSizedBy_nodeOf hk
    exact ⟨k, hsized⟩

end Graphs

/-- In the figure for a graph of cells, every shape is within the limits. When groups are collapsed, this
holds for all shapes but those of groups whose side is more than twice the larger side of a cell, and of
these each that is outermost is not. A figure is made of every chart that can be drawn, with these limits
and shapes. -/
theorem BuildRules.build_isFramed {r : BuildRules} {cells : List Cell} {g : CellGraph} (h : r.build cells = .ok g)
    {s : LayoutSettings} {cell : Size ℝ} (hs : s.IsExact cell) (ring : Ring ℝ) (groups : List Group) (color : Value) :
    g.IsFramed s (max cell.width cell.height) ring ∧ (∀ n ∈ g.nodes, n.kind ≠ .group) ∧
    (∃ q, g.collapse cells groups color = .ok q ∧ q.IsFramed s (max cell.width cell.height) ring) ∧
    ∀ f enclosure title size (c : Chart Float),
      ((∃ fig, Figure.draw s f enclosure title size c = .ok fig) ↔
        Figure.IsDrawable s f enclosure title size c) ∧
      ∀ fig, Figure.draw s f enclosure title size c = .ok fig →
        List.Forall₂ (fun n filled => Figure.shapeOf s n = .ok filled.shape) c.nodes fig.shapes ∧
        ∀ first others, c.nodes = first :: others → ∃ asked frame, Figure.limits s first others = .ok asked ∧
          Figure.settleFrame asked = .ok frame ∧ fig.frame = some frame := by
  have hb := builtFrom h
  have hcells : ∀ n ∈ g.nodes, n.kind ≠ .group := fun n hn => hb.kind_ne_group hn
  obtain ⟨q, hq, hcomplete, hsized⟩ := Collapse.exists_isComplete hb groups color
  exact ⟨CellGraph.isFramed hs ring (.of_isSound hb.isSound) fun n hn hk => absurd hk (hcells n hn), hcells,
    ⟨q, hq, CellGraph.isFramed hs ring hcomplete hsized⟩,
    fun f enclosure title size c => ⟨Figure.exists_draw_iff, fun fig => Figure.of_draw⟩⟩

theorem LayoutSettings.IsExact.default : IsExact {} ⟨(100 : ℤ), (40 : ℤ)⟩ where
  spacing := ⟨.topToBottom, _, rfl, rfl⟩
  crossingSweeps := ⟨4, rfl⟩
  nodeWidth := rfl
  nodeHeight := rfl
  positive := by norm_num

/-- Two cells with a picture, and a group of both; the ring has twelve slots. -/
theorem BuildRules.build_isFramed_picture :
    let r : BuildRules := { names := ⟨true, Names.reserved⟩ }
    let cells : List Cell := [
      { position := 5, source := .text "x = 1",
        outputs := [.object [("output_type", .text "display_data")]] },
      { position := 2, source := .text "y = x" }]
    let ring : Ring ℝ := ⟨90, fun slot => ⟨Real.cos (slot / 12 * 2 * Real.pi), Real.sin (slot / 12 * 2 * Real.pi)⟩⟩
    ∃ g, r.build cells = .ok g ∧ g.nodes.map (·.id) = ["5", "5-artifact-0", "2"] ∧ g.IsFramed {} 100 ring ∧
      ∃ q, g.collapse cells [⟨"all", 1, 5, by decide⟩] .null = .ok q ∧ q.IsFramed {} 100 ring := by
  intro r cells ring
  have hl : (r.build cells).toOption.map (fun g => g.nodes.map (·.id)) = some ["5", "5-artifact-0", "2"] := by
    decide +kernel
  have hroom : max ((100 : ℤ) : ℝ) ((40 : ℤ) : ℝ) = 100 := by norm_num
  cases h : r.build cells with
  | error e =>
    rw [h] at hl
    cases hl
  | ok g =>
    obtain ⟨hg, -, ⟨q, hq, hframed⟩, -⟩ := build_isFramed h .default ring [⟨"all", 1, 5, by decide⟩] .null
    rw [h] at hl
    rw [hroom] at hg hframed
    exact ⟨g, rfl, Option.some.inj hl, hg, q, hq, hframed⟩

/-- Under the default settings, a group of fifteen cells has a side of 210 and reaches beyond the limits. -/
theorem BuildRules.exists_build_not_within :
    let r : BuildRules := { names := ⟨true, Names.reserved⟩ }
    let cells : List Cell := (Flow.countedPositions 15).map fun p => { position := p, source := .text "x = 1" }
    let ring : Ring ℝ := ⟨90, fun _ => ⟨1, 0⟩⟩
    ∃ g, r.build cells = .ok g ∧ ∃ q, g.collapse cells [⟨"all", 1, 15, by decide⟩] .null = .ok q ∧
      ∃ n edges f shape, Placement.place (RankLayout.compute {}) (.ok ring) q.nodes q.edges = .ok ([n], edges) ∧
        Figure.limits {} n [] = .ok f ∧ Figure.shapeOf {} n = .ok shape ∧ ¬ shape.Within f := by
  intro r cells ring
  have hl : (r.build cells >>= fun g => g.collapse cells [⟨"all", 1, 15, by decide⟩] .null).toOption.map
      (fun q => q.nodes.map fun n => (n.kind, (Fields.getD n.data "size" .null).toIndex.toOption)) =
      some [(.group, some 15)] := by decide +kernel
  cases h : r.build cells with
  | error e =>
    rw [h] at hl
    cases hl
  | ok g =>
    obtain ⟨q, hq, hcomplete, hsized⟩ :=
      Collapse.exists_isComplete (builtFrom h) [⟨"all", 1, 15, by decide⟩] .null
    rw [h, ok_bind, hq] at hl
    obtain ⟨m, hm, hmk⟩ := List.map_eq_singleton_iff.1 (Option.some.inj hl)
    obtain ⟨hkind, hsize⟩ := Prod.mk.inj hmk
    obtain ⟨nodes, hplace, hframed⟩ := CellGraph.isFramed .default ring hcomplete hsized
    obtain ⟨ranked, -, -, hnodes⟩ := Placement.of_place_eq_ok hcomplete.ids hplace
    rw [hm] at hnodes
    obtain ⟨n, rest, ⟨⟨-, hnk, hdata⟩, -⟩, hnil, rfl⟩ := List.forall₂_cons_left_iff.1 hnodes
    obtain rfl := List.forall₂_nil_left_iff.1 hnil
    obtain ⟨f, hf, hwithin⟩ := hframed n [] rfl
    obtain ⟨k, shape, hk, hshape, -, hlarge⟩ := hwithin.groups n (List.mem_singleton_self n) (hnk.trans hkind)
    refine ⟨g, rfl, q, hq, n, _, f, shape, hplace, hf, hshape, fun hw => ?_⟩
    have hside := hlarge (.inl (by simp)) hw
    rw [hdata, Fields.getD_setDefault_of_ne (by decide)] at hk
    rw [hk] at hsize
    obtain rfl : k = 15 := Int.ofNat.inj (Option.some.inj hsize)
    norm_num [Collapse.footprint] at hside

end CellFlow
