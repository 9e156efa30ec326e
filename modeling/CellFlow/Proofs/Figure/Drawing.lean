import CellFlow.Figure.Draw
import CellFlow.Proofs.Data.Outcome

/-!
What a figure draws: every node of its chart, in the shape that the layout settings give it. A figure
is made of a chart exactly when all parts of the chart can be read and have a place on it.
-/

set_option autoImplicit false

namespace CellFlow.Figure

variable {s : LayoutSettings} {f : FigureSettings} {enclosure : Enclosure} {title : String}

/-- An edge does not stand in the way of a figure: its ends are keys, and if both are in the chart,
there is a place for the arrow between them. -/
def HasArrow (s : LayoutSettings) (inches : Float × Float) (c : Chart Float) (e : ChartEdge) : Prop :=
  e.source.checkKey = .ok () ∧ ∀ source, c.latest? e.source = some source →
    e.target.checkKey = .ok () ∧ ∀ target, c.latest? e.target = some target →
      ∃ z w : Size Float, extent s source = .ok z ∧ extent s target = .ok w ∧
        checkArrow inches source.centre (Coordinate.half z.height) (Coordinate.half w.height) = .ok ()

/-- A chart with nodes can be drawn on a figure of some size: ids, owners and tags are keys, shapes,
arrows and colors can be read, and all of it has a place within limits that fit the figure. -/
structure IsDrawableOn (s : LayoutSettings) (f : FigureSettings) (title : String) (inches : Float × Float)
    (c : Chart Float) : Prop where
  ids : ∀ n ∈ c.nodes, n.id.checkKey = .ok ()
  owners : ∀ n ∈ c.ofKind .secondary, (Fields.getD n.data "owner" .null).checkKey = .ok ()
  tags : ∀ n ∈ c.ofKind .secondary, (Fields.getD n.data "tag" .null).checkKey = .ok ()
  arrows : ∀ e ∈ c.edges, HasArrow s inches c e
  shapes : ∀ n ∈ c.nodes, ∃ shape, shapeOf s n = .ok shape ∧ checkShape shape = .ok ()
  fills : ∀ n ∈ c.nodes, ∃ color, Color.ofValue (Fields.getD n.data "color" f.defaultNodeColor) = .ok color
  labels : ∀ e ∈ c.colors, ∃ color, Color.ofValue e.2 = .ok color
  frame : ∀ first others, c.nodes = first :: others → ∃ asked frame, limits s first others = .ok asked ∧
    settleFrame asked = .ok frame ∧ checkFit title inches frame = .ok ()

/-- The size of the figure can be read, and a chart with nodes can be drawn on it. -/
def IsDrawable (s : LayoutSettings) (f : FigureSettings) (enclosure : Enclosure) (title : String)
    (size : Value) (c : Chart Float) : Prop :=
  ∃ inches, chosenSize f enclosure size = .ok inches ∧ (c.nodes ≠ [] → IsDrawableOn s f title inches c)

section Shapes

variable {α : Type} [Coordinate α] {n : ChartNode α}

theorem extent_of_ranked (hk : n.kind.isRanked = true) : extent s n = s.footprint n.kind n.data := by
  rw [extent]
  cases hn : n.kind with
  | primary => rfl
  | group => rfl
  | secondary =>
    rw [hn] at hk
    cases hk

theorem shapeOf_eq_map : shapeOf s n = (extent s n).map (Shape.around n.kind n.centre) := by
  rw [shapeOf]
  cases extent s n <;> rfl

end Shapes

/-! Which parts can be read -/

theorem exists_readTethers_iff {c : Chart Float} : (∃ tethers, readTethers c = .ok tethers) ↔
    ∀ n ∈ c.ofKind .secondary, (Fields.getD n.data "owner" .null).checkKey = .ok () := by
  have htether (n : ChartNode Float) : (∃ tether, tether? c n = .ok tether) ↔
      (Fields.getD n.data "owner" .null).checkKey = .ok () := by
    simp [tether?, exists_bind_eq_ok, Unique.exists_iff, PUnit.default_eq_unit]
  simp [readTethers, exists_bind_eq_ok, exists_mapM_eq_ok_iff, htether]

theorem exists_arrow?_iff {inches : Float × Float} {c : Chart Float} {e : ChartEdge} :
    (∃ arrow, arrow? s inches c e = .ok arrow) ↔ HasArrow s inches c e := by
  simp only [arrow?, HasArrow, exists_bind_eq_ok, liftM_eq_ok, Unique.exists_iff, PUnit.default_eq_unit]
  cases hs : c.latest? e.source with
  | none => simp
  | some source =>
    simp only [exists_bind_eq_ok, liftM_eq_ok, Unique.exists_iff, PUnit.default_eq_unit]
    cases ht : c.latest? e.target with
    | none => simp
    | some target => simp [exists_bind_eq_ok, liftM_eq_ok, Unique.exists_iff, PUnit.default_eq_unit]

theorem exists_readArrows_iff {inches : Float × Float} {c : Chart Float} :
    (∃ arrows, readArrows s inches c = .ok arrows) ↔ ∀ e ∈ c.edges, HasArrow s inches c e := by
  simp [readArrows, exists_bind_eq_ok, exists_mapM_eq_ok_iff, exists_arrow?_iff]

theorem exists_drawNode_iff {n : ChartNode Float} : (∃ drawn, drawNode s f n = .ok drawn) ↔
    (∃ shape, shapeOf s n = .ok shape ∧ checkShape shape = .ok ()) ∧
      ∃ color, Color.ofValue (Fields.getD n.data "color" f.defaultNodeColor) = .ok color := by
  simp only [drawNode, exists_bind_eq_ok, liftM_eq_ok, Unique.exists_iff, PUnit.default_eq_unit]
  constructor
  · rintro ⟨shape, hs, color, hc, hplace, -⟩
    exact ⟨⟨shape, hs, hplace⟩, color, hc⟩
  · rintro ⟨⟨shape, hs, hplace⟩, color, hc⟩
    exact ⟨shape, hs, color, hc, hplace, _, rfl⟩

theorem exists_legendColor (t : Tag) : ∃ color, Color.ofText t.color = .ok color := by
  cases t <;> exact exists_eq_ok_of_isOk (by decide)

theorem exists_readLegend_iff {c : Chart Float} : (∃ legend, readLegend c = .ok legend) ↔
    (∀ e ∈ c.colors, ∃ color, Color.ofValue e.2 = .ok color) ∧
      ∀ n ∈ c.ofKind .secondary, (Fields.getD n.data "tag" .null).checkKey = .ok () := by
  simp only [readLegend, exists_bind_eq_ok, Unique.exists_iff, PUnit.default_eq_unit, forM_eq_ok_iff,
    List.forall_mem_map, liftM_eq_ok]
  constructor
  · rintro ⟨labels, hl, htags, -⟩
    refine ⟨fun e he => ?_, htags⟩
    obtain ⟨_, h⟩ := exists_mapM_eq_ok_iff.1 ⟨labels, hl⟩ e he
    obtain ⟨color, hc, -⟩ := bind_eq_ok.1 h
    exact ⟨color, hc⟩
  · rintro ⟨hcolors, htags⟩
    obtain ⟨labels, hl⟩ := exists_mapM_eq_ok fun e he => exists_bind_eq_ok.2 <|
      (hcolors e he).imp fun color hc => ⟨hc, _, rfl⟩
    obtain ⟨tags, ht⟩ := exists_mapM_eq_ok fun (t : Tag) _ => exists_bind_eq_ok.2 <|
      (exists_legendColor t).imp fun color hc => ⟨hc, _, rfl⟩
    exact ⟨labels, hl, htags, tags, ht, _, rfl⟩

/-- What a chart needs is that each part of its figure can be read. -/
theorem isDrawableOn_iff {inches : Float × Float} {c : Chart Float} : IsDrawableOn s f title inches c ↔
    (∀ n ∈ c.nodes, n.id.checkKey = .ok ()) ∧ (∃ tethers, readTethers c = .ok tethers) ∧
    (∃ arrows, readArrows s inches c = .ok arrows) ∧ (∃ drawn, c.nodes.mapM (drawNode s f) = .ok drawn) ∧
    (∃ legend, readLegend c = .ok legend) ∧
    ∀ first others, c.nodes = first :: others → ∃ asked frame, limits s first others = .ok asked ∧
      settleFrame asked = .ok frame ∧ checkFit title inches frame = .ok () := by
  rw [exists_readTethers_iff, exists_readArrows_iff, exists_mapM_eq_ok_iff, exists_readLegend_iff]
  simp only [exists_drawNode_iff]
  constructor
  · intro h
    exact ⟨h.ids, h.owners, h.arrows, fun n hn => ⟨h.shapes n hn, h.fills n hn⟩, ⟨h.labels, h.tags⟩,
      h.frame⟩
  · rintro ⟨hids, howners, harrows, hnodes, ⟨hlabels, htags⟩, hframe⟩
    exact ⟨hids, howners, htags, harrows, fun n hn => (hnodes n hn).1, fun n hn => (hnodes n hn).2, hlabels,
      hframe⟩

/-- A figure is made exactly when the chart can be drawn. -/
theorem exists_draw_iff {size : Value} {c : Chart Float} :
    (∃ fig, draw s f enclosure title size c = .ok fig) ↔ IsDrawable s f enclosure title size c := by
  rw [draw, exists_bind_eq_ok, IsDrawable]
  refine exists_congr fun inches => and_congr_right fun _ => ?_
  rw [isDrawableOn_iff]
  cases hn : c.nodes with
  | nil => exact ⟨fun _ h => absurd rfl h, fun _ => ⟨_, rfl⟩⟩
  | cons first others =>
    rw [forall_prop_of_true (List.cons_ne_nil first others)]
    simp only [exists_bind_eq_ok, Unique.exists_iff, PUnit.default_eq_unit, forM_eq_ok_iff, liftM_eq_ok]
    constructor
    · rintro ⟨hids, tethers, ht, arrows, ha, drawn, hd, asked, hasked, frame, hframe, legend, hl, hfit, -⟩
      refine ⟨hids, ⟨tethers, ht⟩, ⟨arrows, ha⟩, ⟨drawn, hd⟩, ⟨legend, hl⟩, fun first' others' he => ?_⟩
      cases he
      exact ⟨asked, frame, hasked, hframe, hfit⟩
    · rintro ⟨hids, ⟨tethers, ht⟩, ⟨arrows, ha⟩, ⟨drawn, hd⟩, ⟨legend, hl⟩, hfits⟩
      obtain ⟨asked, frame, hasked, hframe, hfit⟩ := hfits first others rfl
      exact ⟨hids, tethers, ht, arrows, ha, drawn, hd, asked, hasked, frame, hframe, legend, hl, hfit, _, rfl⟩

/-! What a figure holds -/

theorem shapeOf_of_drawNode {n : ChartNode Float} {drawn : FilledShape × Caption}
    (h : drawNode s f n = .ok drawn) : shapeOf s n = .ok drawn.1.shape := by
  unfold drawNode at h
  obtain ⟨shape, hs, h⟩ := bind_eq_ok.1 h
  obtain ⟨fill, -, h⟩ := bind_eq_ok.1 h
  obtain ⟨-, -, h⟩ := bind_eq_ok.1 h
  obtain rfl := Except.ok.inj h
  exact liftM_eq_ok.1 hs

/-- What a figure has from the nodes of its chart: a shape for each, and the limits around them. -/
theorem of_draw {size : Value} {c : Chart Float} {fig : Figure}
    (h : draw s f enclosure title size c = .ok fig) :
    List.Forall₂ (fun n filled => shapeOf s n = .ok filled.shape) c.nodes fig.shapes ∧
    ∀ first others, c.nodes = first :: others → ∃ asked frame, limits s first others = .ok asked ∧
      settleFrame asked = .ok frame ∧ fig.frame = some frame := by
  unfold draw at h
  obtain ⟨inches, -, h⟩ := bind_eq_ok.1 h
  split at h
  · rename_i hn
    obtain rfl := Except.ok.inj h
    rw [hn]
    exact ⟨.nil, fun first others he => by cases he⟩
  · rename_i first others hn
    obtain ⟨-, -, h⟩ := bind_eq_ok.1 h
    obtain ⟨tethers, -, h⟩ := bind_eq_ok.1 h
    obtain ⟨arrows, -, h⟩ := bind_eq_ok.1 h
    obtain ⟨drawn, hd, h⟩ := bind_eq_ok.1 h
    obtain ⟨asked, hl, h⟩ := bind_eq_ok.1 h
    obtain ⟨frame, hf, h⟩ := bind_eq_ok.1 h
    obtain ⟨legend, -, h⟩ := bind_eq_ok.1 h
    obtain ⟨-, -, h⟩ := bind_eq_ok.1 h
    obtain rfl := Except.ok.inj h
    refine ⟨?_, fun first' others' he => ?_⟩
    · rw [List.forall₂_map_right_iff]
      exact (forall₂_of_mapM_eq_ok hd).imp fun n filled => shapeOf_of_drawNode
    · cases hn.symm.trans he
      exact ⟨asked, frame, liftM_eq_ok.1 hl, hf, rfl⟩

end CellFlow.Figure
