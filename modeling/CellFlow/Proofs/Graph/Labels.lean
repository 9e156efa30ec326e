import CellFlow.Graph.Group
import CellFlow.Proofs.Graph.Build

/-!
When a graph can be built from cells, and that cells which take their labels from groups can be
built whenever they could be without them.
-/

set_option autoImplicit false

namespace CellFlow

namespace Palette

/-- A palette whose colors can be counted: a list, or nothing in the place of one. -/
def IsList (palette : Value) : Prop := ∃ colors, orStandard palette = .list colors

theorem exists_addLabel_eq_ok (palette : List Value) (colors : Colors) {label : Value}
    (h : label.key?.isSome) : ∃ c, addLabel (.list palette) colors label = .ok c := by
  obtain ⟨k, hk⟩ := Option.isSome_iff_exists.1 h
  have hc : ∃ c, colorAt (.list palette) colors.length = .ok c := ⟨_, rfl⟩
  obtain ⟨color, hc⟩ := hc
  cases label with
  | null => exact ⟨colors, rfl⟩
  | _ =>
    simp only [addLabel, Value.toKey, hk, ok_bind, hc, pure_eq_ok]
    split
    · exact ⟨_, rfl⟩
    · exact ⟨_, rfl⟩

theorem isSome_key?_of_addLabel {palette label : Value} {colors c : Colors}
    (h : addLabel palette colors label = .ok c) : label.key?.isSome := by
  cases label with
  | list xs => cases h
  | object fs => cases h
  | _ => rfl

theorem exists_colorsFor_eq_ok {cells : List Cell} {palette : Value} (hp : IsList palette)
    (h : ∀ c ∈ cells, c.label.key?.isSome) : ∃ colors, colorsFor cells palette = .ok colors := by
  obtain ⟨list, hp⟩ := hp
  rw [colorsFor, hp]
  refine exists_foldlM_eq_ok _ fun colors label hl => ?_
  obtain ⟨c, hc, rfl⟩ := List.mem_map.1 hl
  exact exists_addLabel_eq_ok list colors (h c hc)

theorem isSome_key?_of_colorsFor {cells : List Cell} {palette : Value} {colors : Colors}
    (h : colorsFor cells palette = .ok colors) : ∀ c ∈ cells, c.label.key?.isSome := by
  intro c hc
  obtain ⟨before, after, ha⟩ := exists_of_foldlM_eq_ok h _ (List.mem_map_of_mem hc)
  exact isSome_key?_of_addLabel ha

end Palette

/-- A cell without a label, or with one that is a text. -/
def Cell.HasTextLabel (c : Cell) : Prop := c.label = .null ∨ ∃ s, c.label = .text s

namespace Group

variable {groups : List Group} {c : Cell}

@[simp] theorem position_labelCell : (labelCell groups c).position = c.position := by
  unfold labelCell
  split <;> rfl

@[simp] theorem source_labelCell : (labelCell groups c).source = c.source := by
  unfold labelCell
  split <;> rfl

@[simp] theorem outputs_labelCell : (labelCell groups c).outputs = c.outputs := by
  unfold labelCell
  split <;> rfl

theorem isSome_key?_labelCell (h : c.label.key?.isSome) : (labelCell groups c).label.key?.isSome := by
  unfold labelCell
  split
  · rfl
  · exact h

theorem hasTextLabel_labelCell (h : c.HasTextLabel) :
    (labelCell groups c).HasTextLabel := by
  unfold labelCell
  split
  · exact .inr ⟨_, rfl⟩
  · exact h

theorem map_position_labelCells (groups : List Group) (cells : List Cell) :
    (labelCells groups cells).map (·.position) = cells.map (·.position) := by
  rw [labelCells, List.map_map]
  exact List.map_congr_left fun c _ => position_labelCell

end Group

theorem Palette.exists_colorsFor_labelCells {cells : List Cell} {palette : Value} {colors : Colors}
    (hp : IsList palette) (h : colorsFor cells palette = .ok colors) (groups : List Group) :
    ∃ cs, colorsFor (Group.labelCells groups cells) palette = .ok cs := by
  refine exists_colorsFor_eq_ok hp fun c hm => ?_
  obtain ⟨d, hd, rfl⟩ := List.mem_map.1 hm
  exact Group.isSome_key?_labelCell (isSome_key?_of_colorsFor h d hd)

namespace BuildRules

variable {r : BuildRules} {cells : List Cell}

theorem exists_allNodes_eq_ok_iff (colors : Colors) {l : List (Cell × CellNames)} :
    (∃ ns, r.allNodes colors l = .ok ns) ↔ ∀ p ∈ l, ∃ ts, r.tags p.1 = .ok ts := by
  induction l with
  | nil => simp [allNodes]
  | cons p l ih =>
    obtain ⟨c, n⟩ := p
    rw [List.forall_mem_cons, ← ih]
    constructor
    · intro h
      obtain ⟨ns, h⟩ := h
      obtain ⟨here, hh, h⟩ := bind_eq_ok.1 h
      obtain ⟨others, ho, -⟩ := bind_eq_ok.1 h
      obtain ⟨ts, ht, -⟩ := bind_eq_ok.1 hh
      exact ⟨⟨ts, ht⟩, others, ho⟩
    · intro h
      obtain ⟨⟨ts, ht⟩, others, ho⟩ := h
      exact ⟨_, by rw [allNodes, nodesOf, ht, ok_bind, pure_eq_ok, ok_bind, ho]; rfl⟩

/-- A graph can be built from cells at different positions if there are colors for their labels
and their artifacts can be found. -/
theorem exists_build_eq_ok_iff : (∃ g, r.build cells = .ok g) ↔ (cells.map (·.position)).Nodup ∧
    (∃ colors, Palette.colorsFor cells r.figure.palette = .ok colors) ∧
    ∀ c ∈ cells, ∃ ts, r.tags c = .ok ts := by
  constructor
  · intro h
    obtain ⟨g, h⟩ := h
    obtain ⟨⟨⟩, hp, h⟩ := bind_eq_ok.1 h
    obtain ⟨colors, hc, h⟩ := bind_eq_ok.1 h
    obtain ⟨nodes, hn, -⟩ := bind_eq_ok.1 h
    rw [← List.map_prod_left_eq_zip, liftM_eq_ok] at hn
    refine ⟨(checkPositions_eq_ok.1 hp).1, ⟨colors, liftM_eq_ok.1 hc⟩, fun c hm => ?_⟩
    exact (exists_allNodes_eq_ok_iff colors).1 ⟨nodes, hn⟩ _ (List.mem_map_of_mem hm)
  · intro h
    obtain ⟨hp, ⟨colors, hc⟩, ht⟩ := h
    have hl : ∀ p ∈ cells.map fun c => (c, r.names.extract c.source), ∃ ts, r.tags p.1 = .ok ts := by
      intro p hm
      obtain ⟨c, hm', rfl⟩ := List.mem_map.1 hm
      exact ht c hm'
    obtain ⟨nodes, hn⟩ := (exists_allNodes_eq_ok_iff colors).2 hl
    have hp' : checkPositions [] (cells.map (·.position)) = .ok () :=
      checkPositions_eq_ok.2 ⟨hp, fun p _ => List.not_mem_nil⟩
    exact ⟨_, by rw [build, hp', ok_bind, hc, liftM_ok, ok_bind, ← List.map_prod_left_eq_zip, hn]; rfl⟩

theorem tags_labelCell (r : BuildRules) (groups : List Group) (c : Cell) :
    r.tags (Group.labelCell groups c) = r.tags c := by
  rw [tags, Group.outputs_labelCell, tags]

theorem tagList_labelCell (r : BuildRules) (groups : List Group) (c : Cell) :
    r.tagList (Group.labelCell groups c) = r.tagList c := by
  rw [tagList, tags_labelCell, tagList]

theorem exists_build_labelCells {g : CellGraph} (hp : Palette.IsList r.figure.palette)
    (h : r.build cells = .ok g) (groups : List Group) :
    ∃ q, r.build (Group.labelCells groups cells) = .ok q := by
  obtain ⟨hd, ⟨colors, hc⟩, ht⟩ := exists_build_eq_ok_iff.1 ⟨g, h⟩
  refine exists_build_eq_ok_iff.2 ⟨?_, Palette.exists_colorsFor_labelCells hp hc groups, fun c hm => ?_⟩
  · rw [Group.map_position_labelCells]
    exact hd
  · obtain ⟨d, hd, rfl⟩ := List.mem_map.1 hm
    rw [tags_labelCell]
    exact ht d hd

end BuildRules

end CellFlow
