import CellFlow.Proofs.Data.Keyed
import CellFlow.Proofs.Graph.Labels
import CellFlow.Proofs.Graph.Quotient

/-!
Colors of the nodes of a graph: distinct labels take the colors of the palette in turn, a cell has the
color of its label, and so has a group, which is why both show the same.
-/

set_option autoImplicit false

namespace CellFlow

/-- The label of a cell as a text, if it has one. -/
def Cell.labelText? (c : Cell) : Option String :=
  match c.label with
  | .text s => some s
  | _ => none

namespace Palette

/-- Labels with the colors of a palette in turn. -/
def inTurn (palette : List Value) (labels : List String) : Colors :=
  labels.zipIdx.map fun (label, i) => (.text label, palette.getD (i % palette.length) .null)

/-- The distinct labels of cells, in the order in which the cells show them. -/
def labelsOf (cells : List Cell) : List String := (cells.filterMap Cell.labelText?).eraseDups

/-- The labels have colors, and no others: the first one the first color of the palette, and so on,
from the front again when the palette runs out. -/
structure TakesTurns (palette : List Value) (labels : List String) (colors : Colors) : Prop where
  keys : colors.map (·.1) = labels.map Key.text
  color : ∀ i label, labels[i]? = some label → ∃ color, palette[i % palette.length]? = some color ∧
    colors.find? (.text label) = some color

variable {palette : List Value} {labels : List String} {label : String} {color : Value}

theorem map_fst_inTurn (palette : List Value) (labels : List String) :
    (inTurn palette labels).map (·.1) = labels.map Key.text := by
  rw [inTurn, List.map_map]
  conv_rhs => rw [← List.zipIdx_map_fst 0 labels, List.map_map]
  rfl

theorem areKeyed_inTurn (palette : List Value) (h : labels.Nodup) : (inTurn palette labels).AreKeyed where
  texts f hf := by
    obtain ⟨p, -, rfl⟩ := List.mem_map.1 hf
    rfl
  distinct := by
    rw [map_fst_inTurn]
    exact h.map fun a b he => Key.text.inj he

theorem get?_inTurn_eq_some_iff (h : labels.Nodup) : Fields.get? (inTurn palette labels) label = some color ↔
    ∃ i : Nat, labels[i]? = some label ∧ palette.getD (i % palette.length) .null = color := by
  rw [(areKeyed_inTurn palette h).get?_eq_some_iff, inTurn, List.mem_map]
  simp only [Prod.exists, List.mem_zipIdx_iff_getElem?, Prod.mk.injEq, Key.text.injEq]
  constructor
  · rintro ⟨l, i, hi, rfl, hc⟩
    exact ⟨i, hi, hc⟩
  · rintro ⟨i, hi, hc⟩
    exact ⟨label, i, hi, rfl, hc⟩

theorem isSome_get?_inTurn (h : labels.Nodup) :
    (Fields.get? (inTurn palette labels) label).isSome ↔ label ∈ labels := by
  rw [Option.isSome_iff_exists, List.mem_iff_getElem?]
  simp only [get?_inTurn_eq_some_iff h]
  exact ⟨fun ⟨_, i, hi, _⟩ => ⟨i, hi⟩, fun ⟨i, hi⟩ => ⟨_, i, hi, rfl⟩⟩

theorem inTurn_concat (palette : List Value) (labels : List String) (label : String) :
    inTurn palette (labels ++ [label]) =
      inTurn palette labels ++ [(.text label, palette.getD (labels.length % palette.length) .null)] := by
  rw [inTurn, List.zipIdx_append, List.map_append, ← inTurn, Nat.zero_add]
  rfl

/-- One label goes to the end with the next color, unless it is there. -/
theorem addLabel_inTurn (palette : List Value) (h : labels.Nodup) (label : String) :
    addLabel (.list palette) (inTurn palette labels) (.text label) =
      .ok (inTurn palette (addNew labels label)) := by
  have hk : (Value.text label).toKey = .ok (.text label) := rfl
  have hlength : (inTurn palette labels).length = labels.length := by
    rw [inTurn, List.length_map, List.length_zipIdx]
  have hcolor : colorAt (.list palette) (inTurn palette labels).length =
      .ok (palette.getD (labels.length % palette.length) .null) := by
    rw [hlength]
    rfl
  simp only [addLabel, hk, ok_bind, isSome_get?_inTurn h, hcolor, pure_eq_ok]
  by_cases hm : label ∈ labels
  · rw [if_pos hm, addNew_of_mem hm]
  · rw [if_neg hm, addNew_of_not_mem hm, inTurn_concat]

/-- The colors found so far are those of the labels seen so far, in turn. -/
theorem foldlM_addLabel_inTurn (palette : List Value) (h : labels.Nodup) {cells : List Cell}
    (hc : ∀ c ∈ cells, c.HasTextLabel) :
    (cells.map (·.label)).foldlM (addLabel (.list palette)) (inTurn palette labels) =
      .ok (inTurn palette ((cells.filterMap Cell.labelText?).foldl addNew labels)) := by
  induction cells generalizing labels with
  | nil => rfl
  | cons c cells ih =>
    rw [List.forall_mem_cons] at hc
    rw [List.map_cons, List.foldlM_cons, List.filterMap_cons, Cell.labelText?]
    rcases hc.1 with hl | ⟨label, hl⟩
    · rw [hl]
      exact ih h hc.2
    · rw [hl, addLabel_inTurn palette h, ok_bind, ih (nodup_addNew h) hc.2]
      rfl

theorem colorsFor_eq_inTurn {given : Value} (hp : orStandard given = .list palette) {cells : List Cell}
    (hc : ∀ c ∈ cells, c.HasTextLabel) : colorsFor cells given = .ok (inTurn palette (labelsOf cells)) := by
  rw [colorsFor, hp]
  exact (foldlM_addLabel_inTurn palette .nil hc).trans (by rw [foldl_addNew_nil, labelsOf])

theorem ne_nil_of_orStandard {given : Value} (h : orStandard given = .list palette) : palette ≠ [] := by
  rintro rfl
  unfold orStandard at h
  split at h
  · rename_i ht
    rw [h] at ht
    cases ht
  · cases h

theorem takesTurns_inTurn (hp : palette ≠ []) (h : labels.Nodup) :
    TakesTurns palette labels (inTurn palette labels) where
  keys := map_fst_inTurn palette labels
  color i label hi := by
    have hlt : i % palette.length < palette.length := Nat.mod_lt _ (List.length_pos_of_ne_nil hp)
    refine ⟨_, List.getElem?_eq_getElem hlt, (get?_inTurn_eq_some_iff h).2 ⟨i, hi, ?_⟩⟩
    rw [List.getD_eq_getElem?_getD, List.getElem?_eq_getElem hlt]
    rfl

namespace TakesTurns

variable {colors : Colors} (h : TakesTurns palette labels colors)
include h

theorem exists_find? (hm : label ∈ labels) : ∃ color, colors.find? (.text label) = some color := by
  obtain ⟨i, hi⟩ := List.mem_iff_getElem?.1 hm
  obtain ⟨color, -, hc⟩ := h.color i label hi
  exact ⟨color, hc⟩

/-- There is no color for cells without a label. -/
theorem find?_null : colors.find? .null = none := by
  change colors.lookup Key.null = none
  rw [List.lookup_eq_none_iff]
  intro f hf
  have hm : f.1 ∈ labels.map Key.text := h.keys ▸ List.mem_map_of_mem hf
  obtain ⟨label, -, hl⟩ := List.mem_map.1 hm
  rw [← hl]
  rfl

end TakesTurns

theorem mem_labelsOf {cells : List Cell} {c : Cell} (hc : c ∈ cells) (hl : c.label = .text label) :
    label ∈ labelsOf cells := by
  rw [labelsOf, List.mem_eraseDups]
  exact List.mem_filterMap.2 ⟨c, hc, by rw [Cell.labelText?, hl]⟩

end Palette

/-- The color in the data of a node. -/
def Node.color? {ι : Type} (n : Node ι) : Option Value := Fields.get? n.data "color"

theorem BuildRules.color?_cellNode (r : BuildRules) (colors : Colors) (c : Cell) (names : CellNames) :
    (r.cellNode colors c names).color? = some ((colors.find? c.label).getD r.figure.defaultNodeColor) := by
  simp [Node.color?, cellNode, Fields.get?, List.lookup_cons]

namespace Collapse

variable {r : BuildRules} {groups : List Group} {cells : List Cell} {g : CellGraph} {c : Cell} {color : Value}

/-- Cells carry the labels of the first groups that contain them. -/
def AreLabelled (groups : List Group) (cells : List Cell) : Prop :=
  ∀ c ∈ cells, ∀ grp i, Group.find? groups c.position = some (grp, i) → c.label = .text grp.label

/-- The node that stands for a labelled cell, be it of a group or its own, has the color of the label. -/
theorem color?_nodeOf (hl : AreLabelled groups cells) (hc : c ∈ cells) :
    (nodeOf r g groups cells r.figure.defaultNodeColor c).color? =
      some ((g.colors.find? c.label).getD r.figure.defaultNodeColor) := by
  unfold nodeOf
  cases hf : Group.find? groups c.position with
  | none => exact r.color?_cellNode g.colors c _
  | some p =>
    rw [hl c hc p.1 p.2 hf]
    simp [Node.color?, groupNode, Fields.get?, List.lookup_cons]

end Collapse

end CellFlow
