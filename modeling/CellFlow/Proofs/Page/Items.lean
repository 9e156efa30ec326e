import CellFlow.Page.Document
import CellFlow.Proofs.Graph.Quotient
import CellFlow.Proofs.Layout.Placing
import CellFlow.Proofs.Page.Encoding

/-!
What the items of a page hold of the user's texts. Tooltips have them as markup and the other fields
are made of numbers, names and colors; only the label of a group stands in its item as it is, cut to
its first letters.
-/

set_option autoImplicit false

namespace CellFlow

theorem Value.join_texts (separator : String) (ss : List String) :
    Value.join separator (.list (ss.map .text)) = .ok (separator.intercalate ss) := by
  have hshown : (ss.map Value.text).zipIdx.map (fun p => p.1.shown) = ss := by
    rw [← Function.comp_def (f := Value.shown), ← List.map_map, List.zipIdx_map_fst, List.map_map]
    exact List.map_id _
  unfold Value.join
  show (((ss.map Value.text).zipIdx.mapM _) >>= _ : Except Fault String) = _
  rw [mapM_eq_ok_map (g := fun p => p.1.shown) fun p hp => ?_, hshown]
  · rfl
  · obtain ⟨x, i⟩ := p
    obtain ⟨s, -, rfl⟩ := List.mem_map.1 (List.fst_mem_of_mem_zipIdx hp)
    rfl

/-- A color that is written as it is: a text without the mark that starts tags, or none. -/
def Value.IsPlainColor (v : Value) : Prop := v = .null ∨ ∃ s, v = .text s ∧ '<' ∉ s.toList

theorem Value.IsPlainColor.shown {v : Value} (h : v.IsPlainColor) : '<' ∉ v.shown.toList := by
  rcases h with rfl | ⟨s, rfl, hs⟩
  · decide
  · exact hs

/-- Colors of labels that are texts, each one that is written as it is. -/
def Colors.ArePlain (colors : Colors) : Prop := ∀ e ∈ colors, (∃ s, e.1 = .text s) ∧ e.2.IsPlainColor

namespace Page

theorem lt_not_mem_markup (s : String) : '<' ∉ (Text.markup s).toList := by
  rw [Text.markup, String.toList_ofList, List.mem_flatMap]
  rintro ⟨c, -, hc⟩
  exact (Text.markupChar_plain c).1 hc

theorem harmless_markup (s : String) : Harmless (Text.markup s).toList := .of_not_mem (lt_not_mem_markup s)

/-- An item ends the script that holds it. -/
def ItemEnds (item : Fields) : Prop := ∃ s ∈ (Value.object item).texts, EndsScript s.toList

/-- The item of a node can be made and written, and it ends the script in one case only. -/
def Shows (n : CellNode) (ends : Prop) : Prop :=
  ∀ c : ChartNode Float, Placement.IsPlacedNode n c →
    ∃ item, nodeItem c = .ok item ∧ checkSize item = .ok () ∧ (ItemEnds item.toFields ↔ ends)

theorem itemEnds_nodeItem_iff {n : NodeItem} {id : String} (hid : n.id = .text id) (hplain : '<' ∉ id.toList)
    (htitle : ¬ EndsScript n.title.toList) (hcolor : n.color.IsPlainColor)
    (hshape : '<' ∉ n.shape.toList) (hgroup : '<' ∉ n.group.toList) :
    ItemEnds n.toFields ↔ EndsScript n.label.toList := by
  have hcolor' : ¬ ∃ s ∈ n.color.texts, EndsScript s.toList := by
    rcases hcolor with hc | ⟨s, hc, hs⟩
    · simp [hc, Value.texts]
    · simpa [hc, Value.texts] using not_endsScript_of_not_mem hs
  have hkeys : ∀ k ∈ ["id", "label", "title", "color", "shape", "size", "group", "x", "y", "fixed"],
      ¬ EndsScript k.toList := by decide
  simp only [List.forall_mem_cons] at hkeys
  simp only [ItemEnds, NodeItem.toFields, Value.texts, Value.textsOfMembers, Key.texts, hid,
    List.mem_append, or_and_right, exists_or]
  simp only [List.mem_singleton, exists_eq_left, List.not_mem_nil, false_and, exists_false, or_false,
    false_or, hkeys, htitle, hcolor', not_endsScript_of_not_mem hplain, not_endsScript_of_not_mem hshape,
    not_endsScript_of_not_mem hgroup]

theorem checkSize_eq_ok {n : NodeItem} (h : n.size.natAbs < 10 ^ 20) : checkSize n = .ok () := by
  have hd : 20 ≤ Number.maxDigits := by decide
  rw [checkSize]
  generalize Number.maxDigits = digits at hd ⊢
  exact if_pos (Nat.lt_of_lt_of_le h (Nat.pow_le_pow_right (by decide) hd))

theorem exists_whenGiven {data : Fields} {key : String} {part : Value → Except Fault String}
    (h : ∃ s, part (Fields.getD data key .null) = .ok s ∧ Harmless s.toList) :
    ∃ s, whenGiven data key part = .ok s ∧ Harmless s.toList := by
  rw [whenGiven]
  split
  · exact h
  · exact ⟨"", rfl, .of_not_mem (by decide)⟩

theorem lt_not_mem_cut {n : Nat} {s : String} (h : '<' ∉ s.toList) : '<' ∉ (cut n s).toList := by
  rw [cut, String.toList_ofList]
  exact fun hm => h (List.mem_of_mem_take hm)

theorem lt_not_mem_join {ss : List String} (h : ∀ s ∈ ss, '<' ∉ s.toList) :
    '<' ∉ (", ".intercalate ss).toList := by
  rw [String.toList_intercalate]
  refine fun hm => Text.forall_mem_intercalate (p := (· ≠ '<')) (by simp) (fun l hl c hc he => ?_) _ hm rfl
  obtain ⟨s, hs, rfl⟩ := List.mem_map.1 hl
  exact h s hs (he ▸ hc)

theorem lt_not_mem_artifactId (p i : Int) : '<' ∉ (artifactId (toString p) i).toList := by
  rw [toList_artifactId]
  simp only [List.mem_append, not_or]
  exact ⟨lt_not_mem_toString p, by decide, lt_not_mem_toString i⟩

theorem lt_not_mem_groupId (i : Nat) : '<' ∉ (Collapse.groupId i).toList := by
  rw [Collapse.toList_groupId, List.mem_append, not_or]
  exact ⟨by decide, lt_not_mem_toString (i + 1 : Nat)⟩

/-- The item of a node whose tooltip and size are known. -/
theorem exists_nodeItem {n : CellNode} {c : ChartNode Float} (h : Placement.IsPlacedNode n c)
    (hid : '<' ∉ n.id.toList) {title label : String} {size : Int} (ht : tooltip c = .ok title)
    (htitle : Harmless title.toList) (hs : sizeOf c = .ok size) (hsize : size.natAbs < 10 ^ 20)
    (hlabel : c.caption = label) (hcolor : (Fields.getD c.data "color" plainColor).IsPlainColor) :
    ∃ item, nodeItem c = .ok item ∧ checkSize item = .ok () ∧
      (ItemEnds item.toFields ↔ EndsScript (cut labelLength label).toList) := by
  refine ⟨_, by rw [nodeItem, ht, ok_bind, hs, ok_bind, hlabel]; rfl, checkSize_eq_ok hsize, ?_⟩
  refine itemEnds_nodeItem_iff h.1 hid htitle.not_endsScript hcolor ?_ ?_
  · show '<' ∉ (shapeOf c.kind).toList
    cases c.kind <;> decide
  · show '<' ∉ c.kind.code.toList
    cases c.kind <;> decide

theorem shows_artifactNode (c : Cell) (tag : Tag) (index : Nat) :
    Shows (BuildRules.artifactNode c tag index) False := by
  intro n h
  have hk : n.kind = .secondary := h.2.1
  have hd : n.data = (BuildRules.artifactNode c tag index).data := h.2.2
  have hcode : '<' ∉ tag.code.toList := by cases tag <;> decide
  have htitle : Harmless (artifactTooltip n.data).toList := by
    rw [artifactTooltip, String.toList_append, String.toList_append]
    exact ((Harmless.of_getLast? (by decide) (by decide)).append (harmless_markup _)).append
      (.of_getLast? (by decide) (by decide))
  obtain ⟨item, hitem, hcheck, hends⟩ := exists_nodeItem h (lt_not_mem_artifactId _ _)
    (by rw [tooltip, hk]) htitle (by rw [sizeOf, hk]) (by decide)
    (show n.caption = tag.code by rw [ChartNode.caption, hd]; rfl)
    (by rw [hd]; exact .inr ⟨tag.color, rfl, by cases tag <;> decide⟩)
  exact ⟨item, hitem, hcheck, hends.trans
    (iff_of_false (not_endsScript_of_not_mem (lt_not_mem_cut hcode)) id)⟩

/-- A text that a tooltip shows as markup, between fixed parts. -/
theorem harmless_enclosed {before after : String} (s : String)
    (hb : Harmless before.toList) (ha : Harmless after.toList) :
    Harmless (before ++ Text.markup s ++ after).toList := by
  rw [String.toList_append, String.toList_append]
  exact (hb.append (harmless_markup s)).append ha

theorem shows_cellNode {r : BuildRules} {colors : Colors} {c : Cell} {names : CellNames}
    (hcolor : ((colors.find? c.label).getD r.figure.defaultNodeColor).IsPlainColor) :
    Shows (r.cellNode colors c names) False := by
  intro n h
  have hk : n.kind = .primary := h.2.1
  have hd : n.data = (r.cellNode colors c names).data := h.2.2
  have hcaption : n.caption = toString c.position := by
    rw [ChartNode.caption, hd]
    rfl
  have hend : Harmless "<br>".toList := .of_getLast? (by decide) (by decide)
  obtain ⟨group, hgroup, hg⟩ : ∃ s, whenGiven n.data "group" (fun v => .ok (Text.markup v.shown ++ "<br>")) =
      .ok s ∧ Harmless s.toList :=
    exists_whenGiven ⟨_, rfl, by rw [String.toList_append]; exact (harmless_markup _).append hend⟩
  obtain ⟨assigned, hassigned, ha⟩ : ∃ s, whenGiven n.data "assigned" (fun v => do
      return "assigns: " ++ Text.markup (← v.join ", ") ++ "<br>") = .ok s ∧ Harmless s.toList := by
    have hv : Fields.getD n.data "assigned" .null = .list (names.assigned.toList.map .text) := by
      rw [hd]
      rfl
    refine exists_whenGiven ⟨_, by rw [hv, Value.join_texts]; rfl, harmless_enclosed _ ?_ hend⟩
    exact .of_getLast? (by decide) (by decide)
  obtain ⟨source, hsource, hs⟩ : ∃ s, whenGiven n.data "source" (fun v => do
      return "<br><code>" ++ Text.markup (← excerpt v) ++ "</code>") = .ok s ∧ Harmless s.toList := by
    have hv : Fields.getD n.data "source" .null = .text c.sourceText := by
      rw [hd]
      rfl
    refine exists_whenGiven ⟨_, by rw [hv]; rfl, harmless_enclosed _ ?_ ?_⟩ <;>
      exact .of_getLast? (by decide) (by decide)
  have htooltip : tooltip n =
      .ok ("<b>Cell " ++ Text.markup n.caption ++ "</b><br>" ++ group ++ assigned ++ source) := by
    rw [tooltip, hk]
    show cellTooltip n = _
    rw [cellTooltip, hgroup, ok_bind, hassigned, ok_bind, hsource, ok_bind]
    rfl
  have htitle : Harmless
      ("<b>Cell " ++ Text.markup n.caption ++ "</b><br>" ++ group ++ assigned ++ source).toList := by
    rw [String.toList_append, String.toList_append, String.toList_append]
    refine (((harmless_enclosed _ ?_ ?_).append hg).append ha).append hs <;>
      exact .of_getLast? (by decide) (by decide)
  obtain ⟨item, hitem, hcheck, hends⟩ := exists_nodeItem h (lt_not_mem_toString c.position)
    htooltip htitle (by rw [sizeOf, hk]) (by decide) hcaption (by rw [hd]; exact hcolor)
  exact ⟨item, hitem, hcheck, hends.trans
    (iff_of_false (not_endsScript_of_not_mem (lt_not_mem_cut (lt_not_mem_toString _))) id)⟩

theorem shows_groupNode {i : Nat} {g : Group} {cells : List String} {color : Value}
    (hcells : ∀ id ∈ cells, '<' ∉ id.toList) (hn : cells.length < 2 ^ 63) (hcolor : color.IsPlainColor) :
    Shows (Collapse.groupNode (Collapse.groupId i) g cells color)
      (EndsScript (cut labelLength g.label).toList) := by
  intro n h
  have hk : n.kind = .group := h.2.1
  have hd : n.data = (Collapse.groupNode (Collapse.groupId i) g cells color).data := h.2.2
  have hv : Fields.getD n.data "cells" (.list []) = .list (cells.map .text) := by
    rw [hd]
    rfl
  have htooltip : tooltip n =
      .ok ("<b>" ++ Text.markup g.label ++ "</b><br>cells: " ++ ", ".intercalate cells) := by
    rw [tooltip, hk]
    show groupTooltip n.data = _
    rw [groupTooltip, hv, Value.join_texts, hd]
    rfl
  have hjoined : Harmless (", ".intercalate cells).toList := .of_not_mem (lt_not_mem_join hcells)
  have htitle : Harmless
      ("<b>" ++ Text.markup g.label ++ "</b><br>cells: " ++ ", ".intercalate cells).toList := by
    rw [String.toList_append]
    refine (harmless_enclosed _ ?_ ?_).append hjoined <;> exact .of_getLast? (by decide) (by decide)
  have hsize : sizeOf n = .ok (cells.length * 5 + 20) := by
    rw [sizeOf, hk, hd]
    rfl
  exact exists_nodeItem h (lt_not_mem_groupId i) htooltip htitle hsize (by omega)
    (by rw [ChartNode.caption, hd]; rfl) (by rw [hd]; exact hcolor)

/-- The item of a link can be made, and does not end the script. -/
theorem exists_edgeItem {source target : String} {names : List String} (index : Int)
    (hs : '<' ∉ source.toList) (ht : '<' ∉ target.toList) (hn : ∀ name ∈ names, '<' ∉ name.toList) :
    ∃ item, edgeItem ⟨index, .text source, .text target, CellGraph.linkData names⟩ = .ok item ∧
      ¬ ItemEnds item.toFields := by
  have hv : Fields.getD (CellGraph.linkData names) "variables" .null = .list (names.map .text) := rfl
  obtain ⟨title, htitle, hplain⟩ : ∃ title, whenGiven (CellGraph.linkData names) "variables"
      (Value.join ", ") = .ok title ∧ Harmless title.toList :=
    exists_whenGiven ⟨_, by rw [hv, Value.join_texts], .of_not_mem (lt_not_mem_join hn)⟩
  refine ⟨⟨index, .text source, .text target, title⟩, by rw [edgeItem, htitle]; rfl, ?_⟩
  have hfixed : ∀ k ∈ ["id", "from", "to", "arrows", "color", "#666", "opacity", "title"],
      ¬ EndsScript k.toList := by decide
  simp only [List.forall_mem_cons] at hfixed
  simp only [ItemEnds, EdgeItem.toFields, Value.texts, Value.textsOfMembers, Key.texts,
    List.mem_append, or_and_right, exists_or]
  simp only [List.mem_singleton, exists_eq_left, List.not_mem_nil, false_and, exists_false, or_false,
    hfixed, hplain.not_endsScript, not_endsScript_of_not_mem hs, not_endsScript_of_not_mem ht]
  exact not_false

end Page

end CellFlow
