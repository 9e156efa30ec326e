import CellFlow.Export
import CellFlow.Proofs.Json.Sorting

/-!
Charts as documents: what was written reads as the same chart, whose notes say how it was
exported, and to export that chart again gives the same text.
-/

set_option autoImplicit false

namespace CellFlow

namespace Value.Same

variable {fs : Fields} {v w : Value}

theorem field (name : String) (h : (Value.object fs).Same w) (hf : fs.AreKeyed) (hv : (.text name, v) ∈ fs) :
    ∃ u, w.field name = .ok u ∧ v.Same u := by
  obtain ⟨gs, rfl, -⟩ := h.exists_object
  obtain ⟨u, hu, hs⟩ := h.get? hf (hf.get?_eq_some_iff.2 hv)
  exact ⟨u, by rw [Value.field, hu], hs⟩

theorem fields (h : (Value.object fs).Same w) : ∃ gs, w.fields = .ok gs ∧ (Value.object fs).Same (.object gs) := by
  obtain ⟨gs, rfl, -⟩ := h.exists_object
  exact ⟨gs, rfl, h⟩

theorem toFields (h : (Value.object fs).Same w) :
    ∃ gs, w.toFields = .ok gs ∧ (Value.object fs).Same (.object gs) := by
  obtain ⟨gs, rfl, -⟩ := h.exists_object
  exact ⟨gs, rfl, h⟩

theorem elements {xs : List Value} (h : (Value.list xs).Same w) :
    ∃ ys, w.elements = .ok ys ∧ List.Forall₂ Value.Same xs ys := by
  obtain ⟨ys, rfl, hs⟩ := h.exists_list
  exact ⟨ys, rfl, hs⟩

theorem getD {gs : Fields} (name : String) (default : Value) (h : (Value.object fs).Same (.object gs))
    (hf : fs.AreKeyed) (hv : (.text name, v) ∈ fs) : v.Same (Fields.getD gs name default) := by
  obtain ⟨u, hu, hs⟩ := h.get? hf (hf.get?_eq_some_iff.2 hv)
  have hu : gs.lookup (Key.text name) = some u := hu
  rw [Fields.getD, hu]
  exact hs

end Value.Same

/-- A walk over values that are the same as the written ones reads what was written. -/
theorem exists_mapM_of_same {α : Type} {write : α → Value} {read : Value → Outcome α} {r : α → α → Prop}
    (h : ∀ a w, (write a).Same w → ∃ b, read w = .ok b ∧ r a b) {l : List α} {ws : List Value}
    (hs : List.Forall₂ Value.Same (l.map write) ws) : ∃ m, ws.mapM read = .ok m ∧ List.Forall₂ r l m := by
  induction l generalizing ws with
  | nil =>
    cases hs
    exact ⟨[], rfl, .nil⟩
  | cons a l ih =>
    cases hs with
    | cons ha hs =>
      obtain ⟨b, hb, hr⟩ := h a _ ha
      obtain ⟨m, hm, hrs⟩ := ih hs
      exact ⟨b :: m, by rw [List.mapM_cons, hb, ok_bind, hm]; rfl, .cons hr hrs⟩

theorem mapM_map_eq_ok {α : Type} {write : α → Value} {read : Value → Outcome α}
    (h : ∀ a, read (write a) = .ok a) (l : List α) : (l.map write).mapM read = .ok l := by
  induction l with
  | nil => rfl
  | cons a l ih =>
    rw [List.map_cons, List.mapM_cons, h a, ok_bind, ih]
    rfl

theorem list_same_of_forall₂ {α : Type} {write : α → Value} {r : α → α → Prop}
    (h : ∀ a b, r a b → (write a).Same (write b)) {l m : List α} (hr : List.Forall₂ r l m) :
    (Value.list (l.map write)).Same (.list (m.map write)) := by
  refine .list ?_
  rw [List.forall₂_map_left_iff, List.forall₂_map_right_iff]
  exact hr.imp h

namespace ChartNode

variable {n m : ChartNode Float}

structure IsKeyed (n : ChartNode Float) : Prop where
  id : n.id.IsKeyed
  data : (Value.object n.data).IsKeyed

/-- The same node, but for the order of members in its data. -/
structure Same (n m : ChartNode Float) : Prop where
  id : n.id.Same m.id
  kind : m.kind = n.kind
  centre : m.centre = n.centre
  data : (Value.object n.data).Same (.object m.data)

theorem areKeyed_position (n : ChartNode Float) : n.position.AreKeyed :=
  ⟨by simp [position, Key.kind], by simp [position]⟩

theorem areKeyed_parts (n : ChartNode Float) :
    Fields.AreKeyed [("id", n.id), ("type", .text n.kind.code), ("position", .object n.position),
      ("data", .object n.data)] :=
  ⟨by simp [Key.kind], by simp⟩

theorem IsKeyed.toValue (h : n.IsKeyed) : n.toValue.IsKeyed := by
  have hp : (Value.object n.position).IsKeyed := .of_atoms n.areKeyed_position (by simp [position, Value.key?])
  refine .object n.areKeyed_parts fun f hf => ?_
  simp only [List.mem_cons, List.not_mem_nil, or_false] at hf
  rcases hf with rfl | rfl | rfl | rfl
  · exact h.id
  · exact .atom rfl
  · exact hp
  · exact h.data

theorem Same.toValue (h : n.Same m) : n.toValue.Same m.toValue := by
  have hid : n.id.sorted = m.id.sorted := h.id
  have hp : m.position = n.position := by rw [position, position, h.centre]
  have hd : (Value.object n.data).sorted = (Value.object m.data).sorted := h.data
  refine .object ?_
  simp only [Value.sortedMembers]
  rw [hid, h.kind, hp, hd]

theorem exists_ofValue {w : Value} (h : n.toValue.Same w) : ∃ m, ofValue w = .ok m ∧ n.Same m := by
  have hk := n.areKeyed_parts
  have hpk := n.areKeyed_position
  obtain ⟨id, hid, hids⟩ := Value.Same.field (v := n.id) "id" h hk (by simp)
  obtain ⟨kind, hkind, hkinds⟩ := Value.Same.field (v := .text n.kind.code) "type" h hk (by simp)
  obtain ⟨p, hp, hps⟩ := Value.Same.field (v := .object n.position) "position" h hk (by simp)
  obtain ⟨x, hx, hxs⟩ := hps.field (v := .float n.centre.x) "x" hpk (by simp [position])
  obtain ⟨y, hy, hys⟩ := hps.field (v := .float n.centre.y) "y" hpk (by simp [position])
  obtain ⟨gs, hgs, hs⟩ := Value.Same.fields h
  obtain ⟨data, hdata, hdatas⟩ := (hs.getD (v := .object n.data) "data" (.object []) hk (by simp)).toFields
  obtain rfl : kind = .text n.kind.code := hkinds.eq_of_key? rfl
  obtain rfl : x = .float n.centre.x := hxs.eq_of_key? rfl
  obtain rfl : y = .float n.centre.y := hys.eq_of_key? rfl
  refine ⟨⟨id, n.kind, n.centre, data⟩, ?_, ⟨hids, rfl, rfl, hdatas⟩⟩
  simp only [ofValue, hid, hkind, hp, hx, hy, hgs, hdata, NodeKind.ofValue, NodeKind.ofCode?_code,
    Value.toReal, liftM_ok, ok_bind, pure_eq_ok]

theorem ofValue_toValue (n : ChartNode Float) : ofValue n.toValue = .ok n := by
  simp [ofValue, toValue, position, Value.field, Value.fields, Fields.get?, Fields.getD, Value.toFields,
    Value.toReal, NodeKind.ofValue, NodeKind.ofCode?_code, List.lookup_cons]

end ChartNode

namespace ChartEdge

variable {e f : ChartEdge}

structure IsKeyed (e : ChartEdge) : Prop where
  source : e.source.IsKeyed
  target : e.target.IsKeyed
  data : (Value.object e.data).IsKeyed

/-- The same edge, but for the order of members in its data. -/
structure Same (e f : ChartEdge) : Prop where
  id : f.id = e.id
  source : e.source.Same f.source
  target : e.target.Same f.target
  data : (Value.object e.data).Same (.object f.data)

theorem areKeyed_parts (e : ChartEdge) :
    Fields.AreKeyed [("id", .int e.id), ("source", e.source), ("target", e.target), ("data", .object e.data)] :=
  ⟨by simp [Key.kind], by simp⟩

theorem IsKeyed.toValue (h : e.IsKeyed) : e.toValue.IsKeyed := by
  refine .object e.areKeyed_parts fun f hf => ?_
  simp only [List.mem_cons, List.not_mem_nil, or_false] at hf
  rcases hf with rfl | rfl | rfl | rfl
  · exact .atom rfl
  · exact h.source
  · exact h.target
  · exact h.data

theorem Same.toValue (h : e.Same f) : e.toValue.Same f.toValue := by
  have hs : e.source.sorted = f.source.sorted := h.source
  have ht : e.target.sorted = f.target.sorted := h.target
  have hd : (Value.object e.data).sorted = (Value.object f.data).sorted := h.data
  refine .object ?_
  simp only [Value.sortedMembers]
  rw [h.id, hs, ht, hd]

theorem exists_ofValue {w : Value} (h : e.toValue.Same w) : ∃ f, ofValue w = .ok f ∧ e.Same f := by
  have hk := e.areKeyed_parts
  obtain ⟨id, hid, hids⟩ := Value.Same.field (v := .int e.id) "id" h hk (by simp)
  obtain ⟨source, hsource, hsources⟩ := Value.Same.field (v := e.source) "source" h hk (by simp)
  obtain ⟨target, htarget, htargets⟩ := Value.Same.field (v := e.target) "target" h hk (by simp)
  obtain ⟨gs, hgs, hs⟩ := Value.Same.fields h
  obtain ⟨data, hdata, hdatas⟩ := (hs.getD (v := .object e.data) "data" (.object []) hk (by simp)).toFields
  obtain rfl : id = .int e.id := hids.eq_of_key? rfl
  refine ⟨⟨e.id, source, target, data⟩, ?_, ⟨rfl, hsources, htargets, hdatas⟩⟩
  simp only [ofValue, hid, hsource, htarget, hgs, hdata, Value.toInteger, liftM_ok, ok_bind, pure_eq_ok]

theorem ofValue_toValue (e : ChartEdge) : ofValue e.toValue = .ok e := by
  simp [ofValue, toValue, Value.field, Value.fields, Fields.get?, Fields.getD, Value.toFields,
    Value.toInteger, List.lookup_cons]

end ChartEdge

namespace Chart

variable {c d : Chart Float}

structure IsKeyed (c : Chart Float) : Prop where
  nodes : ∀ n ∈ c.nodes, n.IsKeyed
  edges : ∀ e ∈ c.edges, e.IsKeyed
  colors : (Value.object c.colors).IsKeyed
  notes : (Value.object c.notes).IsKeyed

/-- The same chart, node by node and edge by edge, but for the order of members in its data. -/
structure Same (c d : Chart Float) : Prop where
  nodes : List.Forall₂ ChartNode.Same c.nodes d.nodes
  edges : List.Forall₂ ChartEdge.Same c.edges d.edges
  colors : (Value.object c.colors).Same (.object d.colors)
  notes : (Value.object c.notes).Same (.object d.notes)

theorem areKeyed_toFields (c : Chart Float) : c.toFields.AreKeyed :=
  ⟨by simp [toFields, Key.kind], by simp [toFields]⟩

theorem IsKeyed.toValue (h : c.IsKeyed) : c.toValue.IsKeyed := by
  refine .object c.areKeyed_toFields fun f hf => ?_
  simp only [toFields, List.mem_cons, List.not_mem_nil, or_false] at hf
  rcases hf with rfl | rfl | rfl | rfl
  · refine .list fun v hv => ?_
    obtain ⟨n, hn, rfl⟩ := List.mem_map.1 hv
    exact (h.nodes n hn).toValue
  · refine .list fun v hv => ?_
    obtain ⟨e, he, rfl⟩ := List.mem_map.1 hv
    exact (h.edges e he).toValue
  · exact h.colors
  · exact h.notes

theorem Same.toValue (h : c.Same d) : c.toValue.Same d.toValue := by
  have hn : (Value.list (c.nodes.map ChartNode.toValue)).sorted = (Value.list (d.nodes.map ChartNode.toValue)).sorted :=
    list_same_of_forall₂ (fun _ _ hs => ChartNode.Same.toValue hs) h.nodes
  have he : (Value.list (c.edges.map ChartEdge.toValue)).sorted = (Value.list (d.edges.map ChartEdge.toValue)).sorted :=
    list_same_of_forall₂ (fun _ _ hs => ChartEdge.Same.toValue hs) h.edges
  have hc : (Value.object c.colors).sorted = (Value.object d.colors).sorted := h.colors
  have hm : (Value.object c.notes).sorted = (Value.object d.notes).sorted := h.notes
  refine .object ?_
  simp only [toFields, Value.sortedMembers]
  rw [hn, he, hc, hm]

theorem exists_ofValue {w : Value} (h : c.toValue.Same w) : ∃ d, ofValue w = .ok d ∧ c.Same d := by
  have hk := c.areKeyed_toFields
  obtain ⟨gs, hgs, hs⟩ := Value.Same.fields h
  obtain ⟨nodes, hnodes, hns⟩ := (hs.getD (v := .list (c.nodes.map ChartNode.toValue)) "nodes" (.list []) hk
    (by simp [toFields])).elements
  obtain ⟨edges, hedges, hes⟩ := (hs.getD (v := .list (c.edges.map ChartEdge.toValue)) "edges" (.list []) hk
    (by simp [toFields])).elements
  obtain ⟨colors, hcolors, hcs⟩ := (hs.getD (v := .object c.colors) "color_map" (.object []) hk
    (by simp [toFields])).toFields
  obtain ⟨notes, hnotes, hms⟩ := (hs.getD (v := .object c.notes) "metadata" (.object []) hk
    (by simp [toFields])).toFields
  obtain ⟨ns, hnm, hnr⟩ := exists_mapM_of_same (fun _ _ => ChartNode.exists_ofValue) hns
  obtain ⟨es, hem, her⟩ := exists_mapM_of_same (fun _ _ => ChartEdge.exists_ofValue) hes
  refine ⟨⟨ns, es, colors, notes⟩, ?_, ⟨hnr, her, hcs, hms⟩⟩
  simp only [ofValue, hgs, hnodes, hedges, hcolors, hnotes, hnm, hem, liftM_ok, ok_bind, pure_eq_ok]

theorem ofValue_toValue (c : Chart Float) : ofValue c.toValue = .ok c := by
  have hn := mapM_map_eq_ok ChartNode.ofValue_toValue c.nodes
  have he := mapM_map_eq_ok ChartEdge.ofValue_toValue c.edges
  simp [ofValue, toValue, toFields, Value.fields, Fields.getD, Value.toFields, Value.elements, List.lookup_cons,
    hn, he]

end Chart

end CellFlow
