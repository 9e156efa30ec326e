import CellFlow.Proofs.Graph.Soundness

/-!
The network of a chart with different texts as ids and without doubled edges: adding a node or
an edge never merges it into an earlier one.
-/

set_option autoImplicit false

namespace CellFlow

theorem Key.beq_text_of_ne {k : Key} {s : String} (h : k.toValue ≠ .text s) : (k == .text s) = false := by
  cases k with
  | text t =>
    have hne : t ≠ s := fun he => h (by rw [he]; rfl)
    simpa using hne
  | null => rfl
  | bool b => rfl
  | int n => rfl
  | float x => simp [BEq.beq, Key.alike, Key.isNaN]

namespace Network

theorem checkClash_eq_ok {taken : List String} {data : Fields} (callee : String)
    (h : Fields.AreNamed taken data) : checkClash callee taken data = .ok () := by
  have hn : data.mapM (fun f => f.1.toArgumentName) = .ok (data.map fun f => f.1.shown) := by
    refine mapM_eq_ok_map fun f hf => ?_
    obtain ⟨name, hk, -⟩ := h f hf
    rw [hk]
    rfl
  have hf : (data.map fun f => f.1.shown).find? (fun name => name ∈ taken) = none := by
    rw [List.find?_eq_none]
    intro name hm
    obtain ⟨f, hf, rfl⟩ := List.mem_map.1 hm
    obtain ⟨name, hk, ht⟩ := h f hf
    simpa [hk, Key.shown] using ht
  rw [checkClash, hn, ok_bind, hf]
  rfl

def ids (n : Network) : List Value := n.nodes.map fun e => e.1.toValue

def ends (n : Network) : List (Value × Value) := n.edges.map fun e => (e.1.1.toValue, e.1.2.toValue)

theorem putNode_of_not_mem {id : String} {attributes : Fields} {l : List (Key × Fields)}
    (h : .text id ∉ l.map fun e => e.1.toValue) :
    putNode (.text id) attributes l = l ++ [(.text id, attributes)] := by
  induction l with
  | nil => rfl
  | cons e l ih =>
    rw [List.map_cons, List.mem_cons, not_or] at h
    rw [putNode, Key.beq_text_of_ne (Ne.symm h.1), if_neg Bool.false_ne_true, ih h.2]
    rfl

theorem putEdge_of_not_mem {source target : String} {attributes : Fields}
    {l : List ((Key × Key) × Fields)}
    (h : (.text source, .text target) ∉ l.map fun e => (e.1.1.toValue, e.1.2.toValue)) :
    putEdge (.text source) (.text target) attributes l =
      l ++ [((.text source, .text target), attributes)] := by
  induction l with
  | nil => rfl
  | cons e l ih =>
    rw [List.map_cons, List.mem_cons, not_or] at h
    have hb : (e.1.1 == .text source && e.1.2 == .text target) = false := by
      by_cases hs : e.1.1.toValue = .text source
      · have ht : e.1.2.toValue ≠ .text target := by
          intro ht
          exact h.1 (by rw [hs, ht])
        rw [Key.beq_text_of_ne ht, Bool.and_false]
      · rw [Key.beq_text_of_ne hs, Bool.false_and]
    rw [putEdge, hb, if_neg Bool.false_ne_true, ih h.2]
    rfl

theorem addNode_eq_ok {n : Network} {c : ChartNode Float} {id : String} (hi : c.id = .text id)
    (hd : Fields.AreNamed takenByNodes c.data) (hf : c.id ∉ n.ids) :
    ∃ m, n.addNode c = .ok m ∧ m.ids = n.ids ++ [c.id] ∧ m.edges = n.edges := by
  rw [hi] at hf ⊢
  have h : n.addNode c = .ok { n with
      nodes := n.nodes ++ [(.text id, merge (("kind", .text c.kind.code) :: c.position) c.data)] } := by
    rw [addNode, checkClash_eq_ok _ hd, hi,
      ← putNode_of_not_mem hf]
    rfl
  exact ⟨_, h, by simp [ids, Key.toValue], rfl⟩

theorem foldlM_addNode_eq_ok {nodes : List (ChartNode Float)} (n : Network)
    (hn : ∀ c ∈ nodes, (∃ id, c.id = .text id) ∧ Fields.AreNamed takenByNodes c.data)
    (hf : (n.ids ++ nodes.map (·.id)).Nodup) :
    ∃ m, nodes.foldlM addNode n = .ok m ∧ m.ids = n.ids ++ nodes.map (·.id) ∧ m.edges = n.edges := by
  induction nodes generalizing n with
  | nil => exact ⟨n, rfl, by simp, rfl⟩
  | cons c nodes ih =>
    obtain ⟨⟨id, hi⟩, hd⟩ := hn c List.mem_cons_self
    rw [List.map_cons] at hf
    have hc : c.id ∉ n.ids := fun hm => (List.nodup_append.1 hf).2.2 _ hm _ List.mem_cons_self rfl
    obtain ⟨m, hm, hids, hedges⟩ := addNode_eq_ok hi hd hc
    rw [List.append_cons, ← hids] at hf
    obtain ⟨k, hk, hids', hedges'⟩ := ih m (fun d hd => hn d (List.mem_cons_of_mem c hd)) hf
    refine ⟨k, by rw [List.foldlM_cons, hm, ok_bind, hk], ?_, hedges'.trans hedges⟩
    rw [hids', hids, List.map_cons, List.append_assoc, List.singleton_append]

theorem readEnd_eq_ok {n : Network} {id : String} (e : ChartEdge) (h : .text id ∈ n.ids) :
    n.readEnd e (.text id) = .ok (.text id) := by
  have hh : n.has (.text id) = true := by
    obtain ⟨p, hp, hi⟩ := List.mem_map.1 h
    rw [has, List.any_eq_true]
    refine ⟨p, hp, ?_⟩
    cases hk : p.1 with
    | text s =>
      rw [hk] at hi
      obtain rfl := Value.text.inj hi
      simp
    | _ =>
      rw [hk] at hi
      cases hi
  simp [readEnd, Value.key?, Option.filter, hh]

/-- An edge between nodes that are there, and that no earlier one joins, goes to the end. -/
theorem addEdge_eq_ok {n : Network} {e : ChartEdge} {source target : String}
    (hs : e.source = .text source) (ht : e.target = .text target) (hs' : e.source ∈ n.ids)
    (ht' : e.target ∈ n.ids) (hd : Fields.AreNamed takenByEdges e.data)
    (hf : (e.source, e.target) ∉ n.ends) :
    ∃ m, n.addEdge e = .ok m ∧ m.ends = n.ends ++ [(e.source, e.target)] ∧ m.nodes = n.nodes := by
  rw [hs] at hs' hf ⊢
  rw [ht] at ht' hf ⊢
  have h : n.addEdge e = .ok { n with
      edges := n.edges ++ [((.text source, .text target), merge [("id", .int e.id)] e.data)] } := by
    rw [addEdge, hs, ht, readEnd_eq_ok e hs', readEnd_eq_ok e ht', ok_bind, ok_bind,
      checkClash_eq_ok _ hd, ← putEdge_of_not_mem hf]
    rfl
  exact ⟨_, h, by simp [ends, Key.toValue], rfl⟩

theorem foldlM_addEdge_eq_ok {edges : List ChartEdge} (n : Network)
    (he : ∀ e ∈ edges, (∃ source target, e.source = .text source ∧ e.target = .text target) ∧
      e.source ∈ n.ids ∧ e.target ∈ n.ids ∧ Fields.AreNamed takenByEdges e.data)
    (hf : (n.ends ++ edges.map fun e => (e.source, e.target)).Nodup) :
    ∃ m, edges.foldlM addEdge n = .ok m ∧ m.ids = n.ids ∧
      m.ends = n.ends ++ edges.map fun e => (e.source, e.target) := by
  induction edges generalizing n with
  | nil => exact ⟨n, rfl, rfl, by simp⟩
  | cons e edges ih =>
    obtain ⟨⟨source, target, hs, ht⟩, hs', ht', hd⟩ := he e List.mem_cons_self
    rw [List.map_cons] at hf
    have hc : (e.source, e.target) ∉ n.ends :=
      fun hm => (List.nodup_append.1 hf).2.2 _ hm _ List.mem_cons_self rfl
    obtain ⟨m, hm, hends, hnodes⟩ := addEdge_eq_ok hs ht hs' ht' hd hc
    have hids : m.ids = n.ids := by rw [ids, hnodes, ids]
    rw [List.append_cons, ← hends] at hf
    obtain ⟨k, hk, hids', hends'⟩ :=
      ih m (fun f hf => by rw [hids]; exact he f (List.mem_cons_of_mem e hf)) hf
    refine ⟨k, by rw [List.foldlM_cons, hm, ok_bind, hk], hids'.trans hids, ?_⟩
    rw [hends', hends, List.map_cons, List.append_assoc, List.singleton_append]

/-- The network has the nodes and the edges of the chart and no others. -/
theorem ofChart_eq_ok {c : Chart Float} (hd : (c.nodes.map (·.id)).Nodup)
    (hn : ∀ n ∈ c.nodes, (∃ id, n.id = .text id) ∧ Fields.AreNamed takenByNodes n.data)
    (he : ∀ e ∈ c.edges, e.source ∈ c.nodes.map (·.id) ∧ e.target ∈ c.nodes.map (·.id) ∧
      Fields.AreNamed takenByEdges e.data)
    (hp : (c.edges.map fun e => (e.source, e.target)).Nodup) :
    ∃ n, ofChart c = .ok n ∧ n.ids = c.nodes.map (·.id) ∧
      n.ends = c.edges.map fun e => (e.source, e.target) := by
  have ht : ∀ id ∈ c.nodes.map (·.id), ∃ s, id = Value.text s := by
    intro id hm
    obtain ⟨n, hnode, rfl⟩ := List.mem_map.1 hm
    exact (hn n hnode).1
  obtain ⟨m, hm, hids, hedges⟩ := foldlM_addNode_eq_ok empty hn hd
  have hends : m.ends = [] := by
    rw [ends, hedges]
    rfl
  have hids' : m.ids = c.nodes.map (·.id) := hids
  have hread : ∀ e ∈ c.edges, (∃ source target, e.source = .text source ∧ e.target = .text target) ∧
      e.source ∈ m.ids ∧ e.target ∈ m.ids ∧ Fields.AreNamed takenByEdges e.data := by
    intro e hm
    obtain ⟨hs, ht', hd⟩ := he e hm
    obtain ⟨source, hs'⟩ := ht _ hs
    obtain ⟨target, ht''⟩ := ht _ ht'
    rw [hids']
    exact ⟨⟨source, target, hs', ht''⟩, hs, ht', hd⟩
  obtain ⟨n, hn, hni, hne⟩ := foldlM_addEdge_eq_ok m hread (by rw [hends]; exact hp)
  refine ⟨n, by rw [ofChart, hm, ok_bind, hn], hni.trans hids', ?_⟩
  rw [hne, hends, List.nil_append]

end Network

end CellFlow
