import CellFlow.Proofs.Graph.Downstream

/-!
Disjoint groups over cells in ascending order are blocks: the cells of a class stand side by side.
So links between classes lead forward as those between cells do, and a graph that is collapsed into
such groups has no cycle.
-/

set_option autoImplicit false

namespace CellFlow

/-- The element at the front of the rest comes behind all that stand before it, also when
repetitions are left out. -/
theorem exists_lt_getElem?_eraseDups {α : Type} [DecidableEq α] {before after : List α} {s t : α}
    (hs : s ∈ before) (ht : t ∉ before) : ∃ j i : ℕ, j < i ∧
      (before ++ t :: after).eraseDups[j]? = some s ∧ (before ++ t :: after).eraseDups[i]? = some t := by
  obtain ⟨rest, hrest⟩ : ∃ rest, (before ++ t :: after).eraseDups = before.eraseDups ++ rest := by
    refine ⟨((t :: after).filter fun a => a ∉ before.eraseDups).eraseDups, ?_⟩
    rw [← foldl_addNew_nil, List.foldl_append, foldl_addNew_nil, foldl_addNew]
  have hm : t ∈ (before ++ t :: after).eraseDups := by
    rw [List.mem_eraseDups]
    simp
  obtain ⟨j, hj⟩ := List.getElem?_of_mem (List.mem_eraseDups.2 hs)
  obtain ⟨i, hi⟩ := List.getElem?_of_mem hm
  have hlt : j < before.eraseDups.length := (List.getElem?_eq_some_iff.1 hj).1
  refine ⟨j, i, ?_, by rw [hrest, List.getElem?_append_left hlt, hj], hi⟩
  -- Were it among the first ones, it would have stood before itself.
  by_contra hle
  rw [hrest, List.getElem?_append_left (by omega)] at hi
  exact ht (List.mem_eraseDups.1 (List.mem_of_getElem? hi))

/-- No position belongs to both groups. -/
def Group.AreDisjoint (g other : Group) : Prop := ∀ p, ¬ (g.contains p ∧ other.contains p)

theorem Group.index_eq_of_contains {groups : List Group} (hd : groups.Pairwise Group.AreDisjoint)
    {i j : ℕ} {g other : Group} (hg : groups[i]? = some g) (ho : groups[j]? = some other) {p : Int}
    (hp : g.contains p) (hq : other.contains p) : i = j := by
  obtain ⟨hi, rfl⟩ := List.getElem?_eq_some_iff.1 hg
  obtain ⟨hj, rfl⟩ := List.getElem?_eq_some_iff.1 ho
  have hpair := List.pairwise_iff_getElem.1 hd
  rcases Nat.lt_trichotomy i j with h | h | h
  · exact absurd ⟨hp, hq⟩ (hpair i j hi hj h p)
  · exact h
  · exact absurd ⟨hq, hp⟩ (hpair j i hj hi h p)

theorem Group.contains_between {g : Group} {p q s : Int} (hp : g.contains p) (hs : g.contains s)
    (hpq : p ≤ q) (hqs : q ≤ s) : g.contains q := by
  simp only [contains, Bool.and_eq_true, decide_eq_true_eq] at hp hs ⊢
  omega

namespace Collapse

variable {r : BuildRules} {groups : List Group} {cells : List Cell} {g q : CellGraph}

/-- A cell between two cells of a class belongs to it. -/
theorem classOf_between (hd : groups.Pairwise Group.AreDisjoint) {a b c : Cell}
    (hab : a.position < b.position) (hbc : b.position < c.position)
    (h : classOf groups a = classOf groups c) : classOf groups b = classOf groups a := by
  have hf := find?_eq_of_classOf_eq h
  cases ha : Group.find? groups a.position with
  | none =>
    rw [classOf_single ha, classOf_single (hf.symm.trans ha)] at h
    have hac : a.position = c.position := toString_int_injective h
    omega
  | some p =>
    obtain ⟨grp, i⟩ := p
    obtain ⟨hi, hga, -⟩ := Group.find?_eq_some_iff.1 ha
    obtain ⟨-, hgc, -⟩ := Group.find?_eq_some_iff.1 (hf.symm.trans ha)
    have hgb : grp.contains b.position :=
      Group.contains_between hga hgc (Int.le_of_lt hab) (Int.le_of_lt hbc)
    rw [classOf_grouped ha]
    refine classOf_grouped (Group.find?_eq_some_iff.2 ⟨hi, hgb, fun k hk other ho hob => ?_⟩)
    have hik : i = k := Group.index_eq_of_contains hd hi ho hgb hob
    omega

/-- Of two classes, the one that a link between them leaves is met first. -/
theorem exists_lt_classes (hp : cells.Pairwise fun a b => a.position < b.position)
    (hd : groups.Pairwise Group.AreDisjoint) {j i : ℕ} {a b : Cell} (hji : j < i)
    (ha : cells[j]? = some a) (hb : cells[i]? = some b) (hne : classOf groups a ≠ classOf groups b) :
    ∃ m n : ℕ, m < n ∧ (cells.map (classOf groups)).eraseDups[m]? = some (classOf groups a) ∧
      (cells.map (classOf groups)).eraseDups[n]? = some (classOf groups b) := by
  have hm : classOf groups b ∈ cells.map (classOf groups) :=
    List.mem_map_of_mem (List.mem_of_getElem? hb)
  obtain ⟨before, after, hsplit, hn⟩ := List.eq_append_cons_of_mem hm
  have hj : (cells.map (classOf groups))[j]? = some (classOf groups a) := by rw [List.getElem?_map, ha]; rfl
  rw [hsplit] at hj ⊢
  rcases Nat.lt_trichotomy j before.length with hlt | heq | hgt
  · rw [List.getElem?_append_left hlt] at hj
    exact exists_lt_getElem?_eraseDups (List.mem_of_getElem? hj) hn
  · rw [heq] at hj
    simp at hj
    exact absurd hj.symm hne
  · -- The class of `b` is met first at a cell before `a`, and again at `b`: so it is that of `a`.
    have hk : (cells.map (classOf groups))[before.length]? = some (classOf groups b) := by
      rw [hsplit]
      simp
    rw [List.getElem?_map, Option.map_eq_some_iff] at hk
    obtain ⟨c, hc, hcb⟩ := hk
    have hpos := List.pairwise_iff_getElem.1 hp
    obtain ⟨hlc, rfl⟩ := List.getElem?_eq_some_iff.1 hc
    obtain ⟨hla, rfl⟩ := List.getElem?_eq_some_iff.1 ha
    obtain ⟨hlb, rfl⟩ := List.getElem?_eq_some_iff.1 hb
    have hbetween := classOf_between hd (hpos _ _ hlc hla hgt) (hpos _ _ hla hlb hji) hcb
    exact absurd (hbetween.trans hcb) hne

theorem leadForward_collapse (h : BuiltFrom r cells g)
    (hp : cells.Pairwise fun a b => a.position < b.position) (hd : groups.Pairwise Group.AreDisjoint)
    (hids : q.nodes.map (·.id) = (cells.map (classOf groups)).eraseDups)
    (hlinks : q.links = (projected groups cells g).keys) :
    RankLayout.LeadForward (q.nodes.map (·.id)) (q.links.map fun l => (l.source, l.target)) := by
  intro arc ha
  obtain ⟨⟨s, t⟩, hl, rfl⟩ := List.mem_map.1 ha
  rw [hlinks] at hl
  obtain ⟨hst, a, hma, b, hmb, hab, rfl, rfl⟩ := (mem_keys_projected h).1 hl
  obtain ⟨j, i, a', b', hji, hj, hi, he⟩ := h.links_forward hab
  obtain ⟨haa, hbb⟩ := Link.mk.inj he
  obtain rfl := List.inj_on_of_nodup_map h.nodup_ids hma (List.mem_of_getElem? hj) haa
  obtain rfl := List.inj_on_of_nodup_map h.nodup_ids hmb (List.mem_of_getElem? hi) hbb
  rw [hids]
  exact exists_lt_classes hp hd hji hj hi hst

end Collapse

theorem CellGraph.isAcyclic_of_leadForward {g : CellGraph} (hn : (g.nodes.map (·.id)).Nodup)
    (h : RankLayout.LeadForward (g.nodes.map (·.id)) (g.links.map fun l => (l.source, l.target))) :
    g.digraph.IsAcyclic :=
  Digraph.isAcyclic_of_lt (RankLayout.numberOf (g.nodes.map (·.id))) fun _ ha => h.numberOf_lt hn ha

namespace Collapse

variable {r : BuildRules} {groups : List Group} {cells : List Cell} {g q : CellGraph}

/-- Cells in ascending order that are collapsed into disjoint groups: all links lead from earlier to
later nodes; so there is no cycle, and none of them is turned round when the nodes are ranked. -/
theorem collapse_flowsDownstream (h : r.build cells = .ok g)
    (hp : cells.Pairwise fun a b => a.position < b.position) (hd : groups.Pairwise Group.AreDisjoint)
    (color : Value) :
    ∃ q, g.collapse cells groups color = .ok q ∧
      (∀ l ∈ q.links, ∃ (j i : ℕ) (n m : CellNode),
        j < i ∧ q.nodes[j]? = some n ∧ q.nodes[i]? = some m ∧ l = ⟨n.id, m.id⟩) ∧
      q.digraph.IsAcyclic ∧
      (RankLayout.numbered ((q.nodes.filter fun n => n.kind.isRanked).map (·.id))
        (q.edges.map fun e => (e.source, e.target))).backArcs = [] := by
  have hb := BuildRules.builtFrom h
  obtain ⟨q, hq, hids, hof, hcarried⟩ := collapse_eq_ok hb groups color
  have hlinks : q.links = (projected groups cells g).keys := by
    rw [CellGraph.links, hcarried, Table.keys_mapValues]
  have hn : (q.nodes.map (·.id)).Nodup := by
    rw [hids]
    exact nodup_eraseDups _
  have hf := leadForward_collapse hb hp hd hids hlinks
  refine ⟨q, hq, fun l hl => ?_, CellGraph.isAcyclic_of_leadForward hn hf, ?_⟩
  · obtain ⟨j, i, hji, hj, hi⟩ := hf _ (List.mem_map_of_mem hl)
    rw [List.getElem?_map, Option.map_eq_some_iff] at hj hi
    obtain ⟨n, hj, hnl⟩ := hj
    obtain ⟨m, hi, hml⟩ := hi
    exact ⟨j, i, n, m, hji, hj, hi, by rw [hnl, hml]⟩
  · have hranked : (q.nodes.filter fun n => n.kind.isRanked) = q.nodes := by
      refine List.filter_eq_self.2 fun n hm => ?_
      obtain ⟨c, -, rfl⟩ := hof n hm
      exact isRanked_nodeOf r g groups cells color c
    have hedges : (q.edges.map fun e => (e.source, e.target)) = q.links.map fun l => (l.source, l.target) := by
      rw [CellGraph.edges, CellGraph.links, Table.keys, List.map_map, List.map_map]
      rfl
    rw [hranked, hedges]
    exact (hf.isAcyclic_numbered hn).backArcs_eq_nil

/-- Five cells under three groups that are listed out of order: one holds no cell, another reaches
over positions without cells, and a cell between groups stands alone. -/
theorem collapse_flowsDownstream_ranges :
    let rules : BuildRules := { names := ⟨true, Names.reserved⟩ }
    let cells : List Cell := [{ position := -2, source := .text "x = 1" },
      { position := 1, source := .text "y = x" }, { position := 3, source := .text "z = x + y" },
      { position := 4, source := .text "u = z + y" }, { position := 8, source := .text "v = u + z + x" }]
    let groups : List Group := [⟨"late", 4, 9, by decide⟩, ⟨"none", 20, 30, by decide⟩,
      ⟨"early", -5, 2, by decide⟩]
    ∃ g, rules.build cells = .ok g ∧ ∃ q, g.collapse cells groups .null = .ok q ∧
      q.links = [⟨"group-3", "3"⟩, ⟨"group-3", "group-1"⟩, ⟨"3", "group-1"⟩] ∧ q.digraph.IsAcyclic := by
  intro rules cells groups
  have hp : cells.Pairwise fun a b => a.position < b.position := by decide
  have hd : groups.Pairwise Group.AreDisjoint := by
    simp [groups, Group.AreDisjoint, Group.contains]
    refine ⟨⟨?_, ?_⟩, ?_⟩ <;> intro p <;> omega
  have hl : (rules.build cells >>= fun g => g.collapse cells groups .null).toOption.map (·.links) =
      some [⟨"group-3", "3"⟩, ⟨"group-3", "group-1"⟩, ⟨"3", "group-1"⟩] := by decide +kernel
  cases h : rules.build cells with
  | error e =>
    rw [h] at hl
    cases hl
  | ok g =>
    obtain ⟨q, hq, -, hacyclic, -⟩ := collapse_flowsDownstream h hp hd .null
    rw [h, ok_bind, hq] at hl
    exact ⟨g, rfl, q, hq, Option.some.inj hl, hacyclic⟩

end Collapse

end CellFlow
