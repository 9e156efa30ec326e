import CellFlow.Proofs.Data.First
import CellFlow.Proofs.Layout.Placing

/-!
The verdict on a graph that is to be placed: either it is complete and every node gets a centre, or
the first thing that is wrong with it is named. Ids are looked at before edges, and edges before
the owners of artifacts.
-/

set_option autoImplicit false

namespace CellFlow

/-- The owner in the data of a node is a text, or there is none. -/
def Node.NamesOwner (n : CellNode) : Prop :=
  Fields.getD n.data "owner" .null = .null ∨ ∃ o, Fields.getD n.data "owner" .null = .text o

theorem Node.NamesOwner.owner_eq {n : CellNode} (h : n.NamesOwner) :
    n.owner = .ok ((n.ownerName?.map Value.text).getD .null) := by
  cases ho : n.ownerName? with
  | some o => exact owner_of_ownerName? ho
  | none =>
    rw [Node.owner_eq]
    rw [ownerName?] at ho
    rcases h with h | ⟨o, h⟩
    · simp_all [Value.truthy]
    · by_cases he : o.isEmpty <;> simp_all [Value.truthy]

namespace Ring

variable {α : Type} [Coordinate α] {r : Ring α} {centres : Table String (Point α)} {n : CellNode}

/-- The first artifact without a centre to be placed around is named, with its owner. -/
theorem placeFrom_eq_error (counts : Table String ℕ) {before after : List CellNode}
    (hb : ∀ m ∈ before, HasCentre centres m) (hn : n.NamesOwner) (hc : ¬ HasCentre centres n) :
    placeFrom (.ok r) centres counts (before ++ n :: after) =
      .error (.unknownNode (.text (n.ownerName?.getD "None")) [("artifact", .text n.id)]) := by
  induction before generalizing counts with
  | nil =>
    rw [List.nil_append, placeFrom, hn.owner_eq]
    cases ho : n.ownerName? with
    | none => rfl
    | some o =>
      have hnone : centres.get? o = none := by
        cases hco : centres.get? o with
        | none => rfl
        | some c => exact absurd ⟨o, ho, by rw [hco]; rfl⟩ hc
      simp only [Option.map_some, Option.getD_some, liftM_ok, ok_bind, Value.toKey, Value.key?,
        NodeId.ofKey?, Option.bind_some, hnone, Option.map_none]
      rfl
  | cons m before ih =>
    obtain ⟨o, ho, hco⟩ := hb m List.mem_cons_self
    obtain ⟨c, hco⟩ := Option.isSome_iff_exists.1 hco
    rw [List.cons_append, placeFrom_cons r ho hco, ih _ fun k hk => hb k (List.mem_cons_of_mem m hk)]
    rfl

end Ring

namespace Placement

theorem checkIds_eq_error {seen : List String} {before after : List CellNode} {n : CellNode}
    (hs : ∀ m ∈ before, m.id ∉ seen) (hb : (before.map (·.id)).Nodup)
    (hn : n.id ∈ seen ∨ n.id ∈ before.map (·.id)) :
    checkIds seen (before ++ n :: after) = .error (.duplicateNode n.id) := by
  induction before generalizing seen with
  | nil =>
    have hseen : seen.contains n.id = true := by simpa using hn
    rw [List.nil_append, checkIds, hseen]
    rfl
  | cons m before ih =>
    rw [List.map_cons, List.nodup_cons] at hb
    have hm : seen.contains m.id = false := by simpa using hs m List.mem_cons_self
    rw [List.cons_append, checkIds, hm, if_neg Bool.false_ne_true]
    refine ih (fun k hk => ?_) hb.2 ?_
    · rw [List.mem_cons, not_or]
      exact ⟨fun he => hb.1 (he ▸ List.mem_map_of_mem hk), hs k (List.mem_cons_of_mem m hk)⟩
    · rw [List.map_cons, List.mem_cons] at hn
      rw [List.mem_cons, or_assoc]
      exact or_left_comm.1 hn

/-- An end of an edge that is no id: the source, or else the target. -/
inductive LooseEnd (ids : List String) (e : PlainEdge String) : String → Prop
  | source : e.source ∉ ids → LooseEnd ids e e.source
  | target : e.source ∈ ids → e.target ∉ ids → LooseEnd ids e e.target

theorem exists_looseEnd {ids : List String} {e : PlainEdge String} (h : ¬ (e.source ∈ ids ∧ e.target ∈ ids)) :
    ∃ id, LooseEnd ids e id := by
  by_cases hs : e.source ∈ ids
  · exact ⟨_, .target hs fun ht => h ⟨hs, ht⟩⟩
  · exact ⟨_, .source hs⟩

theorem checkEdges_eq_error {ids : List String} (index : ℕ) {before after : List (PlainEdge String)}
    {e : PlainEdge String} {id : String} (hb : ∀ f ∈ before, f.source ∈ ids ∧ f.target ∈ ids)
    (he : LooseEnd ids e id) : checkEdges ids index (before ++ e :: after) =
      .error (.unknownNode (.text id) [("edge_index", .int (index + before.length : ℕ))]) := by
  induction before generalizing index with
  | nil =>
    rw [List.nil_append, checkEdges]
    cases he with
    | source hs =>
      rw [checkEnd, if_neg (by simpa using hs)]
      rfl
    | target hs ht =>
      rw [checkEnd, if_pos (by simpa using hs), ok_bind, checkEnd, if_neg (by simpa using ht)]
      rfl
  | cons f before ih =>
    obtain ⟨hs, ht⟩ := hb f List.mem_cons_self
    rw [List.cons_append, checkEdges, checkEnd, if_pos (by simpa using hs), ok_bind, checkEnd,
      if_pos (by simpa using ht), ok_bind, ih (index + 1) fun g hg => hb g (List.mem_cons_of_mem f hg),
      List.length_cons, Nat.add_assoc, Nat.add_comm 1]

/-- Why a graph is not placed: the first node with an id that another has, or else the first edge
with a loose end, or else the first artifact whose owner is no ranked node. -/
inductive Refuses (nodes : List CellNode) (edges : List (PlainEdge String)) : Failure → Prop
  | repeatedId {before after : List CellNode} {n : CellNode} (split : nodes = before ++ n :: after)
      (first : (before.map (·.id)).Nodup) (repeated : n.id ∈ before.map (·.id)) :
      Refuses nodes edges (.duplicateNode n.id)
  | looseEnd {before after : List (PlainEdge String)} {e : PlainEdge String} {id : String}
      (ids : (nodes.map (·.id)).Nodup) (split : edges = before ++ e :: after)
      (first : ∀ f ∈ before, f.source ∈ nodes.map (·.id) ∧ f.target ∈ nodes.map (·.id))
      (loose : LooseEnd (nodes.map (·.id)) e id) :
      Refuses nodes edges (.unknownNode (.text id) [("edge_index", .int before.length)])
  | lostArtifact {before after : List CellNode} {n : CellNode} (ids : (nodes.map (·.id)).Nodup)
      (ends : ∀ e ∈ edges, e.source ∈ nodes.map (·.id) ∧ e.target ∈ nodes.map (·.id))
      (split : nodes = before ++ n :: after) (artifact : n.kind.isRanked = false)
      (first : ∀ m ∈ before, m.kind.isRanked = false → HasOwner nodes m) (lost : ¬ HasOwner nodes n) :
      Refuses nodes edges (.unknownNode (.text (n.ownerName?.getD "None")) [("artifact", .text n.id)])

theorem isComplete_or_refuses (nodes : List CellNode) (edges : List (PlainEdge String)) :
    IsComplete nodes edges ∨ ∃ f, Refuses nodes edges f := by
  by_cases hids : (nodes.map (·.id)).Nodup
  · by_cases hends : ∀ e ∈ edges, e.source ∈ nodes.map (·.id) ∧ e.target ∈ nodes.map (·.id)
    · by_cases howners : ∀ n ∈ nodes, n.kind.isRanked = false → HasOwner nodes n
      · exact .inl ⟨hids, hends, howners⟩
      · obtain ⟨before, n, after, hsplit, hfirst, hn⟩ := exists_first_not howners
        obtain ⟨hk, hlost⟩ := Classical.not_imp.1 hn
        exact .inr ⟨_, .lostArtifact hids hends hsplit hk hfirst hlost⟩
    · obtain ⟨before, e, after, hsplit, hfirst, he⟩ := exists_first_not hends
      obtain ⟨id, hloose⟩ := exists_looseEnd he
      exact .inr ⟨_, .looseEnd hids hsplit hfirst hloose⟩
  · obtain ⟨before, n, after, hsplit, hfirst, hn⟩ := exists_first_repeated hids
    exact .inr ⟨_, .repeatedId hsplit hfirst hn⟩

variable {s : LayoutSettings} {nodes : List CellNode} {edges : List (PlainEdge String)} {f : Failure}

theorem hasCentre_iff_hasOwner {α : Type} {ranked : Table String (Point α)}
    (hkeys : ranked.keys.Perm ((nodes.filter fun n => n.kind.isRanked).map (·.id))) {n : CellNode} :
    Ring.HasCentre ranked n ↔ HasOwner nodes n := by
  simp only [Ring.HasCentre, HasOwner, Table.isSome_get?_iff, hkeys.mem_iff, List.mem_map, List.mem_filter]
  constructor
  · rintro ⟨o, ho, q, ⟨hq, hk⟩, rfl⟩
    exact ⟨q, hq, hk, ho⟩
  · rintro ⟨q, hq, hk, ho⟩
    exact ⟨q.id, ho, q, ⟨hq, hk⟩, rfl⟩

theorem withArtifacts_eq_error {α : Type} [Coordinate α] (r : Ring α) {ranked : Table String (Point α)}
    {before : List CellNode} {n : CellNode} (hk : n.kind.isRanked = false) (hn : n.NamesOwner)
    (hb : ∀ m ∈ before, m.kind.isRanked = false → Ring.HasCentre ranked m) (hc : ¬ Ring.HasCentre ranked n)
    (after : List CellNode) : withArtifacts (.ok r) ranked (before ++ n :: after) =
      .error (.unknownNode (.text (n.ownerName?.getD "None")) [("artifact", .text n.id)]) := by
  have hbefore : ∀ m ∈ before.filter fun m => !m.kind.isRanked, Ring.HasCentre ranked m := by
    intro m hm
    obtain ⟨hm, hmk⟩ := List.mem_filter.1 hm
    exact hb m hm (by simpa using hmk)
  rw [withArtifacts, List.filter_append, List.filter_cons_of_pos (by simp [hk]), Ring.place,
    Ring.placeFrom_eq_error .empty hbefore hn hc]
  rfl

/-- What is wrong with a graph is the failure that its layout comes to. -/
theorem Refuses.ofSettings_eq_error (h : Refuses nodes edges f) (hs : s.IsNumeric)
    (hz : ∀ n ∈ nodes, IsSized s n) (ho : ∀ n ∈ nodes, n.kind = .secondary → n.NamesOwner) :
    ofSettings s nodes edges = .error f := by
  cases h with
  | @repeatedId before after n hsplit hfirst hrepeated =>
    subst hsplit
    rw [ofSettings, place, checkIds_eq_error (fun m _ => List.not_mem_nil) hfirst (.inr hrepeated)]
    rfl
  | @looseEnd before after e id hids hsplit hfirst hloose =>
    subst hsplit
    rw [ofSettings, place, checkIds_eq_ok (fun n _ => List.not_mem_nil) hids, ok_bind,
      checkEdges_eq_error 0 hfirst hloose, Nat.zero_add]
    rfl
  | @lostArtifact before after n hids hends hsplit hk hfirst hlost =>
    obtain ⟨ranked, hr, hkeys⟩ := exists_rank_eq_ok hs hids hz (edges.map fun e => (e.source, e.target))
    obtain ⟨r, hring⟩ := hs.exists_ring
    have hn : n ∈ nodes := by simp [hsplit]
    have hw := withArtifacts_eq_error r hk (ho n hn (NodeKind.isRanked_eq_false.1 hk))
      (fun m hm hmk => (hasCentre_iff_hasOwner hkeys).2 (hfirst m hm hmk))
      (fun hc => hlost ((hasCentre_iff_hasOwner hkeys).1 hc)) after
    rw [← hsplit] at hw
    rw [ofSettings, hring, place, checkIds_eq_ok (fun n _ => List.not_mem_nil) hids, ok_bind,
      checkEdges_eq_ok 0 hends, ok_bind, hr, ok_bind, hw]
    rfl

omit f in
theorem getElem?_numberEdges {i : ℕ} {e : PlainEdge String} (h : edges[i]? = some e) :
    (numberEdges edges)[i]? = some ⟨i, .text e.source, .text e.target, e.data⟩ := by
  rw [numberEdges, List.getElem?_map, List.getElem?_zipIdx, h, Nat.zero_add]
  rfl

/-- A layout fails exactly when it should: on a repeated id, else on an edge with a loose end, else on
an artifact without an owner, and it names the first. All other graphs are placed, node by node
and edge by edge, with settings and sizes that doubles can hold. -/
theorem ofSettings_verdict (hs : s.IsNumeric) (hz : ∀ n ∈ nodes, IsSized s n)
    (ho : ∀ n ∈ nodes, n.kind = .secondary → n.NamesOwner) :
    (∀ f, ofSettings s nodes edges = .error f ↔ Refuses nodes edges f) ∧
    ((∃ id, ofSettings s nodes edges = .error (.duplicateNode id)) ↔ ¬ (nodes.map (·.id)).Nodup) ∧
    ((∃ chart, ofSettings s nodes edges = .ok chart) ↔ IsComplete nodes edges) ∧
    ∀ placed numbered, ofSettings s nodes edges = .ok (placed, numbered) →
      List.Forall₂ IsPlacedNode nodes placed ∧ numbered.length = edges.length ∧
      ∀ (i : ℕ) e, edges[i]? = some e → numbered[i]? = some ⟨i, .text e.source, .text e.target, e.data⟩ := by
  have hrefused : ∀ f, Refuses nodes edges f → ofSettings s nodes edges = .error f := fun f h =>
    h.ofSettings_eq_error hs hz ho
  have hplaced : IsComplete nodes edges → ∃ placed,
      ofSettings s nodes edges = .ok (placed, numberEdges edges) ∧ List.Forall₂ IsPlacedNode nodes placed :=
    fun h => h.exists_ofSettings_eq_ok hs hz
  -- every graph is complete or refused, and either way the outcome is known: so outcomes tell which it was
  have hcomplete : ∀ chart, ofSettings s nodes edges = .ok chart → IsComplete nodes edges := by
    intro chart hc
    rcases isComplete_or_refuses nodes edges with h | ⟨f, h⟩
    · exact h
    · cases (hrefused f h).symm.trans hc
  have hfailed : ∀ f, ofSettings s nodes edges = .error f → Refuses nodes edges f := by
    intro f hf
    rcases isComplete_or_refuses nodes edges with h | ⟨f', h⟩
    · obtain ⟨placed, hp, -⟩ := hplaced h
      cases hp.symm.trans hf
    · obtain rfl := Except.error.inj ((hrefused f' h).symm.trans hf)
      exact h
  refine ⟨fun f => ⟨hfailed f, hrefused f⟩, ⟨?_, fun hids => ?_⟩, ⟨?_, fun h => ?_⟩,
    fun placed numbered h => ?_⟩
  · rintro ⟨id, h⟩ hids
    cases hfailed _ h with
    | repeatedId hsplit hfirst hrepeated =>
      rw [hsplit, List.map_append, List.map_cons, List.nodup_middle, List.nodup_cons] at hids
      exact hids.1 (List.mem_append_left _ hrepeated)
  · obtain ⟨before, n, after, hsplit, hfirst, hn⟩ := exists_first_repeated hids
    exact ⟨n.id, hrefused _ (.repeatedId hsplit hfirst hn)⟩
  · rintro ⟨chart, h⟩
    exact hcomplete chart h
  · obtain ⟨placed, hp, -⟩ := hplaced h
    exact ⟨_, hp⟩
  · obtain ⟨placed', hp, hm⟩ := hplaced (hcomplete _ h)
    obtain ⟨rfl, rfl⟩ := Prod.mk.inj (Except.ok.inj (hp.symm.trans h))
    exact ⟨hm, by rw [numberEdges, List.length_map, List.length_zipIdx], fun i e => getElem?_numberEdges⟩

/-- A cell and a group that lead to each other and to an artifact; a further artifact is said to belong
to that one. -/
theorem ofSettings_verdict_lostArtifact :
    let cell : CellNode := { id := "1", label := .text "1" }
    let group : CellNode := {
      id := "group-1", label := .text "load", kind := .group
      data := [("width", .int 120), ("height", .float 70)] }
    let table : CellNode := { id := "1-artifact-0", label := .text "df", kind := .secondary }
    let plot : CellNode :=
      { id := "plot", label := .text "vis", kind := .secondary, data := [("owner", .text "1-artifact-0")] }
    let edges : List (PlainEdge String) :=
      [⟨"1", "group-1", []⟩, ⟨"group-1", "1", []⟩, ⟨"1", "1-artifact-0", []⟩]
    LayoutSettings.IsNumeric {} ∧ (∀ n ∈ [cell, group, table, plot], IsSized {} n) ∧
    (∀ n ∈ [cell, group, table, plot], n.kind = .secondary → n.NamesOwner) ∧
    ofSettings {} [cell, group, table, plot] edges =
      .error (.unknownNode (.text "1-artifact-0") [("artifact", .text "plot")]) ∧
    ∃ chart, ofSettings {} [cell, group, table] edges = .ok chart ∧
      List.Forall₂ IsPlacedNode [cell, group, table] chart.1 := by
  intro cell group table plot edges
  have hz : ∀ n ∈ [cell, group, table, plot], IsSized {} n := by
    intro n hn hk
    obtain rfl : n = group := by
      simp only [List.mem_cons, List.not_mem_nil, or_false] at hn
      rcases hn with rfl | rfl | rfl | rfl <;> first | rfl | cases hk
    exact ⟨.of_int (n := 120) (by decide), 70, rfl⟩
  have ho : ∀ n ∈ [cell, group, table, plot], n.kind = .secondary → n.NamesOwner := by
    simp only [List.mem_cons, List.not_mem_nil, or_false, forall_eq_or_imp, forall_eq]
    exact ⟨fun _ => .inl rfl, fun _ => .inl rfl, fun _ => .inl rfl, fun _ => .inr ⟨_, rfl⟩⟩
  have howner {nodes : List CellNode} (hc : cell ∈ nodes) : ∀ m ∈ [cell, group, table],
      m.kind.isRanked = false → HasOwner nodes m := by
    have ht : table.ownerName? = some "1" := by decide +kernel
    simp only [List.mem_cons, List.not_mem_nil, or_false, forall_eq_or_imp, forall_eq]
    exact ⟨fun h => (by cases h), fun h => (by cases h), fun _ => ⟨cell, hc, rfl, ht⟩⟩
  have hlost : ¬ HasOwner [cell, group, table, plot] plot := by
    rintro ⟨o, hm, hk, hn⟩
    simp only [List.mem_cons, List.not_mem_nil, or_false] at hm
    rcases hm with rfl | rfl | rfl | rfl
    · exact absurd hn (by decide)
    · exact absurd hn (by decide)
    · cases hk
    · cases hk
  have hsub : ∀ n ∈ [cell, group, table], n ∈ [cell, group, table, plot] := fun n hn =>
    List.mem_append_left [plot] hn
  obtain ⟨hfails, -⟩ := @ofSettings_verdict _ _ edges .default hz ho
  obtain ⟨-, -, hplaced, hshape⟩ :=
    @ofSettings_verdict _ _ edges .default (fun n hn => hz n (hsub n hn)) fun n hn => ho n (hsub n hn)
  obtain ⟨chart, hchart⟩ := hplaced.2 ⟨by decide, by decide, howner List.mem_cons_self⟩
  have hrefuses : Refuses [cell, group, table, plot] edges _ :=
    .lostArtifact (by decide) (by decide) rfl rfl (howner List.mem_cons_self) hlost
  exact ⟨.default, hz, ho, (hfails _).2 hrefuses, chart, hchart, (hshape _ _ hchart).1⟩

theorem ofSettings_eq_error_of_width {w : ℤ} (hw : (Coordinate.ofInt? w : Option Float) = none)
    (id : String) (label : Value) :
    ofSettings {} [({ id, label, kind := .group, data := [("width", .int w)] } : CellNode)] [] =
      .error (.fault .beyondDoubles) := by
  have hread : (Coordinate.read (.int w) : Except Fault Float) = .error .beyondDoubles := by
    simp [Coordinate.read, Coordinate.ofNumber?, hw, Coordinate.orBeyond]
  have hfootprint : (LayoutSettings.footprint {} .group [("width", .int w)] : Except Fault (Size Float)) =
      .error .beyondDoubles := by
    have hget : Fields.getD [("width", .int w)] "width" (LayoutSettings.nodeWidth {}) = .int w := rfl
    rw [LayoutSettings.footprint, hget, hread]
    rfl
  have hrank : (RankLayout.compute {}
      [({ id, label, kind := .group, data := [("width", .int w)] } : CellNode)] [] :
      Outcome (Table String (Point Float))) = .error (.fault .beyondDoubles) := by
    rw [RankLayout.compute, RankLayout.sizes, hfootprint]
    rfl
  show (RankLayout.compute {} [_] [] >>= _ : Outcome (List (ChartNode Float) × List ChartEdge)) = _
  rw [hrank]
  rfl

/-- Not every number is a double: the layout of a complete graph fails where a group is wider than
all doubles, and where half a sweep is asked for. -/
theorem ofSettings_beyondDoubles :
    let wide : CellNode :=
      { id := "1", label := .text "1", kind := .group, data := [("width", .int (10 ^ 400))] }
    let plain : CellNode := { id := "1", label := .text "1" }
    let halved : LayoutSettings := { crossingSweeps := .float 2.5 }
    (IsComplete [wide] [] ∧ LayoutSettings.check {} = .ok () ∧
      ofSettings {} [wide] [] = .error (.fault .beyondDoubles)) ∧
    IsComplete [plain] [] ∧ halved.check = .ok () ∧
      ofSettings halved [plain] [] = .error (.fault (.notIndex .float)) := by
  intro wide plain halved
  have hcomplete : ∀ n : CellNode, n.kind.isRanked = true → IsComplete [n] [] := by
    intro n hk
    refine ⟨List.nodup_singleton _, fun e he => absurd he List.not_mem_nil, fun m hm hmk => ?_⟩
    obtain rfl := List.mem_singleton.1 hm
    rw [hk] at hmk
    cases hmk
  have hnone : (Coordinate.ofInt? (10 ^ 400) : Option Float) = none :=
    Option.isNone_iff_eq_none.1 (by decide +kernel)
  exact ⟨⟨hcomplete wide rfl, rfl, ofSettings_eq_error_of_width hnone "1" (.text "1")⟩,
    hcomplete plain rfl, rfl, rfl⟩

end Placement

end CellFlow
