import CellFlow.Proofs.Layout.Cycles

/-!
What breaking cycles does to any graph: the search ends with all vertices finished, each of its back
arcs is there when its turn comes, and the graph that is left has no cycle and joins the same
vertices, only arcs on cycles having been turned round.
-/

set_option autoImplicit false

namespace CellFlow.Digraph

variable {ι : Type} [DecidableEq ι] {g : Digraph ι}

/-- What a walk marks on its way from one point to another: new arcs, none of them twice, that are
the walk's own or start at vertices not seen before. -/
structure Marks (own : ι × ι → Prop) (w w' : Walk ι) : Prop where
  seen : w.seen ⊆ w'.seen
  back : ∃ l, w'.back = w.back ++ l ∧ l.Nodup ∧
    ∀ a ∈ l, a.1 ∈ w'.seen ∧ (own a ∨ a.1 ∉ w.seen)

namespace Marks

variable {own other : ι × ι → Prop} {w w' w'' : Walk ι}

omit [DecidableEq ι] in
theorem refl (own : ι × ι → Prop) (w : Walk ι) : Marks own w w :=
  ⟨List.Subset.refl _, [], (List.append_nil _).symm, List.nodup_nil, fun a ha => by cases ha⟩

omit [DecidableEq ι] in
theorem trans (h : Marks own w w') (h' : Marks other w' w'') (hd : ∀ a, own a → ¬ other a)
    (hs : ∀ a, other a → a.1 ∈ w.seen) : Marks (fun a => own a ∨ other a) w w'' := by
  obtain ⟨l, hl, hn, ha⟩ := h.back
  obtain ⟨l', hl', hn', ha'⟩ := h'.back
  refine ⟨List.Subset.trans h.seen h'.seen, l ++ l', ?_, ?_, fun a hm => ?_⟩
  · rw [hl', hl, List.append_assoc]
  · -- an arc of both parts would start at a vertex that the first part has seen
    refine List.nodup_append.2 ⟨hn, hn', fun a hm b hm' hab => ?_⟩
    subst hab
    have hother : other a := (ha' a hm').2.resolve_right fun hns => hns (ha a hm).1
    rcases (ha a hm).2 with hown | hns
    · exact hd a hown hother
    · exact hns (hs a hother)
  · rcases List.mem_append.1 hm with hm | hm
    · exact ⟨h'.seen (ha a hm).1, (ha a hm).2.imp_left .inl⟩
    · exact ⟨(ha' a hm).1, (ha' a hm).2.imp .inr fun hns hw => hns (h.seen hw)⟩

omit [DecidableEq ι] in
theorem mono (h : Marks own w w') (ho : ∀ a, own a → other a) : Marks other w w' := by
  obtain ⟨l, hl, hn, ha⟩ := h.back
  exact ⟨h.seen, l, hl, hn, fun a hm => ⟨(ha a hm).1, (ha a hm).2.imp_left (ho a)⟩⟩

omit [DecidableEq ι] in
/-- What is seen first counts as not seen before. -/
theorem of_see {v : ι} (h : Marks own { w with seen := v :: w.seen } w')
    (ho : ∀ a, own a → a.1 = v) (hv : v ∉ w.seen) (other : ι × ι → Prop) : Marks other w w' := by
  obtain ⟨l, hl, hn, ha⟩ := h.back
  refine ⟨fun u hu => h.seen (List.mem_cons_of_mem v hu), l, hl, hn, fun a hm => ⟨(ha a hm).1, .inr ?_⟩⟩
  rcases (ha a hm).2 with hown | hns
  · rw [ho a hown]
    exact hv
  · exact fun hw => hns (List.mem_cons_of_mem v hw)

theorem follow {next : Walk ι → ι → Walk ι} {trail : List ι} {v c : ι} (hv : v ∈ w.seen)
    (hn : c ∉ w.seen → Marks (fun a => a.1 = c) { w with seen := c :: w.seen }
      (next { w with seen := c :: w.seen } c)) :
    Marks (· = (v, c)) w (follow next trail v w c) := by
  unfold Digraph.follow
  by_cases hm : c ∈ w.seen
  · rw [if_pos hm]
    by_cases ht : c ∈ trail
    · rw [if_pos ht]
      refine ⟨List.Subset.refl _, [(v, c)], rfl, List.nodup_singleton _, fun a ha => ?_⟩
      obtain rfl := List.mem_singleton.1 ha
      exact ⟨hv, .inl rfl⟩
    · rw [if_neg ht]
      exact refl _ w
  · rw [if_neg hm]
    exact (hn hm).of_see (fun a ha => ha) hm _

omit [DecidableEq ι] in
theorem foldl {f : Walk ι → ι → Walk ι} {v : ι} {cs : List ι} (hn : cs.Nodup) (hv : v ∈ w.seen)
    (step : ∀ w c, v ∈ w.seen → Marks (· = (v, c)) w (f w c)) :
    Marks (fun a => a.1 = v ∧ a.2 ∈ cs) w (cs.foldl f w) := by
  induction cs generalizing w with
  | nil => exact refl _ w
  | cons c cs ih =>
    obtain ⟨hc, hn⟩ := List.nodup_cons.1 hn
    have h := step w c hv
    refine (h.trans (ih hn (h.seen hv)) ?_ ?_).mono ?_
    · rintro a rfl ⟨-, hm⟩
      exact hc hm
    · rintro a ⟨rfl, -⟩
      exact hv
    · rintro a (rfl | ⟨rfl, hm⟩)
      · exact ⟨rfl, List.mem_cons_self⟩
      · exact ⟨rfl, List.mem_cons_of_mem c hm⟩

end Marks

theorem nodup_successors (hg : g.arcs.Nodup) (v : ι) : (g.successors v).Nodup := by
  refine hg.filterMap fun a b c ha hb => ?_
  simp only [Option.mem_def, Option.ite_none_right_eq_some, Option.some.injEq] at ha hb
  exact Prod.ext (ha.1.trans hb.1.symm) (ha.2.trans hb.2.symm)

/-- Going on from a vertex marks arcs that start at it or at vertices not seen before. -/
theorem marks_explore (hg : g.arcs.Nodup) {fuel : Nat} {trail : List ι} {w : Walk ι} {v : ι}
    (hv : v ∈ w.seen) : Marks (fun a => a.1 = v) w (g.explore fuel trail w v) := by
  induction fuel generalizing trail w v with
  | zero => exact .refl _ w
  | succ fuel ih =>
    refine Marks.mono (Marks.foldl (nodup_successors hg v) hv fun w c hv => ?_) fun a ha => ha.1
    exact Marks.follow hv fun _ => ih List.mem_cons_self

theorem marks_enter (hg : g.arcs.Nodup) (w : Walk ι) (v : ι) : Marks (fun _ => False) w (g.enter w v) := by
  unfold enter
  split
  · exact .refl _ w
  · rename_i hv
    exact (marks_explore hg List.mem_cons_self).of_see (fun a ha => ha) hv _

theorem nodup_backArcs (hg : g.arcs.Nodup) : g.backArcs.Nodup := by
  have h : Marks (fun _ => False) ⟨[], []⟩ g.walk := by
    refine List.foldlRecOn (motive := Marks (fun _ => False) ⟨[], []⟩) g.vertices g.enter
      (.refl _ _) fun w hw v _ => ?_
    exact (hw.trans (marks_enter hg w v) (fun a ha => ha.elim) fun a ha => ha.elim).mono
      fun a ha => ha.elim id id
  obtain ⟨l, hl, hn, -⟩ := h.back
  rw [backArcs, hl]
  exact hn

omit [DecidableEq ι] in
/-- Of two different elements of a list without repetition only one comes first. -/
theorem not_sublist_swap {l : List ι} (hn : l.Nodup) {u v : ι} (h : [u, v].Sublist l) :
    ¬ [v, u].Sublist l := by
  induction l with
  | nil => simp at h
  | cons x l ih =>
    obtain ⟨hx, hn⟩ := List.nodup_cons.1 hn
    intro h'
    cases h with
    | cons _ h =>
      cases h' with
      | cons _ h' => exact ih hn h h'
      | cons_cons _ h' => exact hx (h.subset (List.mem_cons_of_mem u List.mem_cons_self))
    | cons_cons _ h =>
      cases h' with
      | cons _ h' => exact hx (h'.subset (List.mem_cons_of_mem v List.mem_cons_self))
      | cons_cons _ h' => exact hx (h.subset List.mem_cons_self)

/-- Turning arcs round takes them out and puts the reversed ones in, when none of them is the
reverse of another. -/
theorem mem_arcs_foldl_turn {l : List (ι × ι)} (hl : ∀ a ∈ l, (a.2, a.1) ∉ l) (hg : g.arcs.Nodup)
    {a : ι × ι} : a ∈ (l.foldl turn g).arcs ↔ a ∈ g.arcs ∧ a ∉ l ∨ (a.2, a.1) ∈ l := by
  induction l generalizing g with
  | nil => simp
  | cons b l ih =>
    have hl' : ∀ a ∈ l, (a.2, a.1) ∉ l := fun a ha hm =>
      hl a (List.mem_cons_of_mem b ha) (List.mem_cons_of_mem b hm)
    have hb : (b.2, b.1) ∉ l := fun hm => hl b List.mem_cons_self (List.mem_cons_of_mem b hm)
    have hswap : a = (b.2, b.1) ↔ (a.2, a.1) = b :=
      ⟨fun h => by rw [h], fun h => by rw [← h]⟩
    rw [List.foldl_cons, ih hl' (nodup_addNew (hg.erase b)), mem_arcs_turn hg, List.mem_cons,
      List.mem_cons, hswap]
    constructor
    · rintro (⟨⟨hne, ha⟩ | hab, hal⟩ | hm)
      · exact .inl ⟨ha, fun h => h.elim hne hal⟩
      · exact .inr (.inl hab)
      · exact .inr (.inr hm)
    · rintro (⟨ha, hn⟩ | hab | hm)
      · exact .inl ⟨.inl ⟨fun h => hn (.inl h), ha⟩, fun h => hn (.inr h)⟩
      · exact .inl ⟨.inr hab, hswap.2 hab ▸ hb⟩
      · exact .inr hm

theorem swap_not_mem_backArcs (hs : g.IsSimple) {a : ι × ι} (ha : a ∈ g.backArcs) :
    (a.2, a.1) ∉ g.backArcs := by
  obtain ⟨order, -, hn, -, -, hb⟩ := exists_finishOrder hs
  exact fun hm => not_sublist_swap hn (hb a ha).2 (hb _ hm).2

theorem mem_arcs_unwound (hs : g.IsSimple) {a : ι × ι} :
    a ∈ g.unwound.arcs ↔ a ∈ g.arcs ∧ a ∉ g.backArcs ∨ (a.2, a.1) ∈ g.backArcs :=
  mem_arcs_foldl_turn (fun _ => swap_not_mem_backArcs hs) hs.nodup_arcs

theorem nodup_arcs_foldl_turn (hg : g.arcs.Nodup) (l : List (ι × ι)) : (l.foldl turn g).arcs.Nodup := by
  induction l generalizing g with
  | nil => exact hg
  | cons a l ih => exact ih (nodup_addNew (hg.erase a))

/-- Every arc that is turned round is there when its turn comes: no arc is turned twice, and turning
one does not take another away. -/
theorem mem_arcs_before_turn (hs : g.IsSimple) {l l' : List (ι × ι)} {a : ι × ι}
    (h : g.backArcs = l ++ a :: l') : a ∈ (l.foldl turn g).arcs := by
  have ha : a ∈ g.backArcs := h ▸ List.mem_append_right l List.mem_cons_self
  have hl : ∀ b ∈ l, b ∈ g.backArcs := fun b hb => h ▸ List.mem_append_left _ hb
  have hn : a ∉ l := fun hm =>
    (List.nodup_append.1 (h ▸ nodup_backArcs hs.nodup_arcs)).2.2 a hm a List.mem_cons_self rfl
  refine (mem_arcs_foldl_turn (fun b hb hm => ?_) hs.nodup_arcs).2
    (.inl ⟨(closesCycle_of_mem_backArcs ha).1, hn⟩)
  exact swap_not_mem_backArcs hs (hl b hb) (hl _ hm)

/-- A graph without cycles that joins the vertices which another one joins, by at most one arc each,
and differs from it only in arcs on cycles. -/
structure BreaksCycles (g h : Digraph ι) : Prop where
  vertices : h.vertices = g.vertices
  isAcyclic : h.IsAcyclic
  adjacent : ∀ u v, h.Arc u v ∨ h.Arc v u ↔ g.Arc u v ∨ g.Arc v u
  nodup_arcs : h.arcs.Nodup
  merged : ∀ u v, h.Arc u v → ¬ h.Arc v u
  turned : ∀ u v, g.Arc u v → ¬ h.Arc u v → h.Arc v u ∧ g.ClosesCycle (u, v)

theorem isAcyclic_unwound (hs : g.IsSimple) : g.unwound.IsAcyclic := by
  obtain ⟨order, ht⟩ := exists_isTopological_unwound hs
  have hl := ht.isLayering_generations (by rw [vertices_unwound]; exact hs.nodup_vertices)
  refine isAcyclic_of_lt g.unwound.rank fun a ha => ?_
  have hm := (ht.forward a ha).subset
  exact hl.rank_lt ha ((ht.mem a.1).1 (hm List.mem_cons_self))
    ((ht.mem a.2).1 (hm (List.mem_cons_of_mem _ List.mem_cons_self)))

theorem breaksCycles_unwound (hs : g.IsSimple) : BreaksCycles g g.unwound := by
  have hacyclic := isAcyclic_unwound hs
  have hturned : ∀ u v, g.Arc u v → ¬ g.unwound.Arc u v → (u, v) ∈ g.backArcs := by
    intro u v ha hn
    by_contra hb
    exact hn ((mem_arcs_unwound hs).2 (.inl ⟨ha, hb⟩))
  have hof : ∀ u v, g.unwound.Arc u v → g.Arc u v ∨ g.Arc v u := by
    intro u v ha
    rcases (mem_arcs_unwound hs).1 ha with ⟨ha, -⟩ | hb
    · exact .inl ha
    · exact .inr (closesCycle_of_mem_backArcs hb).1
  have hto : ∀ u v, g.Arc u v → g.unwound.Arc u v ∨ g.unwound.Arc v u := by
    intro u v ha
    by_cases hn : g.unwound.Arc u v
    · exact .inl hn
    · exact .inr ((mem_arcs_unwound hs).2 (.inr (hturned u v ha hn)))
  refine ⟨vertices_unwound g, hacyclic, fun u v => ⟨?_, ?_⟩,
    nodup_arcs_foldl_turn hs.nodup_arcs _, fun u v ha ha' => ?_, fun u v ha hn => ?_⟩
  · rintro (ha | ha)
    · exact hof u v ha
    · exact (hof v u ha).symm
  · rintro (ha | ha)
    · exact hto u v ha
    · exact (hto v u ha).symm
  · exact hacyclic u (.tail (.single ha) ha')
  · exact ⟨(mem_arcs_unwound hs).2 (.inr (hturned u v ha hn)),
      closesCycle_of_mem_backArcs (hturned u v ha hn)⟩

/-- For every list of vertices and every list of arcs: the search ends with each vertex finished
once, the arcs that it has found are there to be turned round, and turning them round breaks the
cycles. A graph without cycles stays as it is. -/
theorem unwound_breaksCycles (order : List ι) (arcs : List (ι × ι)) :
    let g : Digraph ι := ofLists order arcs
    (∃ finished, Search.Runs g (.start g) ⟨g.walk, finished, [], []⟩ ∧
      Search.step g ⟨g.walk, finished, [], []⟩ = none ∧ finished.Nodup ∧
      ∀ v, v ∈ finished ↔ v ∈ order) ∧
    (∀ l a l', g.backArcs = l ++ a :: l' → a ∈ (l.foldl turn g).arcs) ∧
    BreaksCycles g g.unwound ∧ (g.IsAcyclic → g.unwound = g) := by
  intro g
  have hs : g.IsSimple := isSimple_ofLists order arcs
  obtain ⟨finished, hruns, hn, hm, -, -⟩ := exists_finishOrder hs
  refine ⟨⟨finished, hruns, rfl, hn, fun v => ?_⟩, fun l a l' h => mem_arcs_before_turn hs h,
    breaksCycles_unwound hs, IsAcyclic.unwound_eq⟩
  rw [hm, mem_vertices_ofLists]

/-- Two cycles, one of which is a pair of opposite arcs, and a loop. -/
example : (ofLists [1, 2, 3] [(1, 2), (2, 3), (3, 1), (2, 1), (3, 3)]).unwound.arcs =
    [(1, 2), (2, 3), (1, 3)] := by decide

end CellFlow.Digraph
