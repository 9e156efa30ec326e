import CellFlow.Layout.Acyclic
import Mathlib.Data.List.Nodup
import Mathlib.Data.List.Perm.Subperm
import Mathlib.Logic.Relation

/-!
The depth-first walk is a loop over a stack that finishes every vertex, and turning its back arcs
round leaves no cycle: the vertices, the latest finished first, stand in an order in which all
other arcs lead forward and all back arcs lead back.
-/

set_option autoImplicit false

namespace CellFlow.Digraph

variable {ι : Type} [DecidableEq ι]

/-- No arc is listed twice, and each joins two different vertices. -/
structure IsSimple (g : Digraph ι) : Prop where
  nodup_vertices : g.vertices.Nodup
  nodup_arcs : g.arcs.Nodup
  joins : ∀ a ∈ g.arcs, a.1 ≠ a.2 ∧ a.1 ∈ g.vertices ∧ a.2 ∈ g.vertices

/-- An order of the vertices in which all arcs lead forward. -/
structure IsTopological (g : Digraph ι) (order : List ι) : Prop where
  nodup : order.Nodup
  mem : ∀ v, v ∈ order ↔ v ∈ g.vertices
  forward : ∀ a ∈ g.arcs, [a.1, a.2].Sublist order

theorem mem_vertices_ofLists {order : List ι} {arcs : List (ι × ι)} {v : ι} :
    v ∈ (ofLists order arcs).vertices ↔ v ∈ order := by
  simp [ofLists, mem_foldl_addNew]

theorem mem_arcs_ofLists {order : List ι} {arcs : List (ι × ι)} {a : ι × ι} :
    a ∈ (ofLists order arcs).arcs ↔ a ∈ arcs ∧ a.1 ≠ a.2 ∧ a.1 ∈ order ∧ a.2 ∈ order := by
  simp [ofLists, mem_foldl_addNew, Digraph.joins]

theorem isSimple_ofLists (order : List ι) (arcs : List (ι × ι)) : (ofLists order arcs).IsSimple := by
  refine ⟨nodup_foldl_addNew List.nodup_nil, nodup_foldl_addNew List.nodup_nil, fun a ha => ?_⟩
  rw [mem_vertices_ofLists, mem_vertices_ofLists]
  exact (mem_arcs_ofLists.1 ha).2

/-- The walk as a loop: the vertices still to start from, and a stack of the vertices on the way,
each with the successors that are still to be followed. A vertex that has been seen is either on the
stack or finished. -/
structure Search (ι : Type) where
  walk : Walk ι
  finished : List ι
  stack : List (ι × List ι)
  roots : List ι

namespace Search

def start (g : Digraph ι) : Search ι := ⟨⟨[], []⟩, [], [], g.vertices⟩

/-- One turn of the loop, unless it is over. -/
def step (g : Digraph ι) : Search ι → Option (Search ι)
  | ⟨_, _, [], []⟩ => none
  | ⟨w, done, [], v :: roots⟩ =>
    if v ∈ w.seen then some ⟨w, done, [], roots⟩
    else some ⟨{ w with seen := v :: w.seen }, done, [(v, g.successors v)], roots⟩
  | ⟨w, done, (v, []) :: stack, roots⟩ => some ⟨w, v :: done, stack, roots⟩
  | ⟨w, done, (v, c :: cs) :: stack, roots⟩ =>
    if c ∉ w.seen then
      some ⟨{ w with seen := c :: w.seen }, done, (c, g.successors c) :: (v, cs) :: stack, roots⟩
    else if c ∈ done then some ⟨w, done, (v, cs) :: stack, roots⟩
    else some ⟨{ w with back := w.back ++ [(v, c)] }, done, (v, cs) :: stack, roots⟩

def Runs (g : Digraph ι) : Search ι → Search ι → Prop :=
  Relation.ReflTransGen fun s t => s.step g = some t

theorem Runs.of_step {g : Digraph ι} {s t u : Search ι} (hs : s.step g = some t) (h : Runs g t u) :
    Runs g s u :=
  Relation.ReflTransGen.head hs h

end Search

/-- A walk on its way: the trail leads back from where it is, and the vertices in `done` are
finished, the latest first. Going on only puts vertices between the trail and them. -/
structure Stage (g : Digraph ι) (trail : List ι) (w : Walk ι) (done : List ι) : Prop where
  nodup : (trail.reverse ++ done).Nodup
  seen : ∀ v, v ∈ w.seen ↔ v ∈ trail.reverse ++ done
  within : ∀ v ∈ w.seen, v ∈ g.vertices
  back : ∀ a ∈ w.back, a ∈ g.arcs ∧ [a.2, a.1].Sublist (trail.reverse ++ done)
  settled : ∀ u ∈ done, ∀ v ∈ g.successors u, [u, v].Sublist done ∨ (u, v) ∈ w.back

structure Grows (w : Walk ι) (done : List ι) (w' : Walk ι) (done' : List ι) : Prop where
  done : done ⊆ done'
  back : w.back ⊆ w'.back

omit [DecidableEq ι] in
theorem Grows.refl (w : Walk ι) (done : List ι) : Grows w done w done :=
  ⟨List.Subset.refl _, List.Subset.refl _⟩

omit [DecidableEq ι] in
theorem Grows.trans {w w' w'' : Walk ι} {done done' done'' : List ι} (h : Grows w done w' done')
    (h' : Grows w' done' w'' done'') : Grows w done w'' done'' :=
  ⟨List.Subset.trans h.done h'.done, List.Subset.trans h.back h'.back⟩

namespace Stage

variable {g : Digraph ι} {trail done : List ι} {w : Walk ι} {v c : ι}

theorem start (g : Digraph ι) : Stage g [] ⟨[], []⟩ [] := by
  refine ⟨List.nodup_nil, fun v => Iff.rfl, ?_, ?_, ?_⟩
  · intro v hv
    cases hv
  · intro a ha
    cases ha
  · intro u hu
    cases hu

omit [DecidableEq ι] in
theorem reverse_cons_append (v : ι) (trail done : List ι) :
    (v :: trail).reverse ++ done = trail.reverse ++ v :: done := by
  simp

theorem push (h : Stage g trail w done) (hc : c ∉ w.seen) (hg : c ∈ g.vertices) :
    Stage g (c :: trail) { w with seen := c :: w.seen } done := by
  have hn : c ∉ trail.reverse ++ done := fun hm => hc ((h.seen c).2 hm)
  refine ⟨?_, fun u => ?_, fun u hu => ?_, fun a ha => ?_, h.settled⟩
  · rw [reverse_cons_append]
    exact List.nodup_middle.2 (List.nodup_cons.2 ⟨hn, h.nodup⟩)
  · rw [reverse_cons_append, List.mem_cons, h.seen u]
    simp only [List.mem_append, List.mem_cons]
    tauto
  · rcases List.mem_cons.1 hu with rfl | hu
    · exact hg
    · exact h.within u hu
  · rw [reverse_cons_append]
    have hs : (trail.reverse ++ done).Sublist (trail.reverse ++ c :: done) :=
      List.Sublist.append_left (List.sublist_cons_self c done) _
    exact ⟨(h.back a ha).1, (h.back a ha).2.trans hs⟩

theorem markBack (h : Stage g (v :: trail) w done) (hs : g.IsSimple) (hc : c ∈ g.successors v)
    (hm : c ∈ v :: trail) : Stage g (v :: trail) { w with back := w.back ++ [(v, c)] } done := by
  have ha : (v, c) ∈ g.arcs := mem_successors.1 hc
  have hv : c ≠ v := fun he => (hs.joins _ ha).1 he.symm
  have ht : c ∈ trail := (List.mem_cons.1 hm).resolve_left hv
  refine ⟨h.nodup, h.seen, h.within, fun a hb => ?_, fun u hu x hx => ?_⟩
  · rcases List.mem_append.1 hb with hb | hb
    · exact h.back a hb
    · have he : a = (v, c) := by simpa using hb
      subst he
      refine ⟨ha, ?_⟩
      rw [reverse_cons_append]
      exact List.Sublist.append (List.singleton_sublist.2 (List.mem_reverse.2 ht))
        (List.singleton_sublist.2 List.mem_cons_self)
  · rcases h.settled u hu x hx with hd | hb
    · exact .inl hd
    · exact .inr (List.mem_append_left _ hb)

theorem finish (h : Stage g (v :: trail) w done)
    (hc : ∀ c ∈ g.successors v, c ∈ done ∨ (v, c) ∈ w.back) : Stage g trail w (v :: done) := by
  rcases h with ⟨hn, hs, hw, hb, hd⟩
  simp only [reverse_cons_append] at hn hs hb
  refine ⟨hn, hs, hw, hb, fun u hu x hx => ?_⟩
  rcases List.mem_cons.1 hu with rfl | hu
  · rcases hc x hx with hm | hm
    · exact .inl (List.Sublist.cons_cons u (List.singleton_sublist.2 hm))
    · exact .inr hm
  · rcases hd u hu x hx with hm | hm
    · exact .inl (hm.trans (List.sublist_cons_self v done))
    · exact .inr hm

theorem length_le (h : Stage g trail w done) : trail.length ≤ g.vertices.length := by
  have hn : trail.Nodup := by
    have := (List.nodup_append.1 h.nodup).1
    rwa [List.nodup_reverse] at this
  refine (hn.subperm fun v hv => ?_).length_le
  exact h.within v ((h.seen v).2 (List.mem_append_left _ (List.mem_reverse.2 hv)))

/-- A finished vertex is off the trail. -/
theorem not_mem_done (h : Stage g trail w done) (hc : c ∈ trail) : c ∉ done := fun hd =>
  (List.nodup_append.1 h.nodup).2.2 c (List.mem_reverse.2 hc) c hd rfl

theorem mem_done (h : Stage g trail w done) (hc : c ∈ w.seen) (ht : c ∉ trail) : c ∈ done := by
  have hm := (h.seen c).1 hc
  rw [List.mem_append, List.mem_reverse] at hm
  exact hm.resolve_left ht

/-- The vertices of a list are taken in turn, in the walk and in the loop: `state` is how the loop
stands when some of the list are left. -/
theorem foldl {f : Walk ι → ι → Walk ι} (state : Walk ι → List ι → List ι → Search ι)
    (reached : ι → Walk ι → List ι → Prop)
    (keep : ∀ {c w done w' done'}, Grows w done w' done' → reached c w done → reached c w' done')
    {cs : List ι} (step : ∀ c ∈ cs, ∀ w done cs, Stage g trail w done →
      ∃ done', Search.Runs g (state w done (c :: cs)) (state (f w c) done' cs) ∧
        Stage g trail (f w c) done' ∧ Grows w done (f w c) done' ∧ reached c (f w c) done')
    (h : Stage g trail w done) :
    ∃ done', Search.Runs g (state w done cs) (state (cs.foldl f w) done' []) ∧
      Stage g trail (cs.foldl f w) done' ∧ Grows w done (cs.foldl f w) done' ∧
      ∀ c ∈ cs, reached c (cs.foldl f w) done' := by
  induction cs generalizing w done with
  | nil =>
    refine ⟨done, Relation.ReflTransGen.refl, h, Grows.refl w done, fun c hc => ?_⟩
    cases hc
  | cons c cs ih =>
    obtain ⟨done₁, hr₁, h₁, hg₁, hc₁⟩ := step c List.mem_cons_self w done cs h
    obtain ⟨done₂, hr₂, h₂, hg₂, hc₂⟩ := ih (fun d hd => step d (List.mem_cons_of_mem c hd)) h₁
    refine ⟨done₂, hr₁.trans hr₂, h₂, hg₁.trans hg₂, fun d hd => ?_⟩
    rcases List.mem_cons.1 hd with rfl | hd
    · exact keep hg₂ hc₁
    · exact hc₂ d hd

theorem follow (h : Stage g (v :: trail) w done) (hs : g.IsSimple) {next : Walk ι → ι → Walk ι}
    (hc : c ∈ g.successors v) {stack : List (ι × List ι)} {roots cs : List ι}
    (hn : ∀ w done, Stage g (c :: v :: trail) w done → ∃ done',
      Search.Runs g ⟨w, done, (c, g.successors c) :: (v, cs) :: stack, roots⟩
        ⟨next w c, done', (v, cs) :: stack, roots⟩ ∧
      Stage g (v :: trail) (next w c) done' ∧ Grows w done (next w c) done' ∧ c ∈ done') :
    ∃ done', Search.Runs g ⟨w, done, (v, c :: cs) :: stack, roots⟩
        ⟨Digraph.follow next (v :: trail) v w c, done', (v, cs) :: stack, roots⟩ ∧
      Stage g (v :: trail) (Digraph.follow next (v :: trail) v w c) done' ∧
      Grows w done (Digraph.follow next (v :: trail) v w c) done' ∧
      (c ∈ done' ∨ (v, c) ∈ (Digraph.follow next (v :: trail) v w c).back) := by
  unfold Digraph.follow
  by_cases hm : c ∈ w.seen
  · rw [if_pos hm]
    by_cases ht : c ∈ v :: trail
    · rw [if_pos ht]
      refine ⟨done, .single ?_, h.markBack hs hc ht, ⟨List.Subset.refl _, ?_⟩, .inr ?_⟩
      · simp only [Search.step, hm, h.not_mem_done ht, not_true_eq_false, if_false]
      · exact List.subset_append_left _ _
      · exact List.mem_append_right _ List.mem_cons_self
    · rw [if_neg ht]
      have hd := h.mem_done hm ht
      refine ⟨done, .single ?_, h, Grows.refl w done, .inl hd⟩
      simp only [Search.step, hm, hd, not_true_eq_false, if_false, if_true]
  · rw [if_neg hm]
    have hv : c ∈ g.vertices := (hs.joins _ (mem_successors.1 hc)).2.2
    obtain ⟨done', hr, h', hg, hd⟩ := hn _ done (h.push hm hv)
    refine ⟨done', hr.of_step ?_, h', ⟨hg.done, hg.back⟩, .inl hd⟩
    simp only [Search.step, hm, not_false_eq_true, if_true]

/-- Going on from the head of the trail finishes it, and takes it off the stack. The number that
bounds the trail is never used up, since no vertex comes twice on it. -/
theorem explore (hs : g.IsSimple) {fuel : Nat} (h : Stage g (v :: trail) w done)
    (hf : fuel + trail.length = g.vertices.length) (stack : List (ι × List ι)) (roots : List ι) :
    ∃ done', Search.Runs g ⟨w, done, (v, g.successors v) :: stack, roots⟩
        ⟨g.explore fuel trail w v, done', stack, roots⟩ ∧
      Stage g trail (g.explore fuel trail w v) done' ∧
      Grows w done (g.explore fuel trail w v) done' ∧ v ∈ done' := by
  induction fuel generalizing trail w v done stack with
  | zero =>
    have hl := h.length_le
    rw [List.length_cons] at hl
    omega
  | succ fuel ih =>
    have hf' : fuel + (v :: trail).length = g.vertices.length := by
      rw [List.length_cons]
      omega
    obtain ⟨done', hr, h', hg, hc⟩ := h.foldl (fun w done cs => ⟨w, done, (v, cs) :: stack, roots⟩)
      (fun c w done => c ∈ done ∨ (v, c) ∈ w.back)
      (fun hg hc => hc.imp (fun hd => hg.done hd) fun hb => hg.back hb)
      (fun c hc w₁ done₁ cs h₁ => h₁.follow hs hc fun w₂ done₂ h₂ => ih h₂ hf' _)
    refine ⟨v :: done', hr.trans (.single rfl), h'.finish hc, ⟨fun u hu => ?_, hg.back⟩,
      List.mem_cons_self⟩
    exact List.mem_cons_of_mem v (hg.done hu)

theorem enter (hs : g.IsSimple) (h : Stage g [] w done) (hv : v ∈ g.vertices) (roots : List ι) :
    ∃ done', Search.Runs g ⟨w, done, [], v :: roots⟩ ⟨g.enter w v, done', [], roots⟩ ∧
      Stage g [] (g.enter w v) done' ∧ Grows w done (g.enter w v) done' ∧ v ∈ done' := by
  unfold Digraph.enter
  by_cases hm : v ∈ w.seen
  · rw [if_pos hm]
    refine ⟨done, .single ?_, h, Grows.refl w done, h.mem_done hm List.not_mem_nil⟩
    simp only [Search.step, hm, if_true]
  · rw [if_neg hm]
    obtain ⟨done', hr, h', hg, hd⟩ := (h.push hm hv).explore hs rfl [] roots
    refine ⟨done', hr.of_step ?_, h', ⟨hg.done, hg.back⟩, hd⟩
    simp only [Search.step, hm, if_false]

end Stage

/-- The loop ends, and the order in which it has finished all vertices, the latest first, is one in
which every arc leads forward or is a back arc, and every back arc leads back. -/
theorem exists_finishOrder {g : Digraph ι} (hs : g.IsSimple) : ∃ order : List ι,
    Search.Runs g (.start g) ⟨g.walk, order, [], []⟩ ∧ order.Nodup ∧
    (∀ v, v ∈ order ↔ v ∈ g.vertices) ∧
    (∀ a ∈ g.arcs, [a.1, a.2].Sublist order ∨ a ∈ g.backArcs) ∧
    ∀ a ∈ g.backArcs, a ∈ g.arcs ∧ [a.2, a.1].Sublist order := by
  obtain ⟨order, hruns, h, -, hr⟩ := (Stage.start g).foldl (fun w done roots => ⟨w, done, [], roots⟩)
    (fun v _ done => v ∈ done) (fun hg hd => hg.done hd)
    (fun v hv w done roots h => h.enter hs hv roots)
  have hm : ∀ v, v ∈ order ↔ v ∈ g.vertices :=
    fun v => ⟨fun hv => h.within v ((h.seen v).2 hv), hr v⟩
  refine ⟨order, hruns, h.nodup, hm, fun a ha => ?_, h.back⟩
  exact h.settled a.1 ((hm a.1).2 (hs.joins a ha).2.1) a.2 (mem_successors.2 ha)

theorem vertices_foldl_turn (l : List (ι × ι)) (g : Digraph ι) :
    (l.foldl turn g).vertices = g.vertices := by
  induction l generalizing g with
  | nil => rfl
  | cons a l ih => exact ih (g.turn a)

theorem vertices_unwound (g : Digraph ι) : g.unwound.vertices = g.vertices :=
  vertices_foldl_turn g.backArcs g

theorem mem_arcs_turn {g : Digraph ι} (hg : g.arcs.Nodup) {a b : ι × ι} :
    b ∈ (g.turn a).arcs ↔ b ≠ a ∧ b ∈ g.arcs ∨ b = (a.2, a.1) := by
  rw [turn, mem_addNew, hg.mem_erase_iff]

/-- When all arcs lead forward in an order, or are among some that lead back, turning these
round makes all arcs lead forward. -/
theorem forward_foldl_turn {order : List ι} {l : List (ι × ι)}
    (hl : ∀ a ∈ l, [a.2, a.1].Sublist order) {g : Digraph ι} (hg : g.arcs.Nodup)
    (h : ∀ a ∈ g.arcs, [a.1, a.2].Sublist order ∨ a ∈ l) :
    ∀ a ∈ (l.foldl turn g).arcs, [a.1, a.2].Sublist order := by
  induction l generalizing g with
  | nil =>
    intro a ha
    rcases h a ha with hf | hn
    · exact hf
    · cases hn
  | cons b l ih =>
    refine ih (fun a ha => hl a (List.mem_cons_of_mem b ha)) (nodup_addNew (hg.erase b)) ?_
    intro a ha
    rcases (mem_arcs_turn hg).1 ha with ⟨hb, ha⟩ | rfl
    · rcases h a ha with hf | hm
      · exact .inl hf
      · exact .inr ((List.mem_cons.1 hm).resolve_left hb)
    · exact .inl (hl b List.mem_cons_self)

theorem exists_isTopological_unwound {g : Digraph ι} (hs : g.IsSimple) :
    ∃ order, g.unwound.IsTopological order := by
  obtain ⟨order, -, hn, hm, hf, hb⟩ := exists_finishOrder hs
  refine ⟨order, hn, fun v => ?_, forward_foldl_turn (fun a ha => (hb a ha).2) hs.nodup_arcs hf⟩
  rw [vertices_unwound]
  exact hm v

end CellFlow.Digraph
