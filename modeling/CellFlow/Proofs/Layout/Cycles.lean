import CellFlow.Proofs.Layout.Ranking
import Mathlib.Logic.Relation

/-!
Only arcs that lie on a cycle are turned round: a graph without cycles stays as it is, and each of
its arcs leads to a higher rank.
-/

set_option autoImplicit false

namespace CellFlow.Digraph

variable {ι : Type} {g : Digraph ι}

def Arc (g : Digraph ι) (u v : ι) : Prop := (u, v) ∈ g.arcs

def Reaches (g : Digraph ι) : ι → ι → Prop := Relation.ReflTransGen g.Arc

def IsAcyclic (g : Digraph ι) : Prop := ∀ v, ¬ Relation.TransGen g.Arc v v

/-- An arc of the graph from whose end its start can be reached. -/
def ClosesCycle (g : Digraph ι) (a : ι × ι) : Prop := a ∈ g.arcs ∧ g.Reaches a.2 a.1

theorem IsAcyclic.not_closesCycle (h : g.IsAcyclic) (a : ι × ι) : ¬ g.ClosesCycle a := by
  rintro ⟨ha, hr⟩
  exact h a.1 (Relation.TransGen.head' ha hr)

/-- A measure that goes up along all arcs leaves no room for a cycle. -/
theorem isAcyclic_of_lt (measure : ι → Nat) (h : ∀ a ∈ g.arcs, measure a.1 < measure a.2) :
    g.IsAcyclic := by
  have hlt : ∀ {u v}, Relation.TransGen g.Arc u v → measure u < measure v := by
    intro u v hp
    induction hp with
    | single ha => exact h _ ha
    | tail _ ha ih => exact Nat.lt_trans ih (h _ ha)
  exact fun v hv => Nat.lt_irrefl _ (hlt hv)

variable [DecidableEq ι]

/-- A walk that has marked no other arcs than those that close a cycle. -/
def MarksCycles (g : Digraph ι) (w : Walk ι) : Prop := ∀ a ∈ w.back, g.ClosesCycle a

theorem MarksCycles.follow {next : Walk ι → ι → Walk ι} {trail : List ι} {v c : ι} {w : Walk ι}
    (hw : g.MarksCycles w) (hc : (v, c) ∈ g.arcs) (ht : ∀ u ∈ trail, g.Reaches u v)
    (hn : ∀ w, g.MarksCycles w → g.MarksCycles (next w c)) :
    g.MarksCycles (follow next trail v w c) := by
  unfold Digraph.follow
  by_cases hm : c ∈ w.seen
  · rw [if_pos hm]
    by_cases hct : c ∈ trail
    · rw [if_pos hct]
      intro a ha
      rcases List.mem_append.1 ha with ha | ha
      · exact hw a ha
      · obtain rfl : a = (v, c) := by simpa using ha
        exact ⟨hc, ht c hct⟩
    · rw [if_neg hct]
      exact hw
  · rw [if_neg hm]
    exact hn _ hw

/-- The trail is a path to the vertex that the walk goes on from, so that an arc back to the trail
closes a cycle. -/
theorem MarksCycles.explore {fuel : Nat} {trail : List ι} {w : Walk ι} {v : ι} (hw : g.MarksCycles w)
    (ht : ∀ u ∈ trail, g.Reaches u v) : g.MarksCycles (g.explore fuel trail w v) := by
  induction fuel generalizing trail w v with
  | zero => exact hw
  | succ fuel ih =>
    have htv : ∀ u ∈ v :: trail, g.Reaches u v := by
      intro u hu
      rcases List.mem_cons.1 hu with rfl | hu
      · exact Relation.ReflTransGen.refl
      · exact ht u hu
    refine List.foldlRecOn (motive := g.MarksCycles) (g.successors v) _ hw fun w hw c hc => ?_
    have ha : (v, c) ∈ g.arcs := mem_successors.1 hc
    exact hw.follow ha htv fun w hw => ih hw fun u hu => (htv u hu).tail ha

theorem closesCycle_of_mem_backArcs {a : ι × ι} (h : a ∈ g.backArcs) : g.ClosesCycle a := by
  have hstart : g.MarksCycles ⟨[], []⟩ := fun a ha => by cases ha
  refine List.foldlRecOn (motive := g.MarksCycles) g.vertices g.enter hstart (fun w hw v _ => ?_) a h
  unfold enter
  split
  · exact hw
  · exact MarksCycles.explore hw fun u hu => by cases hu

theorem IsAcyclic.backArcs_eq_nil (h : g.IsAcyclic) : g.backArcs = [] :=
  List.eq_nil_iff_forall_not_mem.2 fun a ha => h.not_closesCycle a (closesCycle_of_mem_backArcs ha)

theorem IsAcyclic.unwound_eq (h : g.IsAcyclic) : g.unwound = g := by
  rw [unwound, h.backArcs_eq_nil, List.foldl_nil]

/-- Whatever is peeled off has its predecessors peeled off before it. -/
theorem exists_mem_peel_before {fuel : Nat} {rest : List ι} {u v : ι} {i : Nat} {gen : List ι}
    (hi : (g.peel fuel rest)[i]? = some gen) (hv : v ∈ gen) (ha : (u, v) ∈ g.arcs) (hu : u ∈ rest) :
    ∃ j < i, ∃ earlier, (g.peel fuel rest)[j]? = some earlier ∧ u ∈ earlier := by
  induction fuel generalizing rest i with
  | zero => simp [peel] at hi
  | succ fuel ih =>
    rw [peel] at hi ⊢
    by_cases he : (rest.filter (g.isFree rest)).isEmpty
    · simp [he] at hi
    · simp only [he, Bool.false_eq_true, if_false] at hi ⊢
      cases i with
      | zero =>
        -- a free vertex has no predecessor among the remaining ones
        obtain rfl := Option.some.inj hi
        have hfree := List.all_eq_true.1 (List.mem_filter.1 hv).2 u (mem_predecessors.2 ha)
        exact absurd hu (by simpa using hfree)
      | succ i =>
        by_cases hf : g.isFree rest u
        · exact ⟨0, Nat.succ_pos i, _, rfl, List.mem_filter.2 ⟨hu, hf⟩⟩
        · have hrest : u ∈ rest.filter fun v => !g.isFree rest v :=
            List.mem_filter.2 ⟨hu, by simpa using hf⟩
          obtain ⟨j, hj, earlier, hget, hm⟩ := ih hi hrest
          exact ⟨j + 1, Nat.succ_lt_succ hj, earlier, hget, hm⟩

theorem IsLayering.rank_lt (h : g.IsLayering g.generations) {u v : ι} (ha : (u, v) ∈ g.arcs)
    (hu : u ∈ g.vertices) (hv : v ∈ g.vertices) : g.rank u < g.rank v := by
  obtain ⟨gen, hg, hm⟩ := List.mem_flatten.1 ((h.mem v).2 hv)
  obtain ⟨i, hi⟩ := List.getElem?_of_mem hg
  obtain ⟨j, hj, earlier, hget, hmem⟩ := exists_mem_peel_before hi hm ha hu
  rw [h.rank i gen hi v hm, h.rank j earlier hget u hmem]
  exact hj

end CellFlow.Digraph
