import CellFlow.Proofs.Graph.Build

/-!
The classes that groups divide cells into: a cell belongs to the class of the first group
that contains its position, or to one of its own. The tables that collapsing fills hold the
class of each cell and the cells of each class.
-/

set_option autoImplicit false

namespace CellFlow

theorem Group.find?_eq_some_iff {groups : List Group} {p : Int} {g : Group} {i : Nat} :
    find? groups p = some (g, i) ↔ groups[i]? = some g ∧ g.contains p ∧
      ∀ j < i, ∀ other, groups[j]? = some other → ¬ other.contains p := by
  rw [find?, List.find?_eq_some_iff_getElem]
  constructor
  · rintro ⟨hg, k, hk, he, hj⟩
    rw [List.getElem_zipIdx, Prod.mk.injEq, Nat.zero_add] at he
    obtain ⟨rfl, rfl⟩ := he
    refine ⟨List.getElem?_eq_getElem (by simpa using hk), hg, fun j hjk other ho => ?_⟩
    have hn := hj j hjk
    rw [List.getElem_zipIdx] at hn
    obtain ⟨hlt, rfl⟩ := List.getElem?_eq_some_iff.1 ho
    simpa using hn
  · rintro ⟨hi, hg, hj⟩
    obtain ⟨hlt, rfl⟩ := List.getElem?_eq_some_iff.1 hi
    refine ⟨hg, i, by simpa using hlt, by simp, fun j hji => ?_⟩
    have hn := hj j hji groups[j] (List.getElem?_eq_getElem (by omega))
    rw [List.getElem_zipIdx]
    simpa using hn

theorem Group.find?_eq_none_iff {groups : List Group} {p : Int} :
    find? groups p = none ↔ ∀ g ∈ groups, ¬ g.contains p := by
  rw [find?, List.find?_eq_none]
  constructor
  · intro h g hg
    obtain ⟨i, hi, rfl⟩ := List.mem_iff_getElem.1 hg
    exact h (groups[i], i) (List.mem_zipIdx_iff_getElem?.2 (List.getElem?_eq_getElem hi))
  · rintro h ⟨g, i⟩ hg
    exact h g (List.mem_of_getElem? (List.mem_zipIdx_iff_getElem?.1 hg))

/-- A group that is found has the index of the first group equal to it: an equal one that came earlier
would have been found before. -/
theorem Group.find?_eq_map_idxOf (groups : List Group) (p : Int) :
    find? groups p = (groups.find? fun g => g.contains p).map fun g => (g, groups.idxOf g) := by
  cases h : groups.find? fun g => g.contains p with
  | none => exact find?_eq_none_iff.2 (by simpa using h)
  | some g =>
    obtain ⟨hg, i, hlt, rfl, hbefore⟩ := List.find?_eq_some_iff_getElem.1 h
    have hindex : groups.idxOf groups[i] = i := by
      refine (List.findIdx_eq hlt).2 ⟨beq_self_eq_true _, fun j hji => beq_eq_false_iff_ne.2 fun he => ?_⟩
      have hj := hbefore j hji
      rw [he, hg] at hj
      cases hj
    rw [Option.map_some, hindex, find?_eq_some_iff]
    refine ⟨List.getElem?_eq_getElem hlt, hg, fun j hji other ho => ?_⟩
    obtain ⟨-, rfl⟩ := List.getElem?_eq_some_iff.1 ho
    simpa using hbefore j hji

namespace Collapse

variable {groups : List Group} {cells : List Cell} {c : Cell} {g : Group} {i : Nat}

theorem classOf_grouped (h : Group.find? groups c.position = some (g, i)) :
    classOf groups c = groupId i := by
  rw [classOf, h]

theorem classOf_single (h : Group.find? groups c.position = none) : classOf groups c = c.id := by
  rw [classOf, h]

/-- Cells of one class are in the same group, or in none. -/
theorem find?_eq_of_classOf_eq {d : Cell} (h : classOf groups c = classOf groups d) :
    Group.find? groups c.position = Group.find? groups d.position := by
  cases hc : Group.find? groups c.position with
  | none =>
    rw [classOf_single hc] at h
    cases hd : Group.find? groups d.position with
    | none => rfl
    | some p =>
      rw [classOf_grouped hd] at h
      exact absurd h.symm (groupId_ne_toString _ _)
  | some p =>
    rw [classOf_grouped hc] at h
    cases hd : Group.find? groups d.position with
    | none =>
      rw [classOf_single hd] at h
      exact absurd h (groupId_ne_toString _ _)
    | some q =>
      rw [classOf_grouped hd] at h
      have hi : p.2 = q.2 := groupId_injective h
      have hg : groups[p.2]? = some q.1 := hi ▸ (Group.find?_eq_some_iff.1 hd).1
      have hp : p.1 = q.1 := Option.some.inj ((Group.find?_eq_some_iff.1 hc).1.symm.trans hg)
      rw [Prod.ext hp hi]

def idsIn (groups : List Group) (cells : List Cell) (s : String) : List String :=
  (cells.filter fun c => classOf groups c = s).map Cell.id

theorem mem_idsIn (hd : (cells.map Cell.id).Nodup) (hc : c ∈ cells) {s : String} :
    c.id ∈ idsIn groups cells s ↔ classOf groups c = s := by
  simp only [idsIn, List.mem_map, List.mem_filter, decide_eq_true_eq]
  constructor
  · rintro ⟨d, ⟨hm, hs⟩, he⟩
    rwa [← List.inj_on_of_nodup_map hd hm hc he]
  · intro hs
    exact ⟨c, ⟨hc, hs⟩, rfl⟩

theorem get?_classes (hd : (cells.map Cell.id).Nodup) (hc : c ∈ cells) :
    (classes groups cells).get? c.id = some (classOf groups c) :=
  Table.get?_foldl_put _ _ hd hc

theorem members_concat (cells : List Cell) (c : Cell) :
    members groups (cells ++ [c]) =
      match Group.find? groups c.position with
      | some (_, i) => (members groups cells).put (groupId i)
          (((members groups cells).get? (groupId i)).getD [] ++ [c.id])
      | none => members groups cells := by
  rw [members, List.foldl_append]
  rfl

theorem get?_members_groupId (i : Nat) :
    ((members groups cells).get? (groupId i)).getD [] = idsIn groups cells (groupId i) := by
  induction cells using List.reverseRecOn with
  | nil => rfl
  | append_singleton cells c ih =>
    rw [members_concat, idsIn, List.filter_append, List.map_append, ← idsIn, ← ih]
    cases h : Group.find? groups c.position with
    | none =>
      have hc : classOf groups c ≠ groupId i := by
        rw [classOf_single h]
        exact (groupId_ne_toString i c.position).symm
      simp [hc]
    | some p =>
      obtain ⟨g, j⟩ := p
      have hc : classOf groups c = groupId j := classOf_grouped h
      by_cases hij : i = j
      · subst hij
        simp [hc]
      · have hg : groupId i ≠ groupId j := fun he => hij (groupId_injective he)
        simp [hc, Table.get?_put_of_ne _ hg, hg.symm]

theorem get?_members_id (p : Int) : (members groups cells).get? (toString p) = none := by
  induction cells using List.reverseRecOn with
  | nil => rfl
  | append_singleton cells c ih =>
    rw [members_concat]
    split
    · rename_i j _
      rw [Table.get?_put_of_ne _ (groupId_ne_toString j p).symm, ih]
    · exact ih

theorem get?_members_of_mem (hc : c ∈ cells) (h : classOf groups c = groupId i) :
    (members groups cells).get? (groupId i) = some (idsIn groups cells (groupId i)) := by
  have hm : ((members groups cells).get? (groupId i)).getD [] = idsIn groups cells (groupId i) :=
    get?_members_groupId i
  cases ht : (members groups cells).get? (groupId i) with
  | none =>
    rw [ht] at hm
    have hc' : c ∈ cells.filter fun c => classOf groups c = groupId i := by simp [hc, h]
    rw [List.map_eq_nil_iff.1 hm.symm] at hc'
    cases hc'
  | some l =>
    rw [ht] at hm
    exact congrArg some hm

theorem find?_groupId (h : groups[i]? = some g) :
    (groups.zipIdx.find? fun p => groupId p.2 == groupId i) = some (g, i) := by
  obtain ⟨hlt, rfl⟩ := List.getElem?_eq_some_iff.1 h
  rw [List.find?_eq_some_iff_getElem]
  refine ⟨by simp, i, by simpa using hlt, by simp, fun j hji => ?_⟩
  have hne : groupId j ≠ groupId i := fun he => absurd (groupId_injective he) (by omega)
  simpa using hne

end Collapse

end CellFlow
