/-!
Stable sorting by insertion.
-/

set_option autoImplicit false

namespace CellFlow

variable {α : Type}

def insertBy (le : α → α → Bool) (a : α) : List α → List α
  | [] => [a]
  | b :: l => if le a b then a :: b :: l else b :: insertBy le a l

/-- Sorts a list; elements that precede each other keep their order. -/
def sortBy (le : α → α → Bool) : List α → List α
  | [] => []
  | a :: l => insertBy le a (sortBy le l)

theorem insertBy_perm (le : α → α → Bool) (a : α) (l : List α) :
    (insertBy le a l).Perm (a :: l) := by
  induction l with
  | nil => exact .refl _
  | cons b l ih =>
    simp only [insertBy]
    split
    · exact .refl _
    · exact (ih.cons b).trans (.swap a b l)

theorem sortBy_perm (le : α → α → Bool) (l : List α) : (sortBy le l).Perm l := by
  induction l with
  | nil => exact .refl _
  | cons a l ih => exact (insertBy_perm le a (sortBy le l)).trans (ih.cons a)

theorem pairwise_insertBy {le : α → α → Bool} (total : ∀ a b, le a b || le b a)
    (trans : ∀ a b c, le a b → le b c → le a c) (a : α) {l : List α}
    (h : l.Pairwise fun a b => le a b) : (insertBy le a l).Pairwise fun a b => le a b := by
  induction l with
  | nil => simp [insertBy]
  | cons b l ih =>
    simp only [insertBy]
    split
    · rename_i hab
      refine List.pairwise_cons.2 ⟨fun c hc => ?_, h⟩
      rcases List.mem_cons.1 hc with rfl | hc
      · exact hab
      · exact trans a b c hab (List.rel_of_pairwise_cons h hc)
    · rename_i hab
      refine List.pairwise_cons.2 ⟨fun c hc => ?_, ih h.tail⟩
      have hc := (insertBy_perm le a l).mem_iff.1 hc
      rcases List.mem_cons.1 hc with rfl | hc
      · have := total c b
        simpa [hab] using this
      · exact List.rel_of_pairwise_cons h hc

theorem pairwise_sortBy {le : α → α → Bool} (total : ∀ a b, le a b || le b a)
    (trans : ∀ a b c, le a b → le b c → le a c) (l : List α) :
    (sortBy le l).Pairwise fun a b => le a b := by
  induction l with
  | nil => exact .nil
  | cons a l ih => exact pairwise_insertBy total trans a ih

end CellFlow
