/-!
Finite sets of names, kept as strictly ascending lists, so that equal sets are equal values.
-/

set_option autoImplicit false

namespace CellFlow

structure NameSet where
  toList : List String
  ascending : toList.Pairwise (· < ·)
  deriving DecidableEq

namespace NameSet

def insertInto (s : String) : List String → List String
  | [] => [s]
  | t :: l => if s < t then s :: t :: l else if s = t then t :: l else t :: insertInto s l

theorem mem_insertInto {s t : String} {l : List String} :
    t ∈ insertInto s l ↔ t = s ∨ t ∈ l := by
  induction l with
  | nil => simp [insertInto]
  | cons u l ih =>
    simp only [insertInto]
    split
    · simp
    · split
      · rename_i h
        subst h
        simp
      · simp only [List.mem_cons, ih]
        constructor
        · rintro (h | h | h) <;> simp [h]
        · rintro (h | h | h) <;> simp [h]

theorem pairwise_insertInto {s : String} {l : List String} (h : l.Pairwise (· < ·)) :
    (insertInto s l).Pairwise (· < ·) := by
  induction l with
  | nil => simp [insertInto]
  | cons t l ih =>
    have ⟨ht, hl⟩ := List.pairwise_cons.1 h
    simp only [insertInto]
    split
    · rename_i hst
      refine List.pairwise_cons.2 ⟨fun u hu => ?_, h⟩
      rcases List.mem_cons.1 hu with rfl | hu
      · exact hst
      · exact String.lt_trans hst (ht u hu)
    · split
      · exact h
      · rename_i hst hne
        refine List.pairwise_cons.2 ⟨fun u hu => ?_, ih hl⟩
        rcases mem_insertInto.1 hu with rfl | hu
        · refine String.not_le.1 fun hle => ?_
          rcases Decidable.em (u < t) with hlt | hge
          · exact hst hlt
          · exact hne (String.le_antisymm hle (String.not_lt.1 hge))
        · exact ht u hu

def empty : NameSet := ⟨[], .nil⟩

def insert (ns : NameSet) (s : String) : NameSet :=
  ⟨insertInto s ns.toList, pairwise_insertInto ns.ascending⟩

def insertAll (ns : NameSet) (l : List String) : NameSet := l.foldl insert ns

def ofList (l : List String) : NameSet := empty.insertAll l

def union (a b : NameSet) : NameSet := a.insertAll b.toList

def isEmpty (ns : NameSet) : Bool := ns.toList.isEmpty

instance : Membership String NameSet := ⟨fun ns s => s ∈ ns.toList⟩

instance (s : String) (ns : NameSet) : Decidable (s ∈ ns) :=
  inferInstanceAs (Decidable (s ∈ ns.toList))

instance : Inhabited NameSet := ⟨empty⟩

instance : Repr NameSet := ⟨fun ns p => reprPrec ns.toList p⟩

theorem mem_def {s : String} {ns : NameSet} : s ∈ ns ↔ s ∈ ns.toList := Iff.rfl

@[simp] theorem not_mem_empty (s : String) : ¬ s ∈ empty := by simp [mem_def, empty]

@[simp] theorem mem_insert {s t : String} {ns : NameSet} : t ∈ ns.insert s ↔ t = s ∨ t ∈ ns :=
  mem_insertInto

@[simp] theorem mem_insertAll {t : String} {l : List String} {ns : NameSet} :
    t ∈ ns.insertAll l ↔ t ∈ l ∨ t ∈ ns := by
  induction l generalizing ns with
  | nil => simp [insertAll]
  | cons s l ih =>
    have : ns.insertAll (s :: l) = (ns.insert s).insertAll l := rfl
    rw [this, ih, mem_insert, List.mem_cons]
    constructor
    · rintro (h | h | h) <;> simp [h]
    · rintro ((h | h) | h) <;> simp [h]

@[simp] theorem mem_ofList {t : String} {l : List String} : t ∈ ofList l ↔ t ∈ l := by
  simp [ofList]

@[simp] theorem mem_union {t : String} {a b : NameSet} : t ∈ a.union b ↔ t ∈ b ∨ t ∈ a :=
  mem_insertAll

end NameSet

end CellFlow
