import CellFlow.Data.Distinct

/-!
Tables that keep their keys in order of first arrival: writing to a present key changes
its value and moves nothing.
-/

set_option autoImplicit false

namespace CellFlow

structure Table (κ α : Type) where
  entries : List (κ × α)
  deriving DecidableEq, Repr

namespace Table

variable {κ α : Type}

def empty : Table κ α := ⟨[]⟩

instance : Inhabited (Table κ α) := ⟨empty⟩

def keys (t : Table κ α) : List κ := t.entries.map (·.1)

def size (t : Table κ α) : Nat := t.entries.length

def mapValues {β : Type} (f : α → β) (t : Table κ α) : Table κ β := ⟨t.entries.map fun e => (e.1, f e.2)⟩

@[simp] theorem keys_empty : (empty : Table κ α).keys = [] := rfl

@[simp] theorem keys_mapValues {β : Type} (f : α → β) (t : Table κ α) : (t.mapValues f).keys = t.keys := by
  simp [mapValues, keys]

variable [BEq κ]

def get? (t : Table κ α) (k : κ) : Option α := t.entries.lookup k

def has (t : Table κ α) (k : κ) : Bool := (t.get? k).isSome

def putInto (k : κ) (a : α) : List (κ × α) → List (κ × α)
  | [] => [(k, a)]
  | e :: l => if e.1 == k then (k, a) :: l else e :: putInto k a l

def put (t : Table κ α) (k : κ) (a : α) : Table κ α := ⟨putInto k a t.entries⟩

@[simp] theorem get?_empty (k : κ) : (empty : Table κ α).get? k = none := rfl

@[simp] theorem get?_mapValues {β : Type} (f : α → β) (t : Table κ α) (k : κ) :
    (t.mapValues f).get? k = (t.get? k).map f := by
  unfold mapValues get?
  induction t.entries with
  | nil => rfl
  | cons e l ih =>
    rw [List.map_cons, List.lookup_cons, List.lookup_cons, ih]
    split <;> rfl

variable [LawfulBEq κ]

theorem lookup_putInto (k j : κ) (a : α) (l : List (κ × α)) :
    (putInto k a l).lookup j = if j == k then some a else l.lookup j := by
  induction l with
  | nil =>
    by_cases h : j = k
    · simp [putInto, h]
    · have hb : (j == k) = false := by simp [h]
      simp [putInto, List.lookup_cons, hb]
  | cons e l ih =>
    obtain ⟨i, b⟩ := e
    simp only [putInto]
    by_cases hik : i = k
    · subst hik
      by_cases h : j = i
      · simp [h]
      · have hb : (j == i) = false := by simp [h]
        simp [List.lookup_cons, hb]
    · have hik' : (i == k) = false := by simp [hik]
      simp only [hik']
      by_cases h : j = i
      · subst h
        simp [hik]
      · have hb : (j == i) = false := by simp [h]
        simp [List.lookup_cons, hb, ih]

theorem get?_put (t : Table κ α) (k j : κ) (a : α) :
    (t.put k a).get? j = if j == k then some a else t.get? j :=
  lookup_putInto k j a t.entries

theorem map_putInto_of_mem {k : κ} {a : α} {l : List (κ × α)} (h : k ∈ l.map (·.1)) :
    (putInto k a l).map (·.1) = l.map (·.1) := by
  induction l with
  | nil => simp at h
  | cons e l ih =>
    simp only [putInto]
    split
    · rename_i he
      simp [beq_iff_eq.1 he]
    · rename_i he
      rcases List.mem_cons.1 h with h | h
      · exact absurd (beq_iff_eq.2 h.symm) he
      · simp [ih h]

theorem map_putInto_of_not_mem {k : κ} {a : α} {l : List (κ × α)} (h : k ∉ l.map (·.1)) :
    (putInto k a l).map (·.1) = l.map (·.1) ++ [k] := by
  induction l with
  | nil => rfl
  | cons e l ih =>
    simp only [List.map_cons, List.mem_cons, not_or] at h
    simp only [putInto]
    split
    · rename_i he
      exact absurd (beq_iff_eq.1 he).symm h.1
    · simp [ih h.2]

theorem keys_put_of_mem {t : Table κ α} {k : κ} (a : α) (h : k ∈ t.keys) :
    (t.put k a).keys = t.keys :=
  map_putInto_of_mem h

theorem keys_put_of_not_mem {t : Table κ α} {k : κ} (a : α) (h : k ∉ t.keys) :
    (t.put k a).keys = t.keys ++ [k] :=
  map_putInto_of_not_mem h

@[simp] theorem get?_put_self (t : Table κ α) (k : κ) (a : α) : (t.put k a).get? k = some a := by
  simp [get?_put]

theorem get?_put_of_ne {t : Table κ α} {j k : κ} (a : α) (h : j ≠ k) :
    (t.put k a).get? j = t.get? j := by
  simp [get?_put, h]

theorem get?_eq_none_iff {t : Table κ α} {k : κ} : t.get? k = none ↔ k ∉ t.keys := by
  rw [get?, List.lookup_eq_none_iff, keys, List.mem_map]
  constructor
  · rintro h ⟨e, he, rfl⟩
    simpa using h e he
  · intro h e he
    rw [bne_iff_ne]
    rintro rfl
    exact h ⟨e, he, rfl⟩

theorem isSome_get?_iff {t : Table κ α} {k : κ} : (t.get? k).isSome ↔ k ∈ t.keys := by
  rw [← Decidable.not_iff_not, ← get?_eq_none_iff, Option.not_isSome_iff_eq_none]

theorem get?_eq_some_iff {t : Table κ α} {k : κ} {a : α} (h : t.keys.Nodup) :
    t.get? k = some a ↔ (k, a) ∈ t.entries := by
  obtain ⟨entries⟩ := t
  unfold get?
  unfold keys at h
  induction entries with
  | nil => simp
  | cons e l ih =>
    obtain ⟨j, b⟩ := e
    rw [List.map_cons, List.nodup_cons] at h
    rw [List.lookup_cons, List.mem_cons, Prod.mk.injEq, ← ih h.2]
    by_cases hk : k = j
    · subst hk
      have hn : l.lookup k = none := by
        rw [List.lookup_eq_none_iff]
        intro e he
        rw [bne_iff_ne]
        intro hke
        exact h.1 (List.mem_map.2 ⟨e, he, hke.symm⟩)
      simp [hn, eq_comm]
    · have hb : (k == j) = false := by simp [hk]
      simp [hk, hb]

theorem get?_foldl_put_of_not_mem {ε : Type} {key : ε → κ} {l : List ε} {k : κ} (value : ε → α) (t : Table κ α)
    (h : k ∉ l.map key) : (l.foldl (fun t e => t.put (key e) (value e)) t).get? k = t.get? k := by
  induction l generalizing t with
  | nil => rfl
  | cons e l ih =>
    rw [List.map_cons, List.mem_cons, not_or] at h
    rw [List.foldl_cons, ih _ h.2, get?_put_of_ne _ h.1]

theorem get?_foldl_put {ε : Type} {key : ε → κ} {l : List ε} {e : ε} (value : ε → α) (t : Table κ α)
    (hd : (l.map key).Nodup) (he : e ∈ l) :
    (l.foldl (fun t e => t.put (key e) (value e)) t).get? (key e) = some (value e) := by
  induction l generalizing t with
  | nil => cases he
  | cons a l ih =>
    rw [List.map_cons, List.nodup_cons] at hd
    rcases List.mem_cons.1 he with rfl | he
    · rw [List.foldl_cons, get?_foldl_put_of_not_mem value _ hd.1, get?_put_self]
    · exact ih _ hd.2 he

end Table

namespace Table

variable {κ α ε : Type} [DecidableEq κ]

theorem keys_put (t : Table κ α) (k : κ) (a : α) : (t.put k a).keys = addNew t.keys k := by
  by_cases h : k ∈ t.keys
  · rw [keys_put_of_mem a h, addNew_of_mem h]
  · rw [keys_put_of_not_mem a h, addNew_of_not_mem h]

/-- Keys stand in the order in which they were written first. -/
theorem keys_foldl_put (key : ε → κ) (value : Table κ α → ε → α) (l : List ε) (t : Table κ α) :
    (l.foldl (fun t e => t.put (key e) (value t e)) t).keys = (l.map key).foldl addNew t.keys := by
  induction l generalizing t with
  | nil => rfl
  | cons e l ih => rw [List.foldl_cons, ih, keys_put, List.map_cons, List.foldl_cons]

end Table

end CellFlow
