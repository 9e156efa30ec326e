import CellFlow.Json.Reader
import CellFlow.Json.Writer
import CellFlow.Proofs.Data.Keyed

/-!
Writing with sorted keys: the text says nothing of the order in which the members stood.
-/

set_option autoImplicit false

namespace CellFlow

theorem Key.checkSortable_of_texts {ks : List Key} (h : ∀ k ∈ ks, k.kind = .text) :
    Key.checkSortable ks = .ok () := by
  induction ks with
  | nil => rfl
  | cons k ks ih =>
    have hks : ∀ j ∈ ks, j.kind = .text := fun j hj => h j (List.mem_cons_of_mem _ hj)
    have hall : ks.forM (fun j => Key.checkComparable j k) = .ok () := forM_eq_ok_iff.2 fun j hj => by
      obtain ⟨s, rfl⟩ := Key.exists_text (h k List.mem_cons_self)
      obtain ⟨t, rfl⟩ := Key.exists_text (hks j hj)
      rfl
    rw [Key.checkSortable, hall, ok_bind, ih hks]

namespace Json

variable {l : Layout} {v w : Value}

theorem checkItems_of_forall {xs : List Value} (h : ∀ x ∈ xs, checkSortable x = .ok ()) :
    checkItems xs = .ok () := by
  induction xs with
  | nil => rfl
  | cons x xs ih =>
    rw [checkItems, h x List.mem_cons_self, ok_bind]
    exact ih fun y hy => h y (List.mem_cons_of_mem x hy)

theorem checkMembers_of_forall {fs : Fields} (h : ∀ f ∈ fs, checkSortable f.2 = .ok ()) :
    checkMembers fs = .ok () := by
  induction fs with
  | nil => rfl
  | cons f fs ih =>
    rw [checkMembers, h f List.mem_cons_self, ok_bind]
    exact ih fun g hg => h g (List.mem_cons_of_mem f hg)

theorem checkSortable_of_isKeyed (h : v.IsKeyed) : checkSortable v = .ok () := by
  induction h with
  | @atom v hv =>
    cases v with
    | list xs => cases hv
    | object fs => cases hv
    | _ => rfl
  | list _ ih => exact checkItems_of_forall ih
  | @object fs hk _ ih =>
    have hkeys : Key.checkSortable (fs.map (·.1)) = .ok () := Key.checkSortable_of_texts fun k hm => by
      obtain ⟨f, hf, rfl⟩ := List.mem_map.1 hm
      exact hk.texts f hf
    rw [checkSortable, hkeys, ok_bind]
    exact checkMembers_of_forall ih

/-- A document can be written. -/
theorem writeChecked_of_isKeyed (l : Layout) (h : v.IsKeyed) : writeChecked l v = .ok (write l v) := by
  rw [writeChecked]
  split
  · rw [checkSortable_of_isKeyed h]
    rfl
  · rfl

def Layout.unsorted (l : Layout) : Layout := { l with sortKeys := false }

theorem writeMembers_eq_map (l : Layout) (level : Nat) (fs : Fields) :
    writeMembers l level fs = fs.map fun f => (f.1, writeText (keyText f.1) ++ ": " ++ writeAt l level f.2) := by
  induction fs with
  | nil => rfl
  | cons f fs ih => rw [writeMembers, ih, List.map_cons]

mutual

/-- To write with sorted keys is to write the sorted value. -/
theorem writeAt_sorted (hl : l.sortKeys = true) (level : Nat) (v : Value) :
    writeAt l.unsorted level v.sorted = writeAt l level v := by
  match v with
  | .null => rfl
  | .bool true => rfl
  | .bool false => rfl
  | .int n => rfl
  | .float x => rfl
  | .text s => rfl
  | .list xs =>
    rw [Value.sorted, writeAt, writeAt, writeItems_sorted hl (level + 1) xs]
    rfl
  | .object fs =>
    have ih := writeMembers_sorted hl (level + 1) fs
    -- a member takes its key along, so that texts of members are sorted as members are
    have hs : writeMembers l.unsorted (level + 1)
          (sortBy (fun f g => f.1.precedes g.1) (Value.sortedMembers fs)) =
        sortBy (fun a b => a.1.precedes b.1) (writeMembers l (level + 1) fs) := by
      rw [← ih, writeMembers_eq_map, writeMembers_eq_map, sortBy_map fun _ _ => rfl]
    rw [Value.sorted, writeAt, writeAt, hs]
    simp only [Layout.members, hl]
    rfl

theorem writeItems_sorted (hl : l.sortKeys = true) (level : Nat) (xs : List Value) :
    writeItems l.unsorted level (Value.sortedItems xs) = writeItems l level xs := by
  match xs with
  | [] => rfl
  | x :: xs =>
    rw [Value.sortedItems, writeItems, writeItems, writeAt_sorted hl level x, writeItems_sorted hl level xs]

theorem writeMembers_sorted (hl : l.sortKeys = true) (level : Nat) (fs : Fields) :
    writeMembers l.unsorted level (Value.sortedMembers fs) = writeMembers l level fs := by
  match fs with
  | [] => rfl
  | (k, v) :: fs =>
    rw [Value.sortedMembers, writeMembers, writeMembers, writeAt_sorted hl level v, writeMembers_sorted hl level fs]

end

theorem write_sorted (hl : l.sortKeys = true) (v : Value) : write l.unsorted v.sorted = write l v :=
  writeAt_sorted hl 0 v

theorem write_eq_of_same (hl : l.sortKeys = true) (h : v.Same w) : write l v = write l w := by
  have hs : v.sorted = w.sorted := h
  rw [← write_sorted hl, ← write_sorted hl, hs]

/-- The text of a value reads as the same value, in the same order where members are not sorted. -/
def Layout.ReadsBack (l : Layout) (v : Value) : Prop :=
  ∃ w, read (write l v) = .ok w ∧ v.Same w ∧ (l.sortKeys = false → w = v)

end Json

end CellFlow
