import CellFlow.Data.Table
import CellFlow.Data.Value
import Mathlib.Logic.Function.Basic

/-!
Tables whose keys are renamed, and fields that hold the name of something else. A table that is
written to under new keys is the renamed table, provided that different keys stay different.
-/

set_option autoImplicit false

namespace CellFlow

namespace Table

variable {κ μ α : Type}

def mapKeys (r : κ → μ) (t : Table κ α) : Table μ α := ⟨t.entries.map fun e => (r e.1, e.2)⟩

@[simp] theorem mapKeys_empty (r : κ → μ) : (empty : Table κ α).mapKeys r = empty := rfl

theorem keys_mapKeys (r : κ → μ) (t : Table κ α) : (t.mapKeys r).keys = t.keys.map r := by
  rw [keys, keys, mapKeys, List.map_map, List.map_map]
  rfl

theorem mapKeys_mapValues {β : Type} (r : κ → μ) (f : α → β) (t : Table κ α) :
    (t.mapValues f).mapKeys r = (t.mapKeys r).mapValues f := by
  rw [mapKeys, mapValues, mapValues, mapKeys, List.map_map, List.map_map]
  rfl

variable [BEq κ] [LawfulBEq κ] [BEq μ] [LawfulBEq μ] {r : κ → μ}

theorem get?_mapKeys (hr : Function.Injective r) (t : Table κ α) (k : κ) :
    (t.mapKeys r).get? (r k) = t.get? k := by
  rw [mapKeys, get?, get?]
  induction t.entries with
  | nil => rfl
  | cons e l ih => rw [List.map_cons, List.lookup_cons, List.lookup_cons, hr.beq_eq, ih]

theorem mapKeys_put (hr : Function.Injective r) (t : Table κ α) (k : κ) (a : α) :
    (t.put k a).mapKeys r = (t.mapKeys r).put (r k) a := by
  have hl : ∀ l : List (κ × α), (putInto k a l).map (fun e => (r e.1, e.2)) =
      putInto (r k) a (l.map fun e => (r e.1, e.2)) := by
    intro l
    induction l with
    | nil => rfl
    | cons e l ih =>
      rw [List.map_cons, putInto, putInto, hr.beq_eq]
      split
      · rfl
      · rw [List.map_cons, ih]
  rw [put, put, mapKeys, hl, mapKeys]

theorem mapKeys_foldl_put (hr : Function.Injective r) (l : List (κ × α)) (t : Table κ α) :
    (l.foldl (fun t e => t.put e.1 e.2) t).mapKeys r =
      (l.map fun e => (r e.1, e.2)).foldl (fun t e => t.put e.1 e.2) (t.mapKeys r) := by
  induction l generalizing t with
  | nil => rfl
  | cons e l ih => rw [List.foldl_cons, ih, mapKeys_put hr, List.map_cons, List.foldl_cons]

end Table

/-- A text that names something goes to the new name. -/
def Value.renamed (r : String → String) : Value → Value
  | .text s => .text (r s)
  | v => v

theorem Key.beq_text (k : Key) (s : String) : (k == Key.text s) = (Key.text s == k) := by
  cases k with
  | text t => rw [text_beq_text, text_beq_text, Bool.beq_comm]
  | _ => simp [BEq.beq, alike, isNaN]

namespace Fields

/-- Renames what is held under a key. -/
def renameAt (r : String → String) (key : String) (fs : Fields) : Fields :=
  fs.map fun f => (f.1, if f.1 == Key.text key then f.2.renamed r else f.2)

variable (r : String → String) {key : String} (fs : Fields)

theorem getD_renameAt : getD (renameAt r key fs) key .null = (getD fs key .null).renamed r := by
  rw [getD, getD, renameAt]
  induction fs with
  | nil => rfl
  | cons f fs ih =>
    rw [List.map_cons, List.lookup_cons, List.lookup_cons, Key.beq_text]
    cases Key.text key == f.1 with
    | true => rfl
    | false => exact ih

theorem any_renameAt (other : Key) :
    (renameAt r key fs).any (·.1 == other) = fs.any (·.1 == other) := by
  rw [renameAt, List.any_map]
  rfl

theorem setDefault_renameAt_self (v : Value) :
    setDefault (renameAt r key fs) key (v.renamed r) = renameAt r key (setDefault fs key v) := by
  rw [setDefault, setDefault, any_renameAt]
  split
  · rfl
  · simp [renameAt]

theorem setDefault_renameAt_of_ne {other : String} (h : other ≠ key) (v : Value) :
    setDefault (renameAt r key fs) other v = renameAt r key (setDefault fs other v) := by
  rw [setDefault, setDefault, any_renameAt]
  split
  · rfl
  · simp [renameAt, h]

end Fields

end CellFlow
