import CellFlow.Files.Path
import CellFlow.Proofs.Text.TextLines

/-!
Paths in their normal form: the text of a path is read back as the path.
-/

set_option autoImplicit false

namespace CellFlow.FilePath

/-- A path as it is made from a text. -/
structure IsNormal (p : FilePath) : Prop where
  root : p.root = "" ∨ p.root = "/" ∨ p.root = "//"
  plain : ∀ part ∈ p.parts, isPlain part = true
  slash : ∀ part ∈ p.parts, '/' ∉ part.toList

theorem isNormal_ofText (s : String) : (ofText s).IsNormal where
  root := by
    change rootOf s.toList = "" ∨ rootOf s.toList = "/" ∨ rootOf s.toList = "//"
    unfold rootOf
    split <;> simp
  plain part h := (List.mem_filter.1 h).2
  slash part h := by
    obtain ⟨l, hl, rfl⟩ := List.mem_map.1 (List.mem_filter.1 h).1
    rw [String.toList_ofList]
    exact Text.not_mem_of_mem_splitOn hl

theorem partsOf_append_slash (s t : List Char) : partsOf (s ++ '/' :: t) = partsOf s ++ partsOf t := by
  simp only [partsOf, Text.splitOn_eq, List.splitOn_append_cons_self, List.map_append, List.filter_append]

theorem partsOf_slash (t : List Char) : partsOf ('/' :: t) = partsOf t := by
  rw [← List.nil_append ('/' :: t), partsOf_append_slash]
  rfl

theorem rootOf_of_head {t : List Char} (h : t.head? ≠ some '/') :
    rootOf t = "" ∧ rootOf ('/' :: t) = "/" ∧ rootOf ('/' :: '/' :: t) = "//" := by
  cases t with
  | nil => exact ⟨rfl, rfl, rfl⟩
  | cons c t =>
    have hc : c ≠ '/' := by simpa using h
    simp [rootOf, hc]

variable {p : FilePath}

/-- The parts with slashes between them. -/
def body (p : FilePath) : List Char := ['/'].intercalate (p.parts.map String.toList)

theorem toList_text (hp : p.root ≠ "" ∨ p.parts ≠ []) : p.text.toList = p.root.toList ++ body p := by
  have hne : (p.root.isEmpty && p.parts.isEmpty) = false := by
    rw [Bool.and_eq_false_iff]
    exact hp.imp (by simp) (by simp)
  rw [text, hne, if_neg Bool.false_ne_true, String.toList_append, String.toList_intercalate]
  rfl

namespace IsNormal

theorem partsOf_body (h : p.IsNormal) : partsOf (body p) = p.parts := by
  by_cases hp : p.parts = []
  · rw [body, hp]
    rfl
  · have hs : ∀ l ∈ p.parts.map String.toList, '/' ∉ l := by
      intro l hl
      obtain ⟨part, hm, rfl⟩ := List.mem_map.1 hl
      exact h.slash part hm
    rw [partsOf, body, Text.splitOn_eq, List.splitOn_intercalate '/' hs (by simpa using hp), List.map_map]
    have hid : String.ofList ∘ String.toList = id := funext fun s => String.ofList_toList
    rw [hid, List.map_id, List.filter_eq_self.2 h.plain]

theorem head?_body (h : p.IsNormal) : (body p).head? ≠ some '/' := by
  cases hp : p.parts with
  | nil => simp [body, hp]
  | cons part parts =>
    have hm : part ∈ p.parts := by simp [hp]
    have hne : part.toList ≠ [] := by
      have := h.plain part hm
      simp_all [isPlain]
    obtain ⟨c, t, ht⟩ := List.exists_cons_of_ne_nil hne
    have hc : c ≠ '/' := fun hc => h.slash part hm (by simp [ht, hc])
    cases parts with
    | nil => simp [body, hp, ht, hc]
    | cons q parts => simp [body, hp, ht, hc]

/-- A path is the one that its text makes. -/
theorem ofText_text (h : p.IsNormal) : ofText p.text = p := by
  obtain ⟨root, parts⟩ := p
  by_cases hp : root ≠ "" ∨ parts ≠ []
  · have hparts := h.partsOf_body
    obtain ⟨hnone, hone, htwo⟩ := rootOf_of_head h.head?_body
    rw [ofText, toList_text hp]
    rcases h.root with rfl | rfl | rfl
    · exact congrArg₂ FilePath.mk hnone hparts
    · have ht : "/".toList = ['/'] := rfl
      rw [ht, List.singleton_append, hone, partsOf_slash, hparts]
    · have ht : "//".toList = ['/', '/'] := rfl
      rw [ht, List.cons_append, List.singleton_append, htwo, partsOf_slash, partsOf_slash, hparts]
  · obtain ⟨rfl, rfl⟩ : root = "" ∧ parts = [] := by simpa using hp
    rfl

end IsNormal

theorem ofText_text_ofText (s : String) : ofText (ofText s).text = ofText s := (isNormal_ofText s).ofText_text

end CellFlow.FilePath
