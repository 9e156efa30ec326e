import CellFlow.Proofs.Json.RoundTrip
import CellFlow.Proofs.Text.Parts

/-!
The characters of written values: digits and a few marks in numbers, and nothing in a whole text but
printable characters of the basic set and line feeds.
-/

set_option autoImplicit false

namespace CellFlow.Json

theorem forall_mem_hexDigits {p : Char → Prop} (h : ∀ d < 16, p (Nat.digitChar d)) (width n : Nat) :
    ∀ c ∈ Text.hexDigits width n, p c := by
  intro c hc
  obtain ⟨i, -, rfl⟩ := List.mem_map.1 hc
  exact h _ (Nat.mod_lt _ (by decide))

/-- What numbers are written with, the words for those that have no digits among them. -/
def isNumeralChar (c : Char) : Bool := c.isDigit || ".e+-NaInfity".toList.contains c

theorem isNumeralChar_of_isDigit {c : Char} (h : c.isDigit = true) : isNumeralChar c = true := by
  rw [isNumeralChar, h, Bool.true_or]

theorem isNumeralChar_of_mem_toDigits {n : Nat} : ∀ c ∈ Nat.toDigits 10 n, isNumeralChar c = true := fun _ hc =>
  isNumeralChar_of_isDigit (Nat.isDigit_of_mem_toDigits (by decide) (by decide) hc)

theorem isNumeralChar_of_mem_toString {n : Int} : ∀ c ∈ (toString n).toList, isNumeralChar c = true := by
  rw [toList_toString]
  split
  · exact isNumeralChar_of_mem_toDigits
  · exact List.forall_mem_cons.2 ⟨rfl, isNumeralChar_of_mem_toDigits⟩

theorem isNumeralChar_of_mem_layout {d : Number.Decimal} : ∀ c ∈ d.layout, isNumeralChar c = true := by
  have hzeros (n : Nat) : ∀ c ∈ Number.zeros n, isNumeralChar c = true := fun c hc =>
    (List.mem_replicate.1 hc).2 ▸ rfl
  have htake (n : Nat) : ∀ c ∈ (Nat.toDigits 10 d.digits).take n, isNumeralChar c = true := fun c hc =>
    isNumeralChar_of_mem_toDigits c (List.mem_of_mem_take hc)
  have hdrop (n : Nat) : ∀ c ∈ (Nat.toDigits 10 d.digits).drop n, isNumeralChar c = true := fun c hc =>
    isNumeralChar_of_mem_toDigits c (List.mem_of_mem_drop hc)
  rw [Number.Decimal.layout]
  dsimp only
  split
  · split
    · simp only [List.forall_mem_append, List.forall_mem_cons]
      exact ⟨⟨isNumeralChar_of_mem_toDigits, hzeros _⟩, rfl, rfl, by simp⟩
    split
    · simp only [List.forall_mem_append, List.forall_mem_cons]
      exact ⟨htake _, rfl, hdrop _⟩
    · simp only [List.forall_mem_append, List.forall_mem_cons]
      exact ⟨rfl, rfl, hzeros _, isNumeralChar_of_mem_toDigits⟩
  · have hrest (r : List Char) (hr : ∀ c ∈ r, isNumeralChar c = true) :
        ∀ c ∈ if r.isEmpty then [] else '.' :: r, isNumeralChar c = true := by
      split
      · simp
      · exact List.forall_mem_cons.2 ⟨rfl, hr⟩
    have hpower (p : List Char) (hp : ∀ c ∈ p, isNumeralChar c = true) :
        ∀ c ∈ if p.length < 2 then '0' :: p else p, isNumeralChar c = true := by
      split
      · exact List.forall_mem_cons.2 ⟨rfl, hp⟩
      · exact hp
    have hsign (b : Prop) [Decidable b] : isNumeralChar (if b then '-' else '+') = true := by
      split <;> rfl
    simp only [List.forall_mem_append, List.forall_mem_cons]
    exact ⟨⟨htake 1, hrest _ (hdrop 1)⟩, rfl, hsign _, hpower _ isNumeralChar_of_mem_toDigits⟩

theorem isNumeralChar_of_mem_number {x : Float} : ∀ c ∈ (numbers.text x).toList, isNumeralChar c = true := by
  have hsign (s : String) (hs : ∀ c ∈ s.toList, isNumeralChar c = true) :
      ∀ c ∈ ((if Number.isNegative x then "-" else "") ++ s).toList, isNumeralChar c = true := by
    rw [String.toList_append, List.forall_mem_append]
    refine ⟨?_, hs⟩
    split <;> exact List.all_eq_true.1 rfl
  rw [Number.Spelling.text]
  split
  · exact List.all_eq_true.1 rfl
  split
  · exact hsign _ (List.all_eq_true.1 rfl)
  dsimp only
  split
  · exact hsign _ (List.all_eq_true.1 rfl)
  · refine hsign _ ?_
    rw [String.toList_ofList]
    exact isNumeralChar_of_mem_layout

/-- Printable characters of the basic set, and line feeds. -/
def isPlainChar (c : Char) : Bool := c = '\n' ∨ 0x20 ≤ c.toNat ∧ c.toNat < 0x7F

theorem isPlainChar_of_isNumeralChar {c : Char} (h : isNumeralChar c = true) : isPlainChar c = true := by
  rw [isNumeralChar, Bool.or_eq_true, List.contains_iff_mem] at h
  rcases h with hd | hm
  · rw [Char.isDigit_iff_toNat] at hd
    have hlow : '0'.toNat = 48 := rfl
    have hhigh : '9'.toNat = 57 := rfl
    exact decide_eq_true (.inr ⟨by omega, by omega⟩)
  · exact List.all_eq_true.1 rfl c hm

theorem isPlainChar_of_mem_writeChar {c : Char} : ∀ d ∈ writeChar c, isPlainChar d = true := by
  have hhex (n : Nat) : ∀ d ∈ unitEscape n, isPlainChar d = true :=
    List.forall_mem_cons.2 ⟨rfl, List.forall_mem_cons.2 ⟨rfl, forall_mem_hexDigits (by decide) 4 n⟩⟩
  rw [writeChar]
  split
  · rename_i hc
    rcases hc with rfl | rfl <;> exact List.all_eq_true.1 rfl
  iterate 5
    split
    · exact List.all_eq_true.1 rfl
  split
  · exact List.forall_mem_singleton.2 (decide_eq_true (.inr ‹_›))
  split
  · exact hhex _
  · exact List.forall_mem_append.2 ⟨hhex _, hhex _⟩

theorem isPlainChar_of_mem_writeText {s : String} : ∀ c ∈ (writeText s).toList, isPlainChar c = true := by
  rw [writeText, String.toList_ofList]
  simp only [List.forall_mem_cons, List.forall_mem_append, List.mem_flatMap]
  refine ⟨rfl, ?_, rfl, by simp⟩
  rintro c ⟨d, -, hc⟩
  exact isPlainChar_of_mem_writeChar c hc

/-- Layouts that indent with plain characters. -/
def Layout.IsPlain (l : Layout) : Prop := ∀ s ∈ l.indent, ∀ c ∈ s.toList, isPlainChar c = true

variable {l : Layout}

theorem Layout.mem_members {ms : List (Key × String)} {p : String} (h : p ∈ l.members ms) :
    ∃ m ∈ ms, m.2 = p := by
  obtain ⟨m, hm, rfl⟩ := List.mem_map.1 h
  split at hm
  · exact ⟨m, (sortBy_perm _ _).mem_iff.1 hm, rfl⟩
  · exact ⟨m, hm, rfl⟩

section

variable (hl : l.IsPlain)
include hl

theorem Layout.IsPlain.lineBreak (level : Nat) : ∀ c ∈ (l.lineBreak level).toList, isPlainChar c = true := by
  rw [Layout.lineBreak]
  cases hi : l.indent with
  | none => simp
  | some s =>
    have hs : ∀ c ∈ s.toList, isPlainChar c = true := hl s hi
    simp only [String.toList_append, List.forall_mem_append, String.toList_join]
    refine ⟨List.all_eq_true.1 rfl, fun c hc => ?_⟩
    obtain ⟨t, ht, hc⟩ := List.mem_flatMap.1 hc
    exact hs c ((List.mem_replicate.1 ht).2 ▸ hc)

theorem Layout.IsPlain.separator (level : Nat) : ∀ c ∈ (l.separator level).toList, isPlainChar c = true := by
  rw [Layout.separator]
  split
  · exact List.all_eq_true.1 rfl
  · rw [String.toList_append, List.forall_mem_append]
    exact ⟨List.all_eq_true.1 rfl, hl.lineBreak level⟩

theorem Layout.IsPlain.enclose (level : Nat) {opening closing : String} {parts : List String}
    (ho : ∀ c ∈ opening.toList, isPlainChar c = true) (hc : ∀ c ∈ closing.toList, isPlainChar c = true)
    (hp : ∀ p ∈ parts, ∀ c ∈ p.toList, isPlainChar c = true) :
    ∀ c ∈ (l.enclose level opening closing parts).toList, isPlainChar c = true := by
  rw [Layout.enclose]
  split
  · rw [String.toList_append, List.forall_mem_append]
    exact ⟨ho, hc⟩
  · simp only [String.toList_append, List.forall_mem_append, String.toList_intercalate]
    refine ⟨⟨⟨⟨ho, hl.lineBreak (level + 1)⟩, ?_⟩, hl.lineBreak level⟩, hc⟩
    exact Text.forall_mem_intercalate (hl.separator (level + 1)) (List.forall_mem_map.2 hp)

end

mutual

theorem isPlainChar_of_mem_writeAt (hl : l.IsPlain) (level : Nat) (v : Value) :
    ∀ c ∈ (writeAt l level v).toList, isPlainChar c = true := by
  match v with
  | .null => exact (List.all_eq_true.1 rfl : ∀ c ∈ "null".toList, isPlainChar c = true)
  | .bool true => exact (List.all_eq_true.1 rfl : ∀ c ∈ "true".toList, isPlainChar c = true)
  | .bool false => exact (List.all_eq_true.1 rfl : ∀ c ∈ "false".toList, isPlainChar c = true)
  | .int n => exact fun c hc => isPlainChar_of_isNumeralChar (isNumeralChar_of_mem_toString c hc)
  | .float x => exact fun c hc => isPlainChar_of_isNumeralChar (isNumeralChar_of_mem_number c hc)
  | .text s => exact isPlainChar_of_mem_writeText
  | .list xs =>
    exact hl.enclose level (List.all_eq_true.1 rfl) (List.all_eq_true.1 rfl)
      (isPlainChar_of_mem_writeItems hl (level + 1) xs)
  | .object fs =>
    refine hl.enclose level (List.all_eq_true.1 rfl) (List.all_eq_true.1 rfl) fun p hp => ?_
    obtain ⟨m, hm, rfl⟩ := Layout.mem_members hp
    exact isPlainChar_of_mem_writeMembers hl (level + 1) fs m hm

theorem isPlainChar_of_mem_writeItems (hl : l.IsPlain) (level : Nat) (xs : List Value) :
    ∀ p ∈ writeItems l level xs, ∀ c ∈ p.toList, isPlainChar c = true := by
  match xs with
  | [] => simp [writeItems]
  | x :: xs =>
    exact List.forall_mem_cons.2
      ⟨isPlainChar_of_mem_writeAt hl level x, isPlainChar_of_mem_writeItems hl level xs⟩

theorem isPlainChar_of_mem_writeMembers (hl : l.IsPlain) (level : Nat) (fs : Fields) :
    ∀ m ∈ writeMembers l level fs, ∀ c ∈ m.2.toList, isPlainChar c = true := by
  match fs with
  | [] => simp [writeMembers]
  | (k, v) :: fs =>
    refine List.forall_mem_cons.2 ⟨?_, isPlainChar_of_mem_writeMembers hl level fs⟩
    simp only [String.toList_append, List.forall_mem_append]
    exact ⟨⟨isPlainChar_of_mem_writeText, List.all_eq_true.1 rfl⟩, isPlainChar_of_mem_writeAt hl level v⟩

end

/-- A text has no carriage returns for a reader of lines to change. -/
theorem carriageReturn_not_mem_write (hl : l.IsPlain) (v : Value) : '\r' ∉ (write l v).toList := fun h =>
  absurd (isPlainChar_of_mem_writeAt hl 0 v _ h) (by decide)

end CellFlow.Json
