import CellFlow.Proofs.Graph.Ids
import CellFlow.Proofs.Json.Characters
import CellFlow.Proofs.Page.ScriptEnd

/-!
What is written of a value inside a script ends the script exactly when one of the texts of the
value does: writing as data puts quotes round texts and changes some of their characters, but leaves
those alone that markup gives a meaning.
-/

set_option autoImplicit false

namespace CellFlow

namespace Key

def texts : Key → List String
  | .text s => [s]
  | _ => []

end Key

namespace Value

mutual

/-- The texts in a value, keys among them. -/
def texts : Value → List String
  | .text s => [s]
  | .list xs => textsOfItems xs
  | .object fs => textsOfMembers fs
  | _ => []

def textsOfItems : List Value → List String
  | [] => []
  | x :: xs => x.texts ++ textsOfItems xs

def textsOfMembers : Fields → List String
  | [] => []
  | (k, v) :: fs => k.texts ++ v.texts ++ textsOfMembers fs

end

end Value

namespace Page

open Json

theorem isPrintable_of_mem_endWord : ∀ c ∈ endWord, 0x20 ≤ c.toNat ∧ c.toNat < 0x7F := by simp [endWord]

theorem lt_not_mem_hexDigits (width n : Nat) : '<' ∉ Text.hexDigits width n := fun h =>
  forall_mem_hexDigits (p := (· ≠ '<')) (by decide) width n _ h rfl

theorem toLower_not_mem_endWord {c : Char} (h : ¬(0x20 ≤ c.toNat ∧ c.toNat < 0x7F)) :
    c.toLower ∉ endWord := by
  have hu : ¬ c.isUpper = true := by
    intro hu
    have hn := toNat_of_isUpper hu
    omega
  rw [Char.toLower_eq_of_not_isUpper hu]
  exact fun hm => h (isPrintable_of_mem_endWord c hm)

/-- A character is written as it is, or as an escape that has nothing to do with the word. -/
theorem writeChar_cases (c : Char) : writeChar c = [c] ∨
    c.toLower ∉ endWord ∧ ∃ t, writeChar c = '\\' :: t ∧ '<' ∉ t := by
  have hshort : ∀ {d e : Char}, c = d → d.toLower ∉ endWord → e ≠ '<' →
      c.toLower ∉ endWord ∧ ∃ t, ['\\', e] = '\\' :: t ∧ '<' ∉ t := by
    rintro _ e rfl hd he
    exact ⟨hd, [e], rfl, by simpa using he.symm⟩
  rw [writeChar]
  split
  · rename_i hc
    rcases hc with rfl | rfl
    · exact .inr (hshort rfl (by decide) (by decide))
    · exact .inr (hshort rfl (by decide) (by decide))
  split
  · exact .inr (hshort ‹c = _› (by decide) (by decide))
  split
  · exact .inr (hshort ‹c = _› (by decide) (by decide))
  split
  · exact .inr (hshort ‹c = _› (by decide) (by decide))
  split
  · exact .inr (hshort ‹c = _› (by decide) (by decide))
  split
  · exact .inr (hshort ‹c = _› (by decide) (by decide))
  split
  · exact .inl rfl
  rename_i hc
  split
  · exact .inr ⟨toLower_not_mem_endWord hc, _, rfl, by simp [lt_not_mem_hexDigits]⟩
  · exact .inr ⟨toLower_not_mem_endWord hc, _, rfl, by simp [unitEscape, lt_not_mem_hexDigits]⟩

theorem isPrefix_flatMap_writeChar {w : List Char} (hw : ∀ c ∈ w, c ∈ endWord) (s : List Char) :
    w <+: (s.flatMap writeChar).map Char.toLower ↔ w <+: s.map Char.toLower := by
  induction s generalizing w with
  | nil => rfl
  | cons c s ih =>
    cases w with
    | nil => simp
    | cons x w =>
      rw [List.forall_mem_cons] at hw
      rw [List.flatMap_cons, List.map_append, List.map_cons]
      rcases writeChar_cases c with hc | ⟨hc, t, ht, -⟩
      · rw [hc, List.map_singleton, List.singleton_append, List.cons_prefix_cons, List.cons_prefix_cons,
          ih hw.2]
      · rw [ht, List.map_cons, List.cons_append, List.cons_prefix_cons, List.cons_prefix_cons]
        refine iff_of_false (fun h => ?_) fun h => hc (h.1 ▸ hw.1)
        exact absurd (h.1 ▸ hw.1) (by decide)

/-- Escapes take no letter of the word away, and add none. -/
theorem endsScript_flatMap_writeChar (s : List Char) : EndsScript (s.flatMap writeChar) ↔ EndsScript s := by
  induction s with
  | nil => rfl
  | cons c s ih =>
    rcases writeChar_cases c with hc | ⟨hc, t, ht, hlt⟩
    · have hp := isPrefix_flatMap_writeChar (w := endWord) (fun d hd => hd) (c :: s)
      rw [List.flatMap_cons, hc, List.singleton_append] at hp ⊢
      rw [EndsScript, List.map_cons, List.infix_cons_iff, ← List.map_cons, hp, EndsScript, List.map_cons,
        List.infix_cons_iff]
      exact or_congr_right ih
    · have hesc : '<' ∉ writeChar c := by
        rw [ht, List.mem_cons, not_or]
        exact ⟨by decide, hlt⟩
      rw [List.flatMap_cons, endsScript_append_of_not_mem hesc, ih, ← List.nil_append (c :: s),
        endsScript_append_cons hc]
      exact (or_iff_right not_endsScript_nil).symm

theorem lt_not_mem_toString (n : Int) : '<' ∉ (toString n).toList := fun h =>
  absurd (isPositionChar_of_mem_toString h) (by decide)

theorem lt_not_mem_number (x : Float) : '<' ∉ (numbers.text x).toList := fun h =>
  absurd (isNumeralChar_of_mem_number _ h) (by decide)

theorem endsScript_writeText (s : String) : EndsScript (writeText s).toList ↔ EndsScript s.toList := by
  rw [writeText, String.toList_ofList, ← List.nil_append ('"' :: _), endsScript_append_cons (by decide),
    endsScript_append_cons (by decide), endsScript_flatMap_writeChar]
  simp only [not_endsScript_nil, false_or, or_false]

theorem endsScript_enclose {opening closing : String} {a b : Char} (ha : opening.toList = [a])
    (hb : closing.toList = [b]) (ha' : a.toLower ∉ endWord) (hb' : b.toLower ∉ endWord) (level : Nat)
    (ps : List String) : EndsScript (oneLine.enclose level opening closing ps).toList ↔
      ∃ p ∈ ps, EndsScript p.toList := by
  by_cases hne : ps = []
  · subst hne
    rw [toList_enclose_nil oneLine level ha hb, ← List.nil_append (a :: _), endsScript_append_cons ha',
      ← List.nil_append [b], endsScript_append_cons hb']
    simp [not_endsScript_nil]
  · have hsep : (oneLine.separator (level + 1)).toList = ',' :: [' '] := by
      show (", ").toList = _
      decide
    rw [toList_enclose oneLine level ha hb hne, Layout.parts, hsep, ← List.nil_append (a :: _),
      endsScript_append_cons ha']
    show EndsScript [] ∨ EndsScript ((',' :: [' ']).intercalate (ps.map String.toList) ++ b :: []) ↔ _
    rw [endsScript_append_cons hb', endsScript_intercalate (by decide) (by decide)]
    simp [not_endsScript_nil]

theorem endsScript_keyText (k : Key) :
    EndsScript (keyText k).toList ↔ ∃ s ∈ k.texts, EndsScript s.toList := by
  have hplain : ∀ s : String, '<' ∉ s.toList →
      (EndsScript s.toList ↔ ∃ t ∈ ([] : List String), EndsScript t.toList) := fun s hs =>
    iff_of_false (not_endsScript_of_not_mem hs) (by simp)
  match k with
  | .text s => simp [Key.texts, keyText]
  | .null => exact hplain _ (by decide)
  | .bool true => exact hplain _ (by decide)
  | .bool false => exact hplain _ (by decide)
  | .int n => exact hplain _ (lt_not_mem_toString n)
  | .float x => exact hplain _ (lt_not_mem_number x)

theorem endsScript_member (k : Key) (written : String) :
    EndsScript (writeText (keyText k) ++ ": " ++ written).toList ↔
      (∃ s ∈ k.texts, EndsScript s.toList) ∨ EndsScript written.toList := by
  have ht : (": ").toList = ':' :: [' '] := rfl
  rw [String.toList_append, String.toList_append, ht, List.append_assoc, List.cons_append,
    endsScript_append_cons (by decide), endsScript_append_of_not_mem (by decide), endsScript_writeText,
    endsScript_keyText]

mutual

theorem endsScript_writeAt (level : Nat) (v : Value) :
    EndsScript (writeAt oneLine level v).toList ↔ ∃ s ∈ v.texts, EndsScript s.toList := by
  have hplain : ∀ s : String, '<' ∉ s.toList →
      (EndsScript s.toList ↔ ∃ t ∈ ([] : List String), EndsScript t.toList) := fun s hs =>
    iff_of_false (not_endsScript_of_not_mem hs) (by simp)
  match v with
  | .null => exact hplain "null" (by decide)
  | .bool true => exact hplain "true" (by decide)
  | .bool false => exact hplain "false" (by decide)
  | .int n => exact hplain _ (lt_not_mem_toString n)
  | .float x => exact hplain _ (lt_not_mem_number x)
  | .text s => simp [Value.texts, writeAt, endsScript_writeText]
  | .list xs =>
    rw [writeAt, endsScript_enclose rfl rfl (by decide) (by decide), Value.texts,
      exists_endsScript_writeItems (level + 1) xs]
  | .object fs =>
    rw [writeAt, endsScript_enclose rfl rfl (by decide) (by decide), Value.texts,
      ← exists_endsScript_writeMembers (level + 1) fs]
    rfl

theorem exists_endsScript_writeItems (level : Nat) (xs : List Value) :
    (∃ p ∈ writeItems oneLine level xs, EndsScript p.toList) ↔
      ∃ s ∈ Value.textsOfItems xs, EndsScript s.toList := by
  match xs with
  | [] => simp [writeItems, Value.textsOfItems]
  | x :: xs =>
    simp only [writeItems, Value.textsOfItems, List.exists_mem_cons_iff, List.mem_append, or_and_right,
      exists_or, endsScript_writeAt level x, exists_endsScript_writeItems level xs]

theorem exists_endsScript_writeMembers (level : Nat) (fs : Fields) :
    (∃ p ∈ (writeMembers oneLine level fs).map (·.2), EndsScript p.toList) ↔
      ∃ s ∈ Value.textsOfMembers fs, EndsScript s.toList := by
  match fs with
  | [] => simp [writeMembers, Value.textsOfMembers]
  | (k, v) :: fs =>
    simp only [writeMembers, Value.textsOfMembers, List.map_cons, List.exists_mem_cons_iff,
      List.mem_append, or_and_right, exists_or, endsScript_member, endsScript_writeAt level v,
      exists_endsScript_writeMembers level fs]

end

end Page

end CellFlow
