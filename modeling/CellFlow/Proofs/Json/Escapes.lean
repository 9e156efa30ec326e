import CellFlow.Json.Reader
import CellFlow.Json.Writer
import CellFlow.Proofs.Data.Outcome
import Mathlib.Data.List.Basic

/-!
Texts in JSON: what is written for a text reads as that text, through the 16-bit units of its
characters.
-/

set_option autoImplicit false

namespace CellFlow.Json

/-- The 16-bit units of a character. -/
def unitsOf (c : Char) : List Nat :=
  if c.toNat < 0x10000 then [c.toNat]
  else [0xD800 + (c.toNat - 0x10000) / 0x400, 0xDC00 + (c.toNat - 0x10000) % 0x400]

theorem hexValue?_digitChar : ∀ d < 16, hexValue? (Nat.digitChar d) = some d := by decide

theorem hexUnit?_hexDigits {n : Nat} (hn : n < 0x10000) :
    ∃ w x y z, Text.hexDigits 4 n = [w, x, y, z] ∧ hexUnit? w x y z = some n := by
  refine ⟨_, _, _, _, rfl, ?_⟩
  have h3 := hexValue?_digitChar (n / Nat.pow 16 3 % 16) (Nat.mod_lt _ (by decide))
  have h2 := hexValue?_digitChar (n / Nat.pow 16 2 % 16) (Nat.mod_lt _ (by decide))
  have h1 := hexValue?_digitChar (n / Nat.pow 16 1 % 16) (Nat.mod_lt _ (by decide))
  have h0 := hexValue?_digitChar (n / Nat.pow 16 0 % 16) (Nat.mod_lt _ (by decide))
  have hsum : ((n / Nat.pow 16 3 % 16 * 16 + n / Nat.pow 16 2 % 16) * 16 + n / Nat.pow 16 1 % 16) * 16 +
      n / Nat.pow 16 0 % 16 = n := by
    simp only [Nat.pow_eq]
    omega
  simp only [hexUnit?, h3, h2, h1, h0, Option.bind_eq_bind, Option.bind_some]
  exact congrArg some hsum

theorem readUnits_unitEscape (start : List Char) (units : List Nat) {n : Nat} (hn : n < 0x10000) (c : Char)
    (t : List Char) : readUnits start units (unitEscape n ++ c :: t) = readUnits start (n :: units) (c :: t) := by
  obtain ⟨w, x, y, z, hd, hu⟩ := hexUnit?_hexDigits hn
  rw [unitEscape, hd]
  show readUnits start units ('\\' :: 'u' :: w :: x :: y :: z :: c :: t) = _
  rw [readUnits, hu]

theorem readUnits_escape (start : List Char) (units : List Nat) {e d : Char} (hu : e ≠ 'u')
    (he : escaped? e = some d) (c : Char) (t : List Char) :
    readUnits start units ('\\' :: e :: c :: t) = readUnits start (d.toNat :: units) (c :: t) := by
  rw [readUnits]
  · rw [if_neg hu, he]
  · intro w x y z v r h
    exact absurd h hu

theorem readUnits_plain (start : List Char) (units : List Nat) {d : Char} (hq : d ≠ '"') (hb : d ≠ '\\')
    (hd : 0x20 ≤ d.toNat) (t : List Char) :
    readUnits start units (d :: t) = readUnits start (d.toNat :: units) t := by
  rw [readUnits]
  · rw [if_neg hq, if_neg (by omega)]
  · simp [hb]
  · simp [hb]
  · simp [hb]

theorem unitsOf_of_lt {c : Char} (h : c.toNat < 0x10000) : unitsOf c = [c.toNat] := if_pos h

theorem unitsOf_eq_pair {c : Char} (h : ¬c.toNat < 0x10000) :
    unitsOf c = [0xD800 + (c.toNat - 0x10000) / 0x400, 0xDC00 + (c.toNat - 0x10000) % 0x400] := if_neg h

theorem valid_toNat (c : Char) : c.toNat < 0xD800 ∨ 0xDFFF < c.toNat ∧ c.toNat < 0x110000 := c.valid

theorem readUnits_writeChar (start : List Char) (units : List Nat) (d c : Char) (t : List Char) :
    readUnits start units (writeChar d ++ c :: t) = readUnits start ((unitsOf d).reverse ++ units) (c :: t) := by
  have hlt := valid_toNat d
  rw [writeChar]
  split
  · rename_i hd
    rcases hd with rfl | rfl
    · exact readUnits_escape start units (by decide) rfl c t
    · exact readUnits_escape start units (by decide) rfl c t
  rename_i hq
  rw [not_or] at hq
  split
  · rename_i hd
    subst hd
    exact readUnits_escape start units (by decide) rfl c t
  split
  · rename_i hd
    subst hd
    exact readUnits_escape start units (by decide) rfl c t
  split
  · rename_i hd
    subst hd
    exact readUnits_escape start units (by decide) rfl c t
  split
  · rename_i hd
    subst hd
    exact readUnits_escape start units (by decide) rfl c t
  split
  · rename_i hd
    subst hd
    exact readUnits_escape start units (by decide) rfl c t
  split
  · rename_i hd
    rw [unitsOf_of_lt (by omega)]
    exact readUnits_plain start units hq.1 hq.2 hd.1 (c :: t)
  split
  · rename_i hd
    rw [unitsOf_of_lt hd, readUnits_unitEscape start units hd]
    rfl
  · rename_i hd
    -- the first escape is followed by a backslash, the second one by the next character
    rw [unitsOf_eq_pair hd, List.append_assoc]
    show readUnits start units (unitEscape _ ++ '\\' :: (_ ++ c :: t)) = _
    rw [readUnits_unitEscape start units (by omega)]
    show readUnits start _ (unitEscape _ ++ c :: t) = _
    rw [readUnits_unitEscape start _ (by omega)]
    rfl

theorem readUnits_text (start : List Char) (units : List Nat) (s rest : List Char) :
    readUnits start units (s.flatMap writeChar ++ '"' :: rest) =
      .ok (units.reverse ++ s.flatMap unitsOf, rest) := by
  induction s generalizing units with
  | nil =>
    show readUnits start units ('"' :: rest) = _
    rw [readUnits]
    · simp
    · simp
    · simp
    · simp
  | cons c s ih =>
    have hne : ∃ d t, s.flatMap writeChar ++ '"' :: rest = d :: t := by
      cases h : s.flatMap writeChar with
      | nil => exact ⟨_, _, rfl⟩
      | cons d t => exact ⟨_, _, rfl⟩
    obtain ⟨d, t, hdt⟩ := hne
    rw [List.flatMap_cons, List.append_assoc, hdt, readUnits_writeChar, ← hdt, ih, List.flatMap_cons,
      List.reverse_append, List.reverse_reverse, List.append_assoc]

theorem joinUnits_cons {c : Char} (h : c.toNat < 0x10000) (ns : List Nat) :
    joinUnits (c.toNat :: ns) = c :: joinUnits ns := by
  have hv := valid_toNat c
  have hh : isHighUnit c.toNat = false := by
    rw [isHighUnit, Bool.and_eq_false_iff, decide_eq_false_iff_not, decide_eq_false_iff_not]
    omega
  have hl : isLowUnit c.toNat = false := by
    rw [isLowUnit, Bool.and_eq_false_iff, decide_eq_false_iff_not, decide_eq_false_iff_not]
    omega
  cases ns with
  | nil => simp [joinUnits, hh, hl]
  | cons k ns => simp [joinUnits, hh, hl]

theorem joinUnits_pair {c : Char} (h : ¬c.toNat < 0x10000) (ns : List Nat) :
    joinUnits ((0xD800 + (c.toNat - 0x10000) / 0x400) :: (0xDC00 + (c.toNat - 0x10000) % 0x400) :: ns) =
      c :: joinUnits ns := by
  have hv := valid_toNat c
  have hh : isHighUnit (0xD800 + (c.toNat - 0x10000) / 0x400) = true := by
    rw [isHighUnit, Bool.and_eq_true, decide_eq_true_iff, decide_eq_true_iff]
    omega
  have hl : isLowUnit (0xDC00 + (c.toNat - 0x10000) % 0x400) = true := by
    rw [isLowUnit, Bool.and_eq_true, decide_eq_true_iff, decide_eq_true_iff]
    omega
  have hsum : 0x10000 + (0xD800 + (c.toNat - 0x10000) / 0x400 - 0xD800) * 0x400 +
      (0xDC00 + (c.toNat - 0x10000) % 0x400 - 0xDC00) = c.toNat := by omega
  rw [joinUnits, hh, hl, Bool.and_self, if_pos rfl, hsum, Char.ofNat_toNat]

theorem joinUnits_flatMap (s : List Char) : joinUnits (s.flatMap unitsOf) = s := by
  induction s with
  | nil => rfl
  | cons c s ih =>
    rw [List.flatMap_cons]
    by_cases h : c.toNat < 0x10000
    · rw [unitsOf_of_lt h, List.singleton_append, joinUnits_cons h, ih]
    · rw [unitsOf_eq_pair h, List.cons_append, List.singleton_append, joinUnits_pair h, ih]

/-- What stands behind the opening quote reads as the text. -/
theorem readText_body (start : List Char) (s : String) (rest : List Char) :
    readText start (s.toList.flatMap writeChar ++ '"' :: rest) = .ok (s, rest) := by
  rw [readText, readUnits_text, List.reverse_nil, List.nil_append]
  show Except.ok (String.ofList (joinUnits (s.toList.flatMap unitsOf)), rest) = _
  rw [joinUnits_flatMap, String.ofList_toList]

end CellFlow.Json
