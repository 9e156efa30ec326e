import CellFlow.Proofs.Text.Parts
import Mathlib

/-!
The word that ends a script, wherever in the script it stands. Pieces without its first letter can
be left out of the search, and a letter that the word has not parts the text in two.
-/

set_option autoImplicit false

namespace CellFlow.Page

theorem toNat_of_isUpper {c : Char} (h : c.isUpper = true) : 65 ≤ c.toNat ∧ c.toNat ≤ 90 := by
  simpa [Char.isUpper, UInt32.le_iff_toNat_le, ← Char.toNat_val] using h

theorem toLower_eq_lt {c : Char} : c.toLower = '<' ↔ c = '<' := by
  constructor
  · intro h
    have halpha : c.isAlpha = false := by
      rw [← Char.isLower_toLower_eq_isAlpha, h]
      decide
    have hu : ¬ c.isUpper = true := fun hu => by simp [Char.isAlpha, hu] at halpha
    rwa [Char.toLower_eq_of_not_isUpper hu] at h
  · rintro rfl
    decide

def startWord : List Char := ['<', 's', 'c', 'r', 'i', 'p', 't']

def endWord : List Char := ['<', '/', 's', 'c', 'r', 'i', 'p', 't']

/-- A text that ends the script in which it stands: it holds the word, in any letter case. -/
def EndsScript (s : List Char) : Prop := endWord <:+: s.map Char.toLower

instance (s : List Char) : Decidable (EndsScript s) :=
  inferInstanceAs (Decidable (endWord <:+: s.map Char.toLower))

theorem lt_not_mem_map_toLower {s : List Char} (h : '<' ∉ s) : '<' ∉ s.map Char.toLower := by
  intro hm
  obtain ⟨c, hc, he⟩ := List.mem_map.1 hm
  exact h (toLower_eq_lt.1 he ▸ hc)

section

variable {a b : List Char} {c : Char}

theorem not_endsScript_nil : ¬ EndsScript [] := by decide

theorem endsScript_append_of_not_mem (h : '<' ∉ a) : EndsScript (a ++ b) ↔ EndsScript b := by
  rw [EndsScript, List.map_append]
  exact Text.isInfix_append_of_not_mem (lt_not_mem_map_toLower h)

theorem endsScript_append_cons (hc : c.toLower ∉ endWord) :
    EndsScript (a ++ c :: b) ↔ EndsScript a ∨ EndsScript b := by
  rw [EndsScript, List.map_append, List.map_cons]
  exact Text.isInfix_append_cons hc (by decide)

theorem not_endsScript_of_not_mem (h : '<' ∉ a) : ¬ EndsScript a := by
  have hn := endsScript_append_of_not_mem (b := []) h
  rw [List.append_nil] at hn
  exact fun he => not_endsScript_nil (hn.1 he)

theorem endsScript_intercalate {sep : List Char} (hc : c.toLower ∉ endWord) (hs : '<' ∉ sep)
    (ps : List (List Char)) : EndsScript ((c :: sep).intercalate ps) ↔ ∃ p ∈ ps, EndsScript p := by
  induction ps with
  | nil => simpa using not_endsScript_nil
  | cons p ps ih =>
    cases ps with
    | nil => simp
    | cons q ps =>
      rw [List.intercalate_cons_cons, List.append_assoc, List.cons_append, endsScript_append_cons hc,
        endsScript_append_of_not_mem hs, ih]
      simp

/-- Text that may stand in front of any other: it neither ends a script nor starts to. -/
def Harmless (a : List Char) : Prop := ∀ b, EndsScript (a ++ b) ↔ EndsScript b

namespace Harmless

theorem of_not_mem (h : '<' ∉ a) : Harmless a := fun _ => endsScript_append_of_not_mem h

theorem append (ha : Harmless a) (hb : Harmless b) : Harmless (a ++ b) := fun t => by
  rw [List.append_assoc, ha, hb]

theorem not_endsScript (h : Harmless a) : ¬ EndsScript a := by
  have hn := h []
  rw [List.append_nil] at hn
  exact fun he => not_endsScript_nil (hn.1 he)

/-- Text whose last letter parts it from whatever comes behind. -/
theorem of_getLast? (h : ¬ EndsScript a) (hl : a.getLast?.all fun c => c.toLower ∉ endWord) :
    Harmless a := by
  intro t
  rcases List.eq_nil_or_concat a with rfl | ⟨b, c, rfl⟩
  · rfl
  · rw [List.concat_eq_append] at h hl ⊢
    have hc : c.toLower ∉ endWord := by simpa using hl
    rw [endsScript_append_cons hc] at h
    rw [List.append_assoc, List.singleton_append, endsScript_append_cons hc]
    exact or_iff_right fun hb => h (.inl hb)

end Harmless

end

/-- A page that is read up to some place: whether it is inside a script, how much of the word that
starts or ends one has been read, and how many scripts have been started. -/
structure Scan where
  inside : Bool
  matched : Nat
  scripts : Nat
  deriving DecidableEq

namespace Scan

def word (inside : Bool) : List Char := if inside then endWord else startWord

def read (s : Scan) (c : Char) : Scan :=
  let matched :=
    if (word s.inside)[s.matched]? = some c.toLower then s.matched + 1 else if c = '<' then 1 else 0
  if matched < (word s.inside).length then { s with matched }
  else ⟨!s.inside, 0, if s.inside then s.scripts else s.scripts + 1⟩

end Scan

/-- How many scripts a page has. -/
def scripts (page : List Char) : Nat := (page.foldl Scan.read ⟨false, 0, 0⟩).scripts

namespace Scan

variable {s : List Char}

theorem scripts_le_foldl (s : List Char) (t : Scan) : t.scripts ≤ (s.foldl read t).scripts := by
  induction s generalizing t with
  | nil => exact Nat.le_refl _
  | cons c s ih =>
    refine Nat.le_trans ?_ (ih (t.read c))
    unfold read
    extract_lets matched
    split
    · exact Nat.le_refl _
    · cases t.inside <;> simp

theorem foldl_read_of_not_mem (h : '<' ∉ s) (n : Nat) :
    s.foldl read ⟨false, 0, n⟩ = ⟨false, 0, n⟩ := by
  induction s with
  | nil => rfl
  | cons c s ih =>
    rw [List.mem_cons, not_or] at h
    have hc : ¬ (word false)[0]? = some c.toLower := by
      intro he
      exact h.1 (toLower_eq_lt.1 (Option.some.inj he).symm).symm
    have hr : read ⟨false, 0, n⟩ c = ⟨false, 0, n⟩ := by
      rw [read]
      simp only [hc, if_false, if_neg (Ne.symm h.1)]
      rfl
    rw [List.foldl_cons, hr, ih h.2]

/-- The word being read is behind `matched` of its letters: a script goes on over text in which the
word does not come to its end. -/
theorem exists_foldl_read_inside (n : Nat) {k : Nat} (hk : k < endWord.length)
    (h : ¬ endWord <:+: endWord.take k ++ s.map Char.toLower) :
    ∃ m < endWord.length, s.foldl read ⟨true, k, n⟩ = ⟨true, m, n⟩ := by
  induction s generalizing k with
  | nil => exact ⟨k, hk, rfl⟩
  | cons c s ih =>
    rw [List.map_cons] at h
    have hsuffix : ∀ t, t <:+ c.toLower :: s.map Char.toLower → ¬ endWord <:+: t := fun t ht hi =>
      h (hi.trans (ht.trans (List.suffix_append _ _)).isInfix)
    rw [List.foldl_cons]
    by_cases hw : endWord[k]? = some c.toLower
    · have htake : endWord.take k ++ c.toLower :: s.map Char.toLower =
          endWord.take (k + 1) ++ s.map Char.toLower := by
        rw [List.take_add_one, hw, List.append_assoc]
        rfl
      rw [htake] at h
      have hlt : k + 1 < endWord.length := by
        by_contra hge
        rw [List.take_of_length_le (by omega)] at h
        exact h (List.prefix_append _ _).isInfix
      have hr : read ⟨true, k, n⟩ c = ⟨true, k + 1, n⟩ := by
        simp only [read, word, if_true, hw, hlt]
      rw [hr]
      exact ih hlt h
    · by_cases hc : c = '<'
      · subst hc
        have hr : read ⟨true, k, n⟩ '<' = ⟨true, 1, n⟩ := by
          simp only [read, word, if_true, hw, if_false]
          rfl
        rw [hr]
        exact ih (by decide) (hsuffix _ (List.suffix_refl _))
      · have hr : read ⟨true, k, n⟩ c = ⟨true, 0, n⟩ := by
          simp only [read, word, if_true, hw, hc, if_false]
          rfl
        rw [hr]
        exact ih (by decide) (hsuffix _ (List.suffix_cons _ _))

theorem exists_foldl_read_of_not_endsScript (h : ¬ EndsScript s) (n : Nat) :
    ∃ m < endWord.length, s.foldl read ⟨true, 0, n⟩ = ⟨true, m, n⟩ :=
  exists_foldl_read_inside n (by decide) h

end Scan

end CellFlow.Page
