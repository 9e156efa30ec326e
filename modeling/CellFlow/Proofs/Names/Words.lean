import CellFlow.Proofs.Names.LineForms
import CellFlow.Proofs.Names.Merging

/-!
Words in what a cell reads: runs of word characters that go as far as such characters do. Each word that
starts like a name is reported by the name at its start, so a word that is a name is reported as a whole,
and one that goes on with characters that no name has is cut.
-/

set_option autoImplicit false

namespace CellFlow.Names

open CellFlow.Text

/-- A word in a text, with no word character next to it. -/
structure IsWordOf (w s : List Char) : Prop where
  ne_nil : w ≠ []
  isWord : ∀ c ∈ w, Text.isWord c = true
  alone : ∃ a b, s = a ++ (w ++ b) ∧ Ends Text.isWord a.reverse ∧ Ends Text.isWord b

/-- The name at the start of a word. -/
def leadingName? (w : List Char) : Option (List Char) := (takeName? w).map (·.1)

section Characters

variable {c : Char} {s w : List Char}

theorem isWord_of_isNameChar (h : isNameChar c = true) : Text.isWord c = true := by
  have hc : c.toNat < 0x80 := Nat.lt_of_le_of_lt (toNat_of_isNameChar h).2 (by decide)
  rw [Text.isWord, if_pos hc]
  exact h

theorem isNameStart_of_not_isWord (h : Text.isWord c = false) : isNameStart c = false := by
  refine Bool.eq_false_iff.2 fun hc => ?_
  rw [isWord_of_isNameChar (isNameChar_of_isNameStart hc)] at h
  cases h

theorem isNameChar_of_not_isWord (h : Text.isWord c = false) : isNameChar c = false := by
  refine Bool.eq_false_iff.2 fun hc => ?_
  rw [isWord_of_isNameChar hc] at h
  cases h

theorem leadingName?_cons (c : Char) (s : List Char) :
    leadingName? (c :: s) = if isNameStart c then some (c :: s.takeWhile isNameChar) else none := by
  rw [leadingName?, takeName?]
  split <;> rfl

theorem exists_of_leadingName? {name : List Char} (h : leadingName? w = some name) :
    isName name = true ∧ ∃ r, w = name ++ r := by
  obtain ⟨⟨name, r⟩, hw, rfl⟩ := Option.map_eq_some_iff.1 h
  obtain ⟨n, rfl, hn⟩ := exists_of_takeName? hw
  exact ⟨n.isName, r, hn⟩

theorem leadingName?_of_isName (h : isName w = true) : leadingName? w = some w := by
  have hw := takeName?_append ⟨w, h⟩ (s := []) (by simp [Ends])
  rw [List.append_nil] at hw
  rw [leadingName?, hw]
  rfl

end Characters

section Scanning

variable {a b current s t w : List Char} {afterWord : Bool} {c : Char}

theorem wordsFrom_nil_of_word (hw : ∀ c ∈ w, Text.isWord c = true) : wordsFrom true [] w = [] := by
  induction w with
  | nil => rfl
  | cons c w ih =>
    rw [List.forall_mem_cons] at hw
    rw [wordsFrom, hw.1]
    exact ih hw.2

theorem wordsFrom_of_word (hne : current ≠ []) (hw : ∀ c ∈ w, Text.isWord c = true) :
    wordsFrom true current w = [current.reverse ++ w.takeWhile isNameChar] := by
  have hempty {v : List Char} (hv : v ≠ []) : v.isEmpty = false := by simpa using hv
  induction w generalizing current with
  | nil => rw [wordsFrom, hempty hne, if_neg Bool.false_ne_true, List.takeWhile_nil, List.append_nil]
  | cons c w ih =>
    rw [List.forall_mem_cons] at hw
    rw [wordsFrom, hempty hne, if_neg Bool.false_ne_true]
    by_cases hc : isNameChar c = true
    · rw [if_pos hc, ih (List.cons_ne_nil c current) hw.2, List.takeWhile_cons_of_pos hc]
      simp
    · rw [if_neg hc, hw.1, wordsFrom_nil_of_word hw.2, List.takeWhile_cons_of_neg hc, List.append_nil]

theorem wordsIn_of_word (hw : ∀ c ∈ w, Text.isWord c = true) : wordsIn w = (leadingName? w).toList := by
  cases w with
  | nil => rfl
  | cons c w =>
    rw [List.forall_mem_cons] at hw
    rw [leadingName?_cons, wordsIn, wordsFrom]
    by_cases hc : isNameStart c = true
    · simp [hc, wordsFrom_of_word (List.cons_ne_nil c []) hw.2]
    · simp [hc, hw.1, wordsFrom_nil_of_word hw.2]

theorem wordsIn_cons_of_not_isWord (hc : Text.isWord c = false) (s : List Char) :
    wordsIn (c :: s) = wordsIn s := by
  simp [wordsIn, wordsFrom, isNameStart_of_not_isWord hc, hc]

/-- Whatever has been read before, a text that starts with no word character is read by itself. -/
theorem wordsFrom_of_ends (hs : Ends Text.isWord s) :
    wordsFrom afterWord current s = wordsFrom afterWord current [] ++ wordsIn s := by
  cases s with
  | nil => exact (List.append_nil _).symm
  | cons c s =>
    have hc : Text.isWord c = false := hs c rfl
    rw [wordsIn_cons_of_not_isWord hc, wordsIn]
    cases current with
    | nil => simp [wordsFrom, isNameStart_of_not_isWord hc, hc]
    | cons d current => simp [wordsFrom, isNameChar_of_not_isWord hc, hc]

theorem wordsFrom_append (hs : Ends Text.isWord s) :
    wordsFrom afterWord current (a ++ s) = wordsFrom afterWord current a ++ wordsIn s := by
  induction a generalizing afterWord current with
  | nil => exact wordsFrom_of_ends hs
  | cons c a ih =>
    rw [List.cons_append, wordsFrom, wordsFrom]
    split
    · split <;> exact ih
    · split
      · exact ih
      · rw [ih, List.cons_append]

/-- Between two texts that no word goes across, nothing is read but the words of both. -/
theorem wordsIn_append (h : Ends Text.isWord a.reverse ∨ Ends Text.isWord s) :
    wordsIn (a ++ s) = wordsIn a ++ wordsIn s := by
  rcases h with ha | hs
  · cases a using List.reverseRecOn with
    | nil => rfl
    | append_singleton a c =>
      have hc : Text.isWord c = false := ha c (by simp)
      have hbreak (t : List Char) : wordsIn (a ++ c :: t) = wordsIn a ++ wordsIn t := by
        rw [wordsIn, wordsFrom_append (ends_cons hc), wordsIn_cons_of_not_isWord hc]
        rfl
      have hnil : wordsIn [] = [] := rfl
      rw [List.append_assoc, List.singleton_append, hbreak s, hbreak [], hnil, List.append_nil]
  · exact wordsFrom_append hs

theorem IsWordOf.append_left (hw : IsWordOf w s) (h : Ends Text.isWord a.reverse ∨ Ends Text.isWord s) :
    IsWordOf w (a ++ s) := by
  obtain ⟨hne, hword, b, t, rfl, hb, ht⟩ := hw
  refine ⟨hne, hword, a ++ b, t, (List.append_assoc a b (w ++ t)).symm, ?_, ht⟩
  rw [List.reverse_append]
  cases b using List.reverseRecOn with
  | nil =>
    obtain ⟨c, w, rfl⟩ := List.exists_cons_of_ne_nil hne
    rcases h with ha | hs
    · exact ha
    · have hc := hword c List.mem_cons_self
      rw [hs c rfl] at hc
      cases hc
  | append_singleton b c =>
    rw [List.reverse_append] at hb ⊢
    exact ends_cons (hb c rfl)

theorem exists_word_append (hc : Text.isWord c = true) (s : List Char) :
    ∃ w b, c :: s = w ++ b ∧ b.length ≤ s.length ∧ IsWordOf w (c :: s) ∧ Ends Text.isWord b := by
  have hends : Ends Text.isWord ((c :: s).dropWhile Text.isWord) := by
    intro d hd
    have hdrop := List.head?_dropWhile_not Text.isWord (c :: s)
    rwa [Option.mem_def.1 hd] at hdrop
  have hsplit : (c :: s).takeWhile Text.isWord ++ (c :: s).dropWhile Text.isWord = c :: s :=
    List.takeWhile_append_dropWhile
  refine ⟨_, _, hsplit.symm, ?_, ⟨by simp [hc], fun d hd => List.mem_takeWhile_imp hd, [], _, hsplit.symm,
    by simp [Ends], hends⟩, hends⟩
  rw [List.dropWhile_cons_of_pos hc]
  exact List.length_dropWhile_le _ s

/-- The names that are read in a text are those at the start of its words. -/
theorem mem_wordsIn {name : List Char} :
    name ∈ wordsIn s ↔ ∃ w, IsWordOf w s ∧ leadingName? w = some name := by
  constructor
  · -- by the length of the text: a word is passed in one step
    induction hn : s.length using Nat.strong_induction_on generalizing s with
    | _ n ih =>
      subst hn
      intro h
      cases s with
      | nil => cases h
      | cons c s =>
        by_cases hc : Text.isWord c = true
        · obtain ⟨w, b, hs, hlen, hw, hb⟩ := exists_word_append hc s
          rw [hs, wordsIn_append (.inr hb), wordsIn_of_word hw.isWord, List.mem_append, Option.mem_toList] at h
          rcases h with h | h
          · exact ⟨w, hw, h⟩
          · obtain ⟨v, hv, hname⟩ := ih b.length (Nat.lt_succ_of_le hlen) rfl h
            exact ⟨v, hs ▸ hv.append_left (.inr hb), hname⟩
        · rw [Bool.not_eq_true] at hc
          rw [wordsIn_cons_of_not_isWord hc] at h
          obtain ⟨w, hw, hname⟩ := ih s.length (Nat.lt_succ_self _) rfl h
          exact ⟨w, hw.append_left (a := [c]) (.inl (ends_cons hc)), hname⟩
  · rintro ⟨w, ⟨-, hword, a, b, rfl, ha, hb⟩, hname⟩
    rw [wordsIn_append (.inl ha), wordsIn_append (.inr hb), wordsIn_of_word hword, hname]
    simp

/-- What is read in a text are names that stand in it. -/
theorem of_mem_wordsIn {name : List Char} (h : name ∈ wordsIn s) : isName name = true ∧ name <:+: s := by
  obtain ⟨w, ⟨-, -, a, b, rfl, -, -⟩, hname⟩ := mem_wordsIn.1 h
  obtain ⟨hn, r, rfl⟩ := exists_of_leadingName? hname
  exact ⟨hn, a, r ++ b, by simp⟩

end Scanning

/-- The clean lines of a source; one that is no text has none. -/
def linesRead (source : Value) : List (List Char) := ((sourceText? source).map linesOf).getD []

namespace Rules

variable {r : Rules} {source : Value} {x : String}

theorem extract_eq_namesOf (r : Rules) (source : Value) : r.extract source = r.namesOf (linesRead source) := by
  rw [extract, linesRead]
  cases sourceText? source with
  | none => rfl
  | some s => rfl

/-- What is scanned for names: of each line that is no magic, the part behind its targets. -/
def remainders (r : Rules) (source : Value) : List (List Char) := (r.readings (linesRead source)).map (·.rest)

/-- A word in what is scanned of a source. -/
def HasWord (r : Rules) (source : Value) (w : List Char) : Prop := ∃ t ∈ r.remainders source, IsWordOf w t

/-- A name that the cell does not assign, and that is not left out. -/
def Admits (r : Rules) (source : Value) (x : String) : Prop := x ∉ (r.extract source).assigned ∧ x ∉ r.excluded

/-- The used names are the words that are names, without those assigned or left out. -/
def UsesWholeWords (r : Rules) (source : Value) : Prop :=
  ∀ x, x ∈ (r.extract source).used ↔ (r.HasWord source x.toList ∧ isName x.toList = true) ∧ r.Admits source x

theorem mem_used_iff_exists_word : x ∈ (r.extract source).used ↔
    (∃ w, r.HasWord source w ∧ leadingName? w = some x.toList) ∧ r.Admits source x := by
  have hmem : x ∈ (r.extract source).used ↔ (∃ t ∈ r.remainders source, ∃ v ∈ wordsIn t, String.ofList v = x) ∧
      r.Admits source x := by
    rw [Admits, extract_eq_namesOf]
    simp only [namesOf, ofReadings, wordsRead, remainders, NameSet.mem_ofList, List.mem_filter, decide_eq_true_eq,
      List.map_flatMap, List.mem_flatMap, List.mem_map, exists_exists_and_eq_and]
  rw [hmem]
  refine and_congr_left fun _ => ?_
  constructor
  · rintro ⟨t, ht, v, hv, rfl⟩
    obtain ⟨w, hw, hname⟩ := mem_wordsIn.1 hv
    exact ⟨w, ⟨t, ht, hw⟩, by rw [hname, String.toList_ofList]⟩
  · rintro ⟨w, ⟨t, ht, hw⟩, hname⟩
    exact ⟨t, ht, x.toList, mem_wordsIn.2 ⟨w, hw, hname⟩, String.ofList_toList⟩

/-- A name is used when a word starts with it, as far as the characters of the word are those of names, and
neither the cell assigns it nor it is left out. So the used names are whole words exactly if each of these
starts stands as a word of its own, too. -/
theorem uses_startsOfWords (r : Rules) (source : Value) :
    (∀ x, x ∈ (r.extract source).used ↔
      (∃ w, r.HasWord source w ∧ leadingName? w = some x.toList) ∧ r.Admits source x) ∧
    (r.UsesWholeWords source ↔ ∀ w x, r.HasWord source w → leadingName? w = some x.toList → r.Admits source x →
      r.HasWord source x.toList) := by
  refine ⟨fun x => mem_used_iff_exists_word, fun h w x hw hname hx => ?_, fun h x => ?_⟩
  · exact ((h x).1 (mem_used_iff_exists_word.2 ⟨⟨w, hw, hname⟩, hx⟩)).1.1
  · rw [mem_used_iff_exists_word]
    refine and_congr_left fun hx => ?_
    constructor
    · rintro ⟨w, hw, hname⟩
      exact ⟨h w x hw hname hx, (exists_of_leadingName? hname).1⟩
    · rintro ⟨hw, hname⟩
      exact ⟨x.toList, hw, leadingName?_of_isName hname⟩

/-- A number with letters behind its digits, and a word that is cut to a name that stands there by itself. -/
theorem uses_startsOfWords_twice :
    let r : Rules := ⟨true, reserved⟩
    let source : Value := .text "y = 1e5 + gr + größe"
    r.UsesWholeWords source ∧ (r.extract source).used = .ofList ["gr"] := by
  intro r source
  have hread : r.remainders source = [" 1e5 + gr + größe".toList] := by decide +kernel
  have hwords : wordsIn " 1e5 + gr + größe".toList = ["gr".toList, "gr".toList] := by decide +kernel
  have hgr : r.HasWord source "gr".toList := by
    have hword : ∀ c ∈ "gr".toList, Text.isWord c = true := List.all_eq_true.1 (by decide)
    refine ⟨" 1e5 + gr + größe".toList, by rw [hread]; exact List.mem_singleton_self _, by decide, hword,
      " 1e5 + ".toList, " + größe".toList, rfl, ?_, ?_⟩
    · exact ends_cons (c := ' ') (by decide)
    · exact ends_cons (c := ' ') (by decide)
  refine ⟨(uses_startsOfWords r source).2.2 fun w x hw hname _ => ?_, by decide +kernel⟩
  obtain ⟨t, ht, hw⟩ := hw
  rw [hread, List.mem_singleton] at ht
  subst ht
  have hx : x.toList ∈ wordsIn " 1e5 + gr + größe".toList := mem_wordsIn.2 ⟨w, hw, hname⟩
  rw [hwords] at hx
  have hx : x.toList = "gr".toList := by simpa using hx
  rwa [hx]

/-- The last character of the word is no character of a name, so the word is cut in front of it. -/
theorem not_usesWholeWords : ¬ (Rules.mk true reserved).UsesWholeWords (.text "y = café") := by
  intro h
  have hused : "caf" ∈ ((Rules.mk true reserved).extract (.text "y = café")).used := by decide +kernel
  have hread : (Rules.mk true reserved).remainders (.text "y = café") = [" café".toList] := by decide +kernel
  obtain ⟨⟨t, ht, hw⟩, -⟩ := ((h "caf").1 hused).1
  rw [hread, List.mem_singleton] at ht
  obtain ⟨-, -, a, b, hs, -, hb⟩ := ht ▸ hw
  have hs : a ++ 'c' :: 'a' :: 'f' :: b = [' ', 'c', 'a', 'f', 'é'] := hs.symm
  rcases a with _ | ⟨d, _ | ⟨e, a⟩⟩
  · cases hs
  · cases hs
    exact absurd (hb 'é' rfl) (by decide +kernel)
  · have hc : 'c' ∈ ['a', 'f', 'é'] := by
      rw [← (List.cons.inj (List.cons.inj hs).2).2]
      simp
    exact absurd hc (by decide)

end Rules

end CellFlow.Names
