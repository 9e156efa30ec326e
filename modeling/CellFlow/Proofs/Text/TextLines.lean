import CellFlow.Text.Blank
import CellFlow.Text.Search
import Mathlib.Data.List.TakeWhile

/-!
The lines of a text, and the lines with text in them, which trimming does not change.
-/

set_option autoImplicit false

namespace CellFlow.Text

theorem splitAt_eq (sep : Char) (piece s : List Char) :
    splitAt sep piece s = (s.splitOn sep).modifyHead (piece.reverse ++ ·) := by
  induction s generalizing piece with
  | nil => simp [splitAt]
  | cons c s ih =>
    rw [splitAt, List.splitOn_cons_eq_if_modifyHead]
    obtain ⟨first, rest, hs⟩ := List.exists_cons_of_ne_nil (List.splitOn_ne_nil sep s)
    by_cases h : c = sep
    · simp [h, ih, hs]
    · simp [h, ih, hs]

theorem splitOn_eq (sep : Char) (s : List Char) : splitOn sep s = s.splitOn sep := by
  obtain ⟨first, rest, hs⟩ := List.exists_cons_of_ne_nil (List.splitOn_ne_nil sep s)
  rw [splitOn, splitAt_eq, hs]
  rfl

/-- No piece goes over a separator. -/
theorem not_mem_of_mem_splitOn {sep : Char} {s l : List Char} (h : l ∈ splitOn sep s) : sep ∉ l := by
  rw [splitOn_eq] at h
  induction s generalizing l with
  | nil => simp_all
  | cons c s ih =>
    rw [List.splitOn_cons_eq_if_modifyHead] at h
    obtain ⟨first, rest, hs⟩ := List.exists_cons_of_ne_nil (List.splitOn_ne_nil sep s)
    rw [hs] at h ih
    by_cases hc : c = sep
    · rw [if_pos (beq_iff_eq.2 hc), List.mem_cons] at h
      rcases h with rfl | h
      · exact List.not_mem_nil
      · exact ih h
    · rw [if_neg (by simpa using hc), List.modifyHead_cons, List.mem_cons] at h
      rcases h with rfl | h
      · rw [List.mem_cons, not_or]
        exact ⟨fun he => hc he.symm, ih List.mem_cons_self⟩
      · exact ih (List.mem_cons_of_mem _ h)

/-- The lines of a text, without their ends. -/
def lines (s : List Char) : List (List Char) := splitOn '\n' s

/-- Lines put together again. -/
def unlines (ls : List (List Char)) : List Char := ['\n'].intercalate ls

theorem unlines_cons_cons (l m : List Char) (ls : List (List Char)) :
    unlines (l :: m :: ls) = l ++ '\n' :: unlines (m :: ls) := by simp [unlines]

theorem unlines_lines (s : List Char) : unlines (lines s) = s := by
  rw [unlines, lines, splitOn_eq, List.intercalate_splitOn]

theorem lines_ne_nil (s : List Char) : lines s ≠ [] := by
  rw [lines, splitOn_eq]
  exact List.splitOn_ne_nil _ s

theorem lines_append_newline (s t : List Char) : lines (s ++ '\n' :: t) = lines s ++ lines t := by
  rw [lines, lines, lines, splitOn_eq, splitOn_eq, splitOn_eq, List.splitOn_append_cons_self]

theorem lines_of_not_mem {l : List Char} (h : '\n' ∉ l) : lines l = [l] := by
  rw [lines, splitOn_eq, List.splitOn_eq_singleton h]

theorem newline_not_mem_of_mem_lines {s l : List Char} (h : l ∈ lines s) : '\n' ∉ l :=
  not_mem_of_mem_splitOn h

theorem sublist_of_mem_lines {s l : List Char} (h : l ∈ lines s) : l.Sublist s := by
  suffices hls : ∀ ls : List (List Char), l ∈ ls → l.Sublist (unlines ls) by
    rw [← unlines_lines s]
    exact hls (lines s) h
  intro ls hl
  induction ls with
  | nil => cases hl
  | cons k ls ih =>
    cases ls with
    | nil =>
      rw [List.mem_singleton] at hl
      simp [unlines, hl]
    | cons m ls =>
      rw [unlines_cons_cons]
      rcases List.mem_cons.1 hl with rfl | hl
      · exact List.sublist_append_left l _
      · exact (ih hl).trans ((List.sublist_cons_self _ _).trans (List.sublist_append_right k _))

theorem lines_unlines {ls : List (List Char)} (h : ∀ l ∈ ls, '\n' ∉ l) (hne : ls ≠ []) :
    lines (unlines ls) = ls := by
  rw [lines, splitOn_eq, unlines, List.splitOn_intercalate '\n' h hne]

section Trimming

variable {s before behind : List Char}

theorem trim_eq_nil_iff : trim s = [] ↔ ∀ c ∈ s, isBlank c = true := by
  rw [trim, List.reverse_eq_nil_iff, List.dropWhile_eq_nil_iff]
  constructor
  · intro h
    cases hs : s.dropWhile isBlank with
    | nil => exact List.dropWhile_eq_nil_iff.1 hs
    | cons c t =>
      have hne : s.dropWhile isBlank ≠ [] := by simp [hs]
      have hc : isBlank ((s.dropWhile isBlank).head hne) = false := List.head_dropWhile_not isBlank hne
      rw [h _ (List.mem_reverse.2 (List.head_mem hne))] at hc
      cases hc
  · intro h c hc
    rw [List.dropWhile_eq_nil_iff.2 h] at hc
    cases hc

theorem trim_append_before (h : ∀ c ∈ before, isBlank c = true) : trim (before ++ s) = trim s := by
  rw [trim, List.dropWhile_append_of_pos h, trim]

theorem trim_append_behind (h : ∀ c ∈ behind, isBlank c = true) : trim (s ++ behind) = trim s := by
  by_cases hs : ∀ c ∈ s, isBlank c = true
  · rw [trim_append_before hs, trim_eq_nil_iff.2 h, trim_eq_nil_iff.2 hs]
  · have hne : (s.dropWhile isBlank).isEmpty = false := by
      rw [List.isEmpty_eq_false_iff, ne_eq, List.dropWhile_eq_nil_iff]
      exact hs
    rw [trim, List.dropWhile_append, hne, if_neg Bool.false_ne_true, List.reverse_append,
      List.dropWhile_append_of_pos fun c hc => h c (List.mem_reverse.1 hc), trim]

theorem exists_eq_trim (s : List Char) : ∃ before behind, (∀ c ∈ before, isBlank c = true) ∧
    (∀ c ∈ behind, isBlank c = true) ∧ s = before ++ (trim s ++ behind) := by
  refine ⟨s.takeWhile isBlank, ((s.dropWhile isBlank).reverse.takeWhile isBlank).reverse,
    fun c hc => List.mem_takeWhile_imp hc, fun c hc => List.mem_takeWhile_imp (List.mem_reverse.1 hc), ?_⟩
  rw [trim, ← List.reverse_append, List.takeWhile_append_dropWhile, List.reverse_reverse,
    List.takeWhile_append_dropWhile]

end Trimming

/-- The lines of a text that are not blank, each without the blanks around it. -/
def textLines (s : List Char) : List (List Char) := ((lines s).map trim).filter fun l => !l.isEmpty

section TextLines

variable {s l before behind : List Char}

theorem textLines_append_newline (s t : List Char) :
    textLines (s ++ '\n' :: t) = textLines s ++ textLines t := by
  rw [textLines, lines_append_newline, List.map_append, List.filter_append, textLines, textLines]

theorem textLines_of_not_mem (h : '\n' ∉ l) : textLines l = [trim l].filter fun l => !l.isEmpty := by
  rw [textLines, lines_of_not_mem h, List.map_singleton]

theorem textLines_append_before (h : ∀ c ∈ before, isBlank c = true) :
    textLines (before ++ s) = textLines s := by
  induction before with
  | nil => rfl
  | cons c before ih =>
    have hc := h c List.mem_cons_self
    have hs := ih fun d hd => h d (List.mem_cons_of_mem c hd)
    rw [← hs, List.cons_append]
    generalize before ++ s = t
    rw [textLines, textLines, lines, lines, splitOn_eq, splitOn_eq, List.splitOn_cons_eq_if_modifyHead]
    obtain ⟨first, rest, ht⟩ := List.exists_cons_of_ne_nil (List.splitOn_ne_nil '\n' t)
    rw [ht]
    split
    · rfl
    · rw [List.modifyHead_cons, List.map_cons, List.map_cons]
      rw [show c :: first = [c] ++ first from rfl, trim_append_before (by simpa using hc)]

theorem textLines_eq_nil (h : ∀ c ∈ s, isBlank c = true) : textLines s = [] := by
  have ht := textLines_append_before (s := []) h
  rw [List.append_nil] at ht
  rw [ht]
  rfl

theorem textLines_line_append_behind (hl : '\n' ∉ l) (h : ∀ c ∈ behind, isBlank c = true) :
    textLines (l ++ behind) = textLines l := by
  by_cases hn : '\n' ∈ behind
  · obtain ⟨a, b, rfl, ha⟩ := List.eq_append_cons_of_mem hn
    have hla : '\n' ∉ l ++ a := by simp [hl, ha]
    rw [← List.append_assoc, textLines_append_newline, textLines_of_not_mem hla, textLines_of_not_mem hl,
      trim_append_behind fun c hc => h c (by simp [hc]), textLines_eq_nil fun c hc => h c (by simp [hc]),
      List.append_nil]
  · have hlb : '\n' ∉ l ++ behind := by simp [hl, hn]
    rw [textLines_of_not_mem hlb, textLines_of_not_mem hl, trim_append_behind h]

theorem textLines_append_behind (h : ∀ c ∈ behind, isBlank c = true) :
    textLines (s ++ behind) = textLines s := by
  -- The induction runs over the lines; the line that has been read so far is kept in front.
  suffices hl : ∀ l : List Char, '\n' ∉ l → textLines (l ++ (s ++ behind)) = textLines (l ++ s) from
    hl [] List.not_mem_nil
  induction s with
  | nil =>
    intro l hl
    rw [List.nil_append, List.append_nil, textLines_line_append_behind hl h]
  | cons c s ih =>
    intro l hl
    by_cases hc : c = '\n'
    · subst hc
      have hs := ih [] List.not_mem_nil
      rw [List.nil_append, List.nil_append] at hs
      rw [List.cons_append, textLines_append_newline, textLines_append_newline, hs]
    · have hlc : '\n' ∉ l ++ [c] := by simp [hl, Ne.symm hc]
      have hs := ih (l ++ [c]) hlc
      rwa [List.append_assoc, List.append_assoc] at hs

/-- Trimming a text takes no text from its lines. -/
theorem textLines_trim (s : List Char) : textLines (trim s) = textLines s := by
  obtain ⟨before, behind, hbefore, hbehind, hs⟩ := exists_eq_trim s
  rw [hs, textLines_append_before hbefore, textLines_append_behind hbehind, ← hs]

theorem textLines_unlines {ls : List (List Char)} (h : ∀ l ∈ ls, '\n' ∉ l) :
    textLines (unlines ls) = (ls.map trim).filter fun l => !l.isEmpty := by
  by_cases hne : ls = []
  · subst hne
    rfl
  · rw [textLines, lines_unlines h hne]

end TextLines

end CellFlow.Text
