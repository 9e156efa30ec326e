import CellFlow.Notebook.Script
import CellFlow.Proofs.Text.TextLines
import Mathlib.Data.List.Forall2
import Mathlib.Data.List.Infix

/-!
Scripts read line by line: a marker is a line, its tag stands on it, and cells are the blocks of
lines between markers. This is what cutting at markers comes to as long as there are only spaces
and tabs between the parts of a marker; over a line end, a marker takes lines of code with it.
-/

set_option autoImplicit false

namespace CellFlow.Notebook.Script

/-- A space or a tab. -/
def isGap (c : Char) : Bool := c == ' ' || c == '\t'

/-- What follows the percent signs of a marker, when the text starts with one whose number sign
has only gaps behind it. -/
def afterPercents? (gap : Char → Bool) : List Char → Option (List Char)
  | '#' :: s =>
    match s.dropWhile gap with
    | '%' :: '%' :: t => some t
    | _ => none
  | _ => none

/-- The tag in brackets that a text starts with, behind gaps, and what follows it. -/
def bracketed? (gap : Char → Bool) (s : List Char) : Option (List Char × List Char) :=
  match s.dropWhile gap with
  | '[' :: t => (Text.splitFirst? [']'] t).filter fun p => p.1.all isInLine
  | _ => none

def isMarker (line : List Char) : Bool := (afterPercents? isGap line).isSome

/-- The tag behind the percent signs of a marker line, empty when there is none. -/
def tagIn (tail : List Char) : List Char := ((bracketed? isGap tail).map (·.1)).getD []

def isProseTag (tag : List Char) : Bool := Text.lowered (Text.trimmed (String.ofList tag)) = "markdown"

def isProseMarker (line : List Char) : Bool :=
  (afterPercents? isGap line).any fun tail => isProseTag (tagIn tail)

/-- The lines up to the first marker, and every marker with the lines up to the next one. -/
structure Blocks where
  opening : List (List Char)
  marked : List (List Char × List (List Char))

def blocks : List (List Char) → Blocks
  | [] => ⟨[], []⟩
  | l :: ls =>
    let b := blocks ls
    if isMarker l then ⟨[], (l, b.opening) :: b.marked⟩ else ⟨l :: b.opening, b.marked⟩

/-- The blocks that are not prose. -/
def Blocks.code (b : Blocks) : List (List (List Char)) :=
  b.opening :: (b.marked.filter fun m => !isProseMarker m.1).map (·.2)

def Blocks.texts (b : Blocks) : List (List Char) := b.code.map fun ls => Text.trim (Text.unlines ls)

def cellsByLine (content : String) : List Cell :=
  number (((blocks (Text.lines content.toList)).texts.filter (!·.isEmpty)).map String.ofList)

/-- The lines that are neither markers nor prose. -/
def codeLines (isProse : Bool) : List (List Char) → List (List Char)
  | [] => []
  | l :: ls =>
    if isMarker l then codeLines (isProseMarker l) ls
    else if isProse then codeLines isProse ls else l :: codeLines isProse ls

/-- A text that does not start with a marker whose parts are further apart than gaps are. -/
def KeepsToLine (s : List Char) : Prop :=
  afterPercents? Text.isBlank s = afterPercents? isGap s ∧
    ∀ t ∈ afterPercents? isGap s, bracketed? Text.isBlank t = bracketed? isGap t

instance (s : List Char) : Decidable (KeepsToLine s) := inferInstanceAs (Decidable (_ ∧ _))

/-- In every marker of a script there are only spaces and tabs between the number sign and the
percent signs, and between these and the tag. -/
def KeepsToLines (content : String) : Prop :=
  ∀ ls ∈ (Text.lines content.toList).tails, KeepsToLine (Text.unlines ls)

instance (content : String) : Decidable (KeepsToLines content) :=
  inferInstanceAs (Decidable (∀ ls ∈ _, _))

section Reading

variable {gap : Char → Bool} {l s t tail tag rest : List Char}

theorem dropWhile_eq_cons_iff {c : Char} (hc : gap c = false) :
    s.dropWhile gap = c :: t ↔ ∃ w, (∀ a ∈ w, gap a = true) ∧ s = w ++ c :: t := by
  constructor
  · intro h
    refine ⟨s.takeWhile gap, fun a ha => List.mem_takeWhile_imp ha, ?_⟩
    rw [← h, List.takeWhile_append_dropWhile]
  · intro h
    obtain ⟨w, hw, rfl⟩ := h
    rw [List.dropWhile_append_of_pos hw, List.dropWhile_cons_of_neg (by simp [hc])]

theorem afterPercents?_eq_some_iff (hp : gap '%' = false) : afterPercents? gap s = some t ↔
    ∃ w, (∀ a ∈ w, gap a = true) ∧ s = '#' :: (w ++ '%' :: '%' :: t) := by
  constructor
  · intro h
    unfold afterPercents? at h
    split at h
    · split at h
      · rename_i u hu
        obtain rfl := Option.some.inj h
        obtain ⟨w, hw, rfl⟩ := (dropWhile_eq_cons_iff hp).1 hu
        exact ⟨w, hw, rfl⟩
      · cases h
    · cases h
  · intro h
    obtain ⟨w, hw, rfl⟩ := h
    simp only [afterPercents?, (dropWhile_eq_cons_iff hp).2 ⟨w, hw, rfl⟩]

theorem splitFirst?_bracket : Text.splitFirst? [']'] s = some (tag, rest) ↔
    s = tag ++ ']' :: rest ∧ ']' ∉ tag := by
  induction s generalizing tag with
  | nil => simp [Text.splitFirst?]
  | cons c s ih =>
    rw [Text.splitFirst?]
    by_cases hc : c = ']'
    · subst hc
      cases tag with
      | nil => simp
      | cons d tag => simp +contextual [eq_comm]
    · cases tag with
      | nil => simp [hc, Ne.symm hc]
      | cons d tag => simp [Ne.symm hc, ih]; grind

theorem bracketed?_eq_some_iff (hp : gap '[' = false) : bracketed? gap s = some (tag, rest) ↔
    ∃ w, (∀ a ∈ w, gap a = true) ∧ s = w ++ '[' :: (tag ++ ']' :: rest) ∧ ']' ∉ tag ∧ '\n' ∉ tag := by
  have hline : tag.all isInLine = true ↔ '\n' ∉ tag := by
    simp [isInLine, List.all_eq_true]
    grind
  constructor
  · intro h
    unfold bracketed? at h
    split at h
    · rename_i u hu
      obtain ⟨hs, ht⟩ := Option.filter_eq_some_iff.1 h
      obtain ⟨hs, hb⟩ := splitFirst?_bracket.1 hs
      subst hs
      obtain ⟨w, hw, rfl⟩ := (dropWhile_eq_cons_iff hp).1 hu
      exact ⟨w, hw, rfl, hb, hline.1 ht⟩
    · cases h
  · intro h
    obtain ⟨w, hw, rfl, hb, ht⟩ := h
    rw [bracketed?, (dropWhile_eq_cons_iff hp).2 ⟨w, hw, rfl⟩]
    exact Option.filter_eq_some_iff.2 ⟨splitFirst?_bracket.2 ⟨rfl, hb⟩, hline.2 ht⟩

theorem readTag_eq (s : List Char) : readTag s = (bracketed? Text.isBlank s).getD ([], s) := by
  unfold readTag
  split
  · rename_i t hs
    simp only [bracketed?, hs]
    cases Text.splitFirst? [']'] t with
    | none => rfl
    | some p =>
      by_cases ht : p.1.all isInLine = true
      · simp [ht, Option.filter]
      · simp [ht, Option.filter]
  · simp only [bracketed?]
    rfl

theorem readMarker?_eq (s : List Char) : readMarker? s =
    (afterPercents? Text.isBlank s).map fun t => ((readTag t).1, (readTag t).2.dropWhile isInLine) := by
  unfold readMarker?
  split
  · rename_i s
    split
    · rename_i t ht
      simp only [afterPercents?, ht, Option.map_some]
    · simp only [afterPercents?]
      rfl
  · simp only [afterPercents?]
    rfl

/-- The text behind a line: nothing, or a line end and the lines that follow. -/
def AtLineEnd (s : List Char) : Prop := s = [] ∨ ∃ t, s = '\n' :: t

theorem AtLineEnd.exists_of_append (h : AtLineEnd tail) {w : List Char} (hw : '\n' ∉ w)
    (he : l ++ tail = w ++ s) : ∃ t, l = w ++ t ∧ s = t ++ tail := by
  rcases List.append_eq_append_iff.1 he with ⟨a, rfl, ha⟩ | ht
  · cases a with
    | nil => exact ⟨[], by simp, by simpa using ha.symm⟩
    | cons c a =>
      rcases h with rfl | ⟨t, rfl⟩
      · cases ha
      · obtain ⟨rfl, -⟩ := List.cons_eq_cons.1 ha
        exact absurd (by simp) hw
  · exact ht

theorem AtLineEnd.dropWhile_isInLine (h : AtLineEnd tail) (hl : '\n' ∉ l) :
    (l ++ tail).dropWhile isInLine = tail := by
  have hp : ∀ c ∈ l, isInLine c = true := by
    intro c hc
    rw [isInLine, bne_iff_ne]
    rintro rfl
    exact hl hc
  rw [List.dropWhile_append_of_pos hp]
  rcases h with rfl | ⟨t, rfl⟩
  · rfl
  · rfl

theorem newline_not_mem_of_isGap {w : List Char} (hw : ∀ c ∈ w, isGap c = true) : '\n' ∉ w := by
  intro hm
  cases hw _ hm

theorem AtLineEnd.afterPercents?_append (h : AtLineEnd tail) (l : List Char) :
    afterPercents? isGap (l ++ tail) = (afterPercents? isGap l).map (· ++ tail) := by
  refine Option.ext fun t => ?_
  rw [Option.map_eq_some_iff, afterPercents?_eq_some_iff rfl]
  constructor
  · intro ht
    obtain ⟨w, hw, he⟩ := ht
    have hn : '\n' ∉ '#' :: (w ++ ['%', '%']) := by simp [newline_not_mem_of_isGap hw]
    have he : l ++ tail = ('#' :: (w ++ ['%', '%'])) ++ t := by simp [he]
    obtain ⟨u, rfl, rfl⟩ := h.exists_of_append hn he
    exact ⟨u, (afterPercents?_eq_some_iff rfl).2 ⟨w, hw, by simp⟩, rfl⟩
  · intro ht
    obtain ⟨u, hu, rfl⟩ := ht
    obtain ⟨w, hw, rfl⟩ := (afterPercents?_eq_some_iff rfl).1 hu
    exact ⟨w, hw, by simp⟩

theorem AtLineEnd.bracketed?_append (h : AtLineEnd tail) (l : List Char) :
    bracketed? isGap (l ++ tail) = (bracketed? isGap l).map fun p => (p.1, p.2 ++ tail) := by
  refine Option.ext fun p => ?_
  obtain ⟨tag, rest⟩ := p
  rw [Option.map_eq_some_iff, bracketed?_eq_some_iff rfl]
  constructor
  · intro ht
    obtain ⟨w, hw, he, hb, ht⟩ := ht
    have hn : '\n' ∉ w ++ '[' :: (tag ++ [']']) := by simp [newline_not_mem_of_isGap hw, ht]
    have he : l ++ tail = (w ++ '[' :: (tag ++ [']'])) ++ rest := by simp [he]
    obtain ⟨u, rfl, rfl⟩ := h.exists_of_append hn he
    exact ⟨(tag, u), (bracketed?_eq_some_iff rfl).2 ⟨w, hw, by simp, hb, ht⟩, rfl⟩
  · intro ht
    obtain ⟨⟨tag', u⟩, hu, he⟩ := ht
    obtain ⟨rfl, rfl⟩ := Prod.mk.inj he
    obtain ⟨w, hw, rfl, hb, ht⟩ := (bracketed?_eq_some_iff rfl).1 hu
    exact ⟨w, hw, by simp, hb, ht⟩

/-- A marker that keeps to its line takes that line, and nothing else. -/
theorem AtLineEnd.readMarker?_append (h : AtLineEnd tail) (hl : '\n' ∉ l) (hk : KeepsToLine (l ++ tail)) :
    readMarker? (l ++ tail) = (afterPercents? isGap l).map fun t => (tagIn t, tail) := by
  rw [readMarker?_eq, hk.1, h.afterPercents?_append]
  cases ha : afterPercents? isGap l with
  | none => rfl
  | some t =>
    have hm : t ++ tail ∈ afterPercents? isGap (l ++ tail) := by
      rw [h.afterPercents?_append, ha]
      rfl
    have ht : '\n' ∉ t := by
      obtain ⟨w, -, rfl⟩ := (afterPercents?_eq_some_iff rfl).1 ha
      intro hn
      exact hl (by simp [hn])
    rw [Option.map_some, Option.map_some, Option.map_some, readTag_eq, hk.2 _ hm, h.bracketed?_append, tagIn]
    cases hb : bracketed? isGap t with
    | none => exact congrArg (fun s => some (([] : List Char), s)) (h.dropWhile_isInLine ht)
    | some p =>
      obtain ⟨tag, rest⟩ := p
      have hr : '\n' ∉ rest := by
        obtain ⟨w, -, rfl, -⟩ := (bracketed?_eq_some_iff rfl).1 hb
        intro hn
        exact ht (by simp [hn])
      exact congrArg (fun s => some (tag, s)) (h.dropWhile_isInLine hr)

end Reading

section Cutting

variable {l s tail tag rest : List Char}

def Parts.push (w : List Char) (p : Parts) : Parts := ⟨w ++ p.preamble, p.sections⟩

theorem cut_nil (lineStart : Bool) : cut lineStart [] = ⟨[], []⟩ := by
  rw [cut]

theorem cut_cons {lineStart : Bool} {c : Char} (h : markerAt? lineStart (c :: s) = none) :
    cut lineStart (c :: s) = (cut (c == '\n') s).push [c] := by
  rw [cut]
  split
  · rename_i hm
    rw [h] at hm
    cases hm
  · rfl

theorem cut_marker (h : readMarker? s = some (tag, rest)) :
    cut true s = ⟨[], ⟨tag, (cut false rest).preamble⟩ :: (cut false rest).sections⟩ := by
  cases s with
  | nil => cases h
  | cons c s =>
    rw [cut]
    split
    · rename_i hm
      obtain ⟨rfl, rfl⟩ := Prod.mk.inj (Option.some.inj (hm.symm.trans h))
      rfl
    · rename_i hm
      cases hm.symm.trans h

theorem cut_false_append (hl : '\n' ∉ l) : cut false (l ++ tail) = (cut false tail).push l := by
  induction l with
  | nil => rfl
  | cons c l ih =>
    rw [List.mem_cons, not_or] at hl
    have hc : (c == '\n') = false := by simpa using Ne.symm hl.1
    rw [List.cons_append, cut_cons rfl, hc, ih hl.2]
    rfl

theorem AtLineEnd.cut_append (h : AtLineEnd tail) (hl : '\n' ∉ l) (hm : readMarker? (l ++ tail) = none) :
    cut true (l ++ tail) = (cut false tail).push l := by
  cases l with
  | nil =>
    rcases h with rfl | ⟨t, rfl⟩
    · rw [List.nil_append, cut_nil, cut_nil]
      rfl
    · rw [List.nil_append, cut_cons rfl, cut_cons rfl]
      rfl
  | cons c l =>
    rw [List.mem_cons, not_or] at hl
    have hc : (c == '\n') = false := by simpa using Ne.symm hl.1
    have hm : markerAt? true (c :: (l ++ tail)) = none := hm
    rw [List.cons_append, cut_cons hm, hc, cut_false_append hl.2]
    rfl

end Cutting

/-- The end of a line and the lines behind it. -/
def behindLine : List (List Char) → List Char
  | [] => []
  | l :: ls => '\n' :: Text.unlines (l :: ls)

theorem unlines_cons (l : List Char) (ls : List (List Char)) :
    Text.unlines (l :: ls) = l ++ behindLine ls := by
  cases ls with
  | nil => simp [Text.unlines, behindLine]
  | cons m ls => simp [Text.unlines, behindLine]

theorem atLineEnd_behindLine (ls : List (List Char)) : AtLineEnd (behindLine ls) := by
  cases ls with
  | nil => exact .inl rfl
  | cons m ls => exact .inr ⟨_, rfl⟩

/-- Parts that are made of the lines of blocks, up to blanks around them. -/
structure Parts.AreOf (p : Parts) (b : Blocks) : Prop where
  opening : ∃ behind, (∀ c ∈ behind, Text.isBlank c = true) ∧
    p.preamble = Text.unlines b.opening ++ behind
  sections : List.Forall₂ (fun s m => s.isProse = isProseMarker m.1 ∧
    Text.trim s.body = Text.trim (Text.unlines m.2)) p.sections b.marked

namespace Parts.AreOf

variable {p : Parts} {ls : List (List Char)}

/-- The text behind a line starts with the end of the line; then come the blocks. -/
theorem opening_behindLine (h : ls ≠ [] → (cut true (Text.unlines ls)).AreOf (blocks ls)) :
    ∃ before behind, (∀ c ∈ before, Text.isBlank c = true) ∧ (∀ c ∈ behind, Text.isBlank c = true) ∧
      (cut false (behindLine ls)).preamble = before ++ (Text.unlines (blocks ls).opening ++ behind) := by
  cases ls with
  | nil =>
    rw [behindLine, cut_nil]
    exact ⟨[], [], fun c hc => absurd hc List.not_mem_nil, fun c hc => absurd hc List.not_mem_nil, rfl⟩
  | cons m ls =>
    obtain ⟨⟨behind, hblank, hp⟩, -⟩ := h (List.cons_ne_nil m ls)
    rw [behindLine, cut_cons rfl]
    refine ⟨['\n'], behind, fun c hc => ?_, hblank, ?_⟩
    · rw [List.mem_singleton.1 hc]
      decide
    · rw [← hp]
      rfl

theorem sections_behindLine (h : ls ≠ [] → (cut true (Text.unlines ls)).AreOf (blocks ls)) :
    List.Forall₂ (fun s m => s.isProse = isProseMarker m.1 ∧
      Text.trim s.body = Text.trim (Text.unlines m.2)) (cut false (behindLine ls)).sections
      (blocks ls).marked := by
  cases ls with
  | nil =>
    rw [behindLine, cut_nil]
    exact .nil
  | cons m ls =>
    rw [behindLine, cut_cons rfl]
    exact (h (List.cons_ne_nil m ls)).sections

/-- A line that is no marker goes to the block before the next marker. -/
theorem push (h : ls ≠ [] → (cut true (Text.unlines ls)).AreOf (blocks ls)) (l : List Char) :
    ((cut false (behindLine ls)).push l).AreOf ⟨l :: (blocks ls).opening, (blocks ls).marked⟩ := by
  refine ⟨?_, sections_behindLine h⟩
  cases ls with
  | nil =>
    rw [behindLine, cut_nil]
    exact ⟨[], fun c hc => absurd hc List.not_mem_nil, by simp [Parts.push, blocks, Text.unlines]⟩
  | cons m ls =>
    obtain ⟨⟨behind, hblank, hp⟩, -⟩ := h (List.cons_ne_nil m ls)
    rw [behindLine, cut_cons rfl]
    cases ho : (blocks (m :: ls)).opening with
    | nil =>
      rw [ho] at hp
      refine ⟨'\n' :: behind, ?_, ?_⟩
      · intro c hc
        rcases List.mem_cons.1 hc with rfl | hc
        · decide
        · exact hblank c hc
      · simpa [Parts.push, Text.unlines] using hp
    | cons k opening =>
      rw [ho] at hp
      refine ⟨behind, hblank, ?_⟩
      rw [unlines_cons l (k :: opening), behindLine]
      simpa [Parts.push] using hp

/-- A marker ends the block before it, and opens the next one. -/
theorem mark (h : ls ≠ [] → (cut true (Text.unlines ls)).AreOf (blocks ls)) {l tag : List Char}
    (ht : isProseTag tag = isProseMarker l) :
    Parts.AreOf ⟨[], ⟨tag, (cut false (behindLine ls)).preamble⟩ :: (cut false (behindLine ls)).sections⟩
      ⟨[], (l, (blocks ls).opening) :: (blocks ls).marked⟩ := by
  obtain ⟨before, behind, hbefore, hbehind, hp⟩ := opening_behindLine h
  refine ⟨⟨[], fun c hc => absurd hc List.not_mem_nil, rfl⟩, .cons ⟨ht, ?_⟩ (sections_behindLine h)⟩
  rw [hp, Text.trim_append_before hbefore, Text.trim_append_behind hbehind]

end Parts.AreOf

/-- Cutting a script whose markers keep to their lines gives the blocks of its lines. -/
theorem areOf_cut {ls : List (List Char)} (hn : ∀ l ∈ ls, '\n' ∉ l)
    (hk : ∀ ms, ms <:+ ls → KeepsToLine (Text.unlines ms)) (hne : ls ≠ []) :
    (cut true (Text.unlines ls)).AreOf (blocks ls) := by
  induction ls with
  | nil => exact absurd rfl hne
  | cons l ls ih =>
    have hl : '\n' ∉ l := hn l List.mem_cons_self
    have hrest : ls ≠ [] → (cut true (Text.unlines ls)).AreOf (blocks ls) :=
      ih (fun m hm => hn m (List.mem_cons_of_mem l hm)) fun ms hms => hk ms (hms.trans (List.suffix_cons l ls))
    have hkeeps := hk (l :: ls) List.suffix_rfl
    have he := atLineEnd_behindLine ls
    rw [unlines_cons] at hkeeps ⊢
    have hread := he.readMarker?_append hl hkeeps
    rw [blocks, isMarker]
    cases ha : afterPercents? isGap l with
    | none =>
      rw [ha] at hread
      rw [he.cut_append hl hread, Option.isSome_none, if_neg Bool.false_ne_true]
      exact Parts.AreOf.push hrest l
    | some t =>
      have hprose : isProseTag (tagIn t) = isProseMarker l := by
        rw [isProseMarker, ha, Option.any_some]
      rw [ha] at hread
      rw [cut_marker hread, Option.isSome_some, if_pos rfl]
      exact Parts.AreOf.mark hrest hprose

namespace Blocks

variable {p : Parts} {b : Blocks}

theorem texts_eq (h : p.AreOf b) :
    ((p.preamble :: (p.sections.filter (!·.isProse)).map (·.body)).map Text.trim) = b.texts := by
  obtain ⟨⟨behind, hblank, hp⟩, hs⟩ := h
  rw [texts, code, List.map_cons, List.map_cons, hp, Text.trim_append_behind hblank]
  refine congrArg _ ?_
  generalize p.sections = sections at hs
  generalize b.marked = marked at hs
  induction hs with
  | nil => rfl
  | @cons s m ss ms hm _ ih =>
    obtain ⟨hprose, htrim⟩ := hm
    rw [List.filter_cons, List.filter_cons, hprose]
    cases isProseMarker m.1 with
    | true => exact ih
    | false =>
      simp only [Bool.not_false, if_true, List.map_cons, htrim]
      exact congrArg _ ih

end Blocks

theorem cells_of_keepsToLines {content : String} (h : KeepsToLines content) :
    cells content = cellsByLine content := by
  have hk : ∀ ms, ms <:+ Text.lines content.toList → KeepsToLine (Text.unlines ms) :=
    fun ms hms => h ms ((List.mem_tails _ _).2 hms)
  have hcut : (parts content).AreOf (blocks (Text.lines content.toList)) := by
    have hp := areOf_cut (fun l hl => Text.newline_not_mem_of_mem_lines hl) hk (Text.lines_ne_nil _)
    rwa [Text.unlines_lines] at hp
  rw [cells, cellsByLine, sources, Blocks.texts_eq hcut]

theorem codeLines_eq (isProse : Bool) (ls : List (List Char)) : codeLines isProse ls =
    (if isProse then [] else (blocks ls).opening) ++
      (((blocks ls).marked.filter fun m => !isProseMarker m.1).map (·.2)).flatten := by
  induction ls generalizing isProse with
  | nil => cases isProse <;> rfl
  | cons l ls ih =>
    rw [codeLines, blocks]
    by_cases hm : isMarker l = true
    · rw [if_pos hm, if_pos hm, ih, List.filter_cons]
      cases isProseMarker l <;> simp
    · rw [if_neg hm, if_neg hm, ih]
      cases isProse <;> simp

theorem codeLines_sublist (isProse : Bool) (ls : List (List Char)) : (codeLines isProse ls).Sublist ls := by
  induction ls generalizing isProse with
  | nil => exact List.Sublist.slnil
  | cons l ls ih =>
    rw [codeLines]
    split
    · exact (ih _).cons l
    · split
      · exact (ih _).cons l
      · exact (ih _).cons_cons l

theorem flatMap_number (sources : List String) (f : String → List (List Char)) :
    (number sources).flatMap (fun c => f c.sourceText) = sources.flatMap f := by
  have hs : (number sources).map Cell.sourceText = sources.zipIdx.map (·.1) := by
    rw [number, List.map_map]
    rfl
  rw [← List.flatMap_map, hs, List.zipIdx_map_fst]

theorem flatMap_textLines (texts : List (List Char)) :
    ((texts.filter (!·.isEmpty)).map String.ofList).flatMap (fun s => Text.textLines s.toList) =
      texts.flatMap Text.textLines := by
  induction texts with
  | nil => rfl
  | cons text texts ih =>
    cases text with
    | nil => exact ih
    | cons c text =>
      rw [List.filter_cons_of_pos rfl, List.map_cons, List.flatMap_cons, List.flatMap_cons, ih,
        String.toList_ofList]

/-- Every line that is neither blank, nor a marker, nor prose is in one cell: the lines of the cells
are these lines in their order. -/
theorem textLines_cellsByLine (content : String) :
    (cellsByLine content).flatMap (fun c => Text.textLines c.sourceText.toList) =
      ((codeLines false (Text.lines content.toList)).map Text.trim).filter fun l => !l.isEmpty := by
  have hcode : codeLines false (Text.lines content.toList) =
      (blocks (Text.lines content.toList)).code.flatten := codeLines_eq false _
  have hn : ∀ ls ∈ (blocks (Text.lines content.toList)).code, ∀ l ∈ ls, '\n' ∉ l := by
    intro ls hls l hl
    have hm : l ∈ codeLines false (Text.lines content.toList) := by
      rw [hcode]
      exact List.mem_flatten_of_mem hls hl
    exact Text.newline_not_mem_of_mem_lines ((codeLines_sublist false _).subset hm)
  rw [cellsByLine, flatMap_number _ fun s => Text.textLines s.toList, flatMap_textLines, Blocks.texts,
    List.flatMap_map, hcode, List.map_flatten, List.filter_flatten, List.map_map, ← List.flatMap_def]
  refine List.flatMap_congr fun ls hls => ?_
  rw [Text.textLines_trim, Text.textLines_unlines (hn ls hls)]
  rfl

/-- Where no marker takes more than its line, cells are the blocks of lines between the markers, and
they have all lines of code between them. -/
theorem cells_eq_cellsByLine {content : String} (h : KeepsToLines content) :
    cells content = cellsByLine content ∧
    (cells content).flatMap (fun c => Text.textLines c.sourceText.toList) =
      ((codeLines false (Text.lines content.toList)).map Text.trim).filter fun l => !l.isEmpty := by
  refine ⟨cells_of_keepsToLines h, ?_⟩
  rw [cells_of_keepsToLines h]
  exact textLines_cellsByLine content

theorem cells_eq_cellsByLine_prose :
    let content := "import os\n#%%\n  x = 1\n\n# %% [ Markdown ] notes\n# y = x\n# %% last\ny = [x]\n"
    KeepsToLines content ∧ cells content = cellsByLine content ∧
      (cellsByLine content).map Cell.sourceText = ["import os", "x = 1", "y = [x]"] := by
  intro content
  have h : KeepsToLines content := by decide +kernel
  exact ⟨h, (cells_eq_cellsByLine h).1, by decide +kernel⟩

/-- A bare marker takes a list in brackets for its tag, with the rest of the line that it is on. -/
theorem cells_ne_cellsByLine : ¬ ∀ content : String, cells content = cellsByLine content := by
  intro h
  have hs := congrArg (List.map Cell.sourceText) (h "# %%\n[x for x in y]\nz = 1")
  have hcells : (cells "# %%\n[x for x in y]\nz = 1").map Cell.sourceText = ["z = 1"] := by decide +kernel
  have hlines : (cellsByLine "# %%\n[x for x in y]\nz = 1").map Cell.sourceText =
      ["[x for x in y]\nz = 1"] := by decide +kernel
  rw [hcells, hlines] at hs
  exact absurd hs (by decide)

end CellFlow.Notebook.Script
