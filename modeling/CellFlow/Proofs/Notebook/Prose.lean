import CellFlow.Proofs.Notebook.ByLine

/-!
Prose in scripts: the line of a marker that says so, and lines without markers. Blanks in a marker
may be line ends, but at a seam, where whole lines meet a marker or the end of the text, no marker
reaches over. So taking a section of prose out of a script, or putting one in, changes no cell.
-/

set_option autoImplicit false

namespace CellFlow.Notebook.Script

/-- A text of whole lines: nothing, or a text with a line end at its end. -/
def EndsLine (s : List Char) : Prop := ∀ c ∈ s.getLast?, c = '\n'

instance (s : List Char) : Decidable (EndsLine s) :=
  decidable_of_iff (s.getLast?.all (· == '\n') = true) (by simp [EndsLine, Option.all_eq_true])

/-- A text with a marker at its start. -/
def StartsMarker (s : List Char) : Prop :=
  ∃ blanks rest, (∀ c ∈ blanks, Text.isBlank c = true) ∧ s = '#' :: (blanks ++ '%' :: '%' :: rest)

theorem startsMarker_iff {s : List Char} : StartsMarker s ↔ (afterPercents? Text.isBlank s).isSome = true := by
  rw [Option.isSome_iff_exists, StartsMarker, exists_comm]
  exact exists_congr fun rest => (afterPercents?_eq_some_iff (by decide)).symm

instance (s : List Char) : Decidable (StartsMarker s) := decidable_of_iff _ startsMarker_iff.symm

/-- No marker starts with a line of the text. Since markers may go over lines, it is not enough that
no line is a marker by itself. -/
def IsUnmarked (s : List Char) : Prop :=
  ∀ before rest, s = before ++ rest → EndsLine before → ¬ StartsMarker rest

instance (s : List Char) : Decidable (IsUnmarked s) :=
  decidable_of_iff (∀ n < s.length + 1, EndsLine (s.take n) → ¬ StartsMarker (s.drop n)) <| by
    constructor
    · rintro h before rest rfl
      have hn := h before.length (by rw [List.length_append]; omega)
      rwa [List.take_left, List.drop_left] at hn
    · intro h n _
      exact h _ _ (List.take_append_drop n s).symm

/-- Nothing, or a text with a marker at its start. -/
def IsMarkedText (s : List Char) : Prop := s = [] ∨ StartsMarker s

instance (s : List Char) : Decidable (IsMarkedText s) := inferInstanceAs (Decidable (_ ∨ _))

/-- A section of prose: a marker whose tag says that it is one, with a title behind the tag, and
lines without markers. -/
structure Prose where
  lead : List Char
  gap : List Char
  tag : List Char
  title : List Char
  body : List Char
  isBlank_lead : ∀ c ∈ lead, Text.isBlank c = true
  isBlank_gap : ∀ c ∈ gap, Text.isBlank c = true
  bracket_not_mem_tag : ']' ∉ tag
  newline_not_mem_tag : '\n' ∉ tag
  newline_not_mem_title : '\n' ∉ title
  isProseTag_tag : isProseTag tag = true
  endsLine_body : EndsLine body
  isUnmarked_body : IsUnmarked body

/-- What follows the percent signs of the marker. -/
def Prose.tail (p : Prose) : List Char := p.gap ++ '[' :: (p.tag ++ ']' :: (p.title ++ '\n' :: p.body))

def Prose.text (p : Prose) : List Char := '#' :: (p.lead ++ '%' :: '%' :: p.tail)

section Seams

variable {a b s t w rest tail : List Char} {c x : Char}

theorem EndsLine.of_append (h : EndsLine (a ++ b)) : EndsLine b := by
  intro c hc
  refine h c ?_
  rw [List.getLast?_append, Option.mem_def.1 hc]
  rfl

theorem EndsLine.newline_mem (h : EndsLine s) (hs : s ≠ []) : '\n' ∈ s := by
  rw [← h _ (List.getLast?_eq_some_getLast hs)]
  exact List.getLast_mem hs

theorem EndsLine.cons (h : EndsLine s) (hc : s = [] → c = '\n') : EndsLine (c :: s) := by
  intro d hd
  cases s with
  | nil => exact (Option.some.inj hd).symm.trans (hc rfl)
  | cons e s => exact h d (by rwa [List.getLast?_cons_cons] at hd)

/-- Whole lines, and behind them nothing or a number sign. -/
structure Seam (s tail : List Char) : Prop where
  ne_nil : s ≠ []
  endsLine : EndsLine s
  head : ∀ c ∈ tail.head?, c = '#'

namespace Seam

theorem of_append (h : Seam (a ++ x :: t) tail) (hx : x ≠ '\n') : Seam t tail := by
  refine ⟨?_, (h.endsLine.of_append (a := a)).of_append (a := [x]), h.head⟩
  rintro rfl
  exact hx (h.endsLine x (by simp))

/-- What stands on the first line does not reach over the seam. -/
theorem exists_of_append (h : Seam s tail) (hw : '\n' ∉ w) (he : s ++ tail = w ++ rest) :
    ∃ t, s = w ++ t ∧ rest = t ++ tail := by
  rcases List.append_eq_append_iff.1 he with ⟨t, rfl, -⟩ | ht
  · exact absurd (List.mem_append_left t (h.endsLine.newline_mem h.ne_nil)) hw
  · exact ht

/-- Blanks may go over lines, but behind the seam there are none. -/
theorem exists_of_append_blanks (h : Seam s tail) (hw : ∀ a ∈ w, Text.isBlank a = true) (hx : x ≠ '#')
    (he : s ++ tail = w ++ x :: rest) : ∃ t, s = w ++ x :: t ∧ rest = t ++ tail := by
  have hmem : ∀ c ∈ tail.head?, c ∉ w ++ [x] := by
    intro c hc
    rw [h.head c hc, List.mem_append, List.mem_singleton, not_or]
    exact ⟨fun hm => absurd (hw _ hm) (by decide), hx.symm⟩
  have he : s ++ tail = (w ++ [x]) ++ rest := by simpa using he
  rcases List.append_eq_append_iff.1 he with ⟨t, hs, rfl⟩ | ⟨t, rfl, rfl⟩
  · cases t with
    | nil => exact ⟨[], by simpa using hs.symm, by simp⟩
    | cons c t => exact absurd (by simp [hs]) (hmem c rfl)
  · exact ⟨t, by simp, rfl⟩

theorem afterPercents?_append (h : Seam s tail) : afterPercents? Text.isBlank (s ++ tail) =
    (afterPercents? Text.isBlank s).map (· ++ tail) := by
  refine Option.ext fun t => ?_
  rw [Option.map_eq_some_iff, afterPercents?_eq_some_iff (by decide)]
  constructor
  · rintro ⟨w, hw, he⟩
    obtain ⟨s₁, rfl, h₁⟩ := h.exists_of_append (w := ['#']) (by decide) he
    have hs₁ : Seam s₁ tail := h.of_append (a := []) (by decide)
    obtain ⟨s₂, rfl, h₂⟩ := hs₁.exists_of_append_blanks hw (by decide) h₁.symm
    obtain ⟨u, rfl, rfl⟩ := (hs₁.of_append (by decide)).exists_of_append (w := ['%']) (by decide) h₂.symm
    exact ⟨u, (afterPercents?_eq_some_iff (by decide)).2 ⟨w, hw, rfl⟩, rfl⟩
  · rintro ⟨u, hu, rfl⟩
    obtain ⟨w, hw, rfl⟩ := (afterPercents?_eq_some_iff (by decide)).1 hu
    exact ⟨w, hw, by simp⟩

theorem bracketed?_append (h : Seam s tail) : bracketed? Text.isBlank (s ++ tail) =
    (bracketed? Text.isBlank s).map fun p => (p.1, p.2 ++ tail) := by
  refine Option.ext fun p => ?_
  obtain ⟨tag, rest⟩ := p
  rw [Option.map_eq_some_iff, bracketed?_eq_some_iff (by decide)]
  constructor
  · rintro ⟨w, hw, he, hb, ht⟩
    obtain ⟨s₁, rfl, h₁⟩ := h.exists_of_append_blanks hw (by decide) he
    have hline : '\n' ∉ tag ++ [']'] := by simp [ht]
    obtain ⟨u, rfl, rfl⟩ := (h.of_append (by decide)).exists_of_append hline (by simpa using h₁.symm)
    exact ⟨(tag, u), (bracketed?_eq_some_iff (by decide)).2 ⟨w, hw, by simp, hb, ht⟩, rfl⟩
  · rintro ⟨⟨tag', u⟩, hu, he⟩
    obtain ⟨rfl, rfl⟩ := Prod.mk.inj he
    obtain ⟨w, hw, rfl, hb, ht⟩ := (bracketed?_eq_some_iff (by decide)).1 hu
    exact ⟨w, hw, by simp, hb, ht⟩

theorem readTag_append (h : Seam s tail) :
    readTag (s ++ tail) = ((readTag s).1, (readTag s).2 ++ tail) ∧ Seam (readTag s).2 tail := by
  rw [readTag_eq, readTag_eq, h.bracketed?_append]
  cases hb : bracketed? Text.isBlank s with
  | none => exact ⟨rfl, h⟩
  | some p =>
    obtain ⟨tag, rest⟩ := p
    obtain ⟨w, -, rfl, -⟩ := (bracketed?_eq_some_iff (by decide)).1 hb
    have hs : Seam ((w ++ '[' :: tag) ++ ']' :: rest) tail := by simpa using h
    exact ⟨rfl, hs.of_append (by decide)⟩

theorem dropWhile_append (h : Seam s tail) :
    (s ++ tail).dropWhile isInLine = s.dropWhile isInLine ++ tail ∧ Seam (s.dropWhile isInLine) tail := by
  obtain ⟨l, t, rfl, hl⟩ := List.eq_append_cons_of_mem (h.endsLine.newline_mem h.ne_nil)
  rw [AtLineEnd.dropWhile_isInLine (.inr ⟨t, rfl⟩) hl, List.append_assoc, List.cons_append,
    AtLineEnd.dropWhile_isInLine (.inr ⟨t ++ tail, rfl⟩) hl]
  exact ⟨rfl, List.cons_ne_nil _ _, h.endsLine.of_append, h.head⟩

/-- The markers of whole lines are the same, whatever stands at the seam. -/
theorem readMarker?_append (h : Seam s tail) :
    readMarker? (s ++ tail) = (readMarker? s).map (fun m => (m.1, m.2 ++ tail)) ∧
      ∀ m ∈ readMarker? s, Seam m.2 tail := by
  rw [readMarker?_eq, readMarker?_eq, h.afterPercents?_append]
  cases ha : afterPercents? Text.isBlank s with
  | none => exact ⟨rfl, fun m hm => by cases hm⟩
  | some t =>
    obtain ⟨w, -, rfl⟩ := (afterPercents?_eq_some_iff (by decide)).1 ha
    have ht : Seam t tail := of_append (a := '#' :: (w ++ ['%'])) (x := '%') (by simpa using h) (by decide)
    obtain ⟨htag, hrest⟩ := ht.readTag_append
    obtain ⟨hline, hseam⟩ := hrest.dropWhile_append
    refine ⟨?_, ?_⟩
    · simp only [Option.map_some, htag, hline]
    · intro m hm
      obtain rfl := Option.some.inj hm
      exact hseam

end Seam

end Seams

section Cutting

variable {s tail : List Char}

theorem startsMarker_iff_readMarker? : StartsMarker s ↔ (readMarker? s).isSome = true := by
  rw [startsMarker_iff, readMarker?_eq, Option.isSome_map]

theorem IsMarkedText.head (h : IsMarkedText s) : ∀ c ∈ s.head?, c = '#' := by
  rintro c hc
  rcases h with rfl | ⟨w, rest, -, rfl⟩
  · cases hc
  · exact (Option.some.inj hc).symm

theorem IsMarkedText.preamble_cut (h : IsMarkedText s) : (cut true s).preamble = [] := by
  rcases h with rfl | h
  · rw [cut_nil]
  · obtain ⟨m, hm⟩ := Option.isSome_iff_exists.1 (startsMarker_iff_readMarker?.1 h)
    rw [cut_marker hm]

def Parts.followedBy (p : Parts) (sections : List Section) : Parts := ⟨p.preamble, p.sections ++ sections⟩

theorem markerAt?_eq_some {lineStart : Bool} {m : List Char × List Char} (h : markerAt? lineStart s = some m) :
    lineStart = true ∧ readMarker? s = some m := by
  unfold markerAt? at h
  split at h
  · exact ⟨‹_›, h⟩
  · cases h

/-- At a seam a text is cut into what its two sides are cut into. -/
theorem cut_append {lineStart : Bool} (hs : EndsLine s) (h0 : s = [] → lineStart = true)
    (ht : IsMarkedText tail) :
    cut lineStart (s ++ tail) = (cut lineStart s).followedBy (cut true tail).sections := by
  fun_induction cut lineStart s with
  | case1 lineStart =>
    rw [h0 rfl, List.nil_append, Parts.followedBy, List.nil_append, ← ht.preamble_cut]
  | case2 lineStart c t tag rest hm hlt p ih =>
    obtain ⟨rfl, hread⟩ := markerAt?_eq_some hm
    have hseam : Seam (c :: t) tail := ⟨List.cons_ne_nil c t, hs, ht.head⟩
    obtain ⟨happ, hrest⟩ := hseam.readMarker?_append
    have hrest : Seam rest tail := hrest _ hread
    rw [hread, Option.map_some] at happ
    rw [cut_marker happ, ih hrest.endsLine fun he => absurd he hrest.ne_nil]
    rfl
  | case3 lineStart c t hm p ih =>
    have hseam : Seam (c :: t) tail := ⟨List.cons_ne_nil c t, hs, ht.head⟩
    have hm' : markerAt? lineStart (c :: (t ++ tail)) = none := by
      cases lineStart with
      | false => rfl
      | true =>
        have hnone : readMarker? (c :: t) = none := hm
        exact hseam.readMarker?_append.1.trans (by rw [hnone]; rfl)
    have hnext : t = [] → (c == '\n') = true := by
      rintro rfl
      exact beq_iff_eq.2 (hs c rfl)
    rw [List.cons_append, cut_cons hm', ih (hs.of_append (a := [c])) hnext]
    rfl

/-- A text without markers is cut nowhere. -/
theorem sections_cut_eq_nil {lineStart : Bool} (h : ∀ before rest, s = before ++ rest → EndsLine before →
    (before = [] → lineStart = true) → ¬ StartsMarker rest) : (cut lineStart s).sections = [] := by
  fun_induction cut lineStart s with
  | case1 lineStart => rfl
  | case2 lineStart c t tag rest hm hlt p ih =>
    obtain ⟨rfl, hread⟩ := markerAt?_eq_some hm
    exact absurd (startsMarker_iff_readMarker?.2 (by rw [hread]; rfl)) (h [] _ rfl (fun d hd => by cases hd) fun _ => rfl)
  | case3 lineStart c t hm p ih =>
    refine ih fun before rest he hb h0 => ?_
    refine h (c :: before) rest (by rw [he, List.cons_append]) (hb.cons fun hnil => ?_) fun hc => by cases hc
    exact beq_iff_eq.1 (h0 hnil)

theorem IsUnmarked.sections_cut (h : IsUnmarked s) : (cut true s).sections = [] :=
  sections_cut_eq_nil fun before rest he hb _ => h before rest he hb

end Cutting

namespace Prose

variable (p : Prose) {tail : List Char}

theorem startsMarker_append (tail : List Char) : StartsMarker (p.text ++ tail) :=
  ⟨p.lead, p.tail ++ tail, p.isBlank_lead, by simp [text]⟩

theorem readMarker?_text (tail : List Char) :
    readMarker? (p.text ++ tail) = some (p.tag, '\n' :: (p.body ++ tail)) := by
  have hpercents : afterPercents? Text.isBlank (p.text ++ tail) = some (p.tail ++ tail) :=
    (afterPercents?_eq_some_iff (by decide)).2 ⟨p.lead, p.isBlank_lead, by simp [text]⟩
  have htag : bracketed? Text.isBlank (p.tail ++ tail) =
      some (p.tag, p.title ++ '\n' :: (p.body ++ tail)) :=
    (bracketed?_eq_some_iff (by decide)).2 ⟨p.gap, p.isBlank_gap, by simp [Prose.tail],
      p.bracket_not_mem_tag, p.newline_not_mem_tag⟩
  rw [readMarker?_eq, hpercents, Option.map_some, readTag_eq, htag, Option.getD_some,
    AtLineEnd.dropWhile_isInLine (.inr ⟨_, rfl⟩) p.newline_not_mem_title]

/-- A section of prose is cut off as one section, and nothing behind it changes. -/
theorem exists_cut_text (h : IsMarkedText tail) : ∃ body, cut true (p.text ++ tail) =
    ⟨[], ⟨p.tag, body⟩ :: (cut true tail).sections⟩ := by
  have hbody : cut true (p.body ++ tail) = (cut true p.body).followedBy (cut true tail).sections :=
    cut_append p.endsLine_body (fun _ => rfl) h
  have hsections : (cut false ('\n' :: (p.body ++ tail))).sections = (cut true tail).sections := by
    rw [cut_cons rfl, show (('\n' : Char) == '\n') = true from rfl, hbody]
    simp only [Parts.push, Parts.followedBy, p.isUnmarked_body.sections_cut, List.nil_append]
  exact ⟨_, by rw [cut_marker (p.readMarker?_text tail), hsections]⟩

end Prose

theorem toNat_lt_of_toLower {c : Char} (h : c.toLower.toNat < 0x80) : c.toNat < 0x80 := by
  unfold Char.toLower at h
  split at h
  · rename_i hc
    have := UInt32.le_iff_toNat_le.1 hc.2
    exact Nat.lt_of_le_of_lt this (by decide)
  · exact h

theorem lowerFrom_of_ascii {before s : List Char} (h : ∀ c ∈ s, c.toNat < 0x80) :
    Text.lowerFrom before s = s.map Char.toLower := by
  induction s generalizing before with
  | nil => rfl
  | cons c s ih =>
    have hc : c.toNat < 0x80 := h c List.mem_cons_self
    have hsigma : c ≠ 'Σ' := by
      rintro rfl
      exact absurd hc (by decide)
    rw [Text.lowerFrom, if_neg hsigma, Text.lowerChar, if_pos hc, ih fun d hd => h d (List.mem_cons_of_mem c hd)]
    rfl

/-- The word counts in any letter case. -/
theorem isProseTag_of_toLower {tag : List Char} (h : tag.map Char.toLower = "markdown".toList) :
    isProseTag tag = true := by
  have hlower : ∀ c ∈ tag, c.toLower ∈ "markdown".toList := fun c hc => h ▸ List.mem_map_of_mem hc
  have hword : ("markdown".toList.all fun d => d.toNat < 0x80) = true := by decide
  have hascii : ∀ c ∈ tag, c.toNat < 0x80 := fun c hc =>
    toNat_lt_of_toLower (of_decide_eq_true (List.all_eq_true.1 hword _ (hlower c hc)))
  have hletters : ∀ n < 0x80, (Char.ofNat n).toLower ∈ "markdown".toList → Text.isBlank (Char.ofNat n) = false := by
    decide +kernel
  have hsolid : ∀ c ∈ tag, Text.isBlank c = false := by
    intro c hc
    have hl := hletters c.toNat (hascii c hc)
    rw [Char.ofNat_toNat] at hl
    exact hl (hlower c hc)
  have htrim : Text.trim tag = tag := by
    obtain ⟨before, behind, hbefore, hbehind, he⟩ := Text.exists_eq_trim tag
    have hnil : ∀ s ⊆ tag, (∀ c ∈ s, Text.isBlank c = true) → s = [] := fun s hs hblank =>
      List.eq_nil_iff_forall_not_mem.2 fun c hc => Bool.false_ne_true ((hsolid c (hs hc)).symm.trans (hblank c hc))
    rw [hnil before (by rw [he]; simp) hbefore, hnil behind (by rw [he]; simp) hbehind] at he
    simpa using he.symm
  rw [isProseTag, Text.trimmed, String.toList_ofList, htrim, Text.lowered, String.toList_ofList,
    lowerFrom_of_ascii hascii, h]
  decide

/-- Prose between whole lines and a marker, or at the end of a script, changes none of its cells. -/
theorem cells_insert_prose (p : Prose) {before behind : String} (hb : EndsLine before.toList)
    (hm : IsMarkedText behind.toList) :
    cells (before ++ String.ofList p.text ++ behind) = cells (before ++ behind) := by
  obtain ⟨body, hbody⟩ := p.exists_cut_text hm
  have hprose : Section.isProse ⟨p.tag, body⟩ = true := p.isProseTag_tag
  have hwith := cut_append hb (fun _ => rfl) (.inr (p.startsMarker_append behind.toList))
  have hwithout := cut_append hb (fun _ => rfl) hm
  rw [cells, cells, parts, parts, String.toList_append, String.toList_append, String.toList_append,
    String.toList_ofList, List.append_assoc, hwith, hwithout, hbody]
  simp only [sources, Parts.followedBy, List.filter_append, List.filter_cons, hprose, Bool.not_true,
    Bool.false_eq_true, if_false]

theorem cells_insert_prose_seams :
    let p : Prose := ⟨[' '], [' '], "MarkDown".toList, " on b".toList, "# b = 0\n#\n\n".toList,
      List.forall_mem_singleton.2 rfl, List.forall_mem_singleton.2 rfl, by decide, by decide, by decide,
      isProseTag_of_toLower (by decide), by decide, by decide +kernel⟩
    let before := "import os\n# %%\n"
    let behind := "# %%\n  a = 1\n"
    EndsLine before.toList ∧ IsMarkedText behind.toList ∧
      cells (before ++ String.ofList p.text ++ behind) = cells (before ++ behind) ∧
      (cells (before ++ behind)).map Cell.sourceText = ["import os", "a = 1"] := by
  intro p before behind
  have hb : EndsLine before.toList := by decide
  have hm : IsMarkedText behind.toList := by decide
  exact ⟨hb, hm, cells_insert_prose p hb hm, by decide +kernel⟩

end CellFlow.Notebook.Script
