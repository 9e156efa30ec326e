import CellFlow.Proofs.Names.LineShapes
import CellFlow.Proofs.Names.Merging
import CellFlow.Proofs.Names.Words
import Mathlib.Algebra.Order.BigOperators.Group.List
import Mathlib.Algebra.Order.Group.Nat

/-!
Magic lines in a source. They are told from other lines after cleaning, and cleaning goes over the whole
source, so a quote on a magic line may open a literal that ends on another line, or end one. A magic line
without quotes is ignored wherever it stands, and no other one is; but in its place a line with quotes is
ignored too, if the lines before it, and the line itself, leave no literal open.
-/

set_option autoImplicit false

namespace CellFlow.Names

open CellFlow.Text

/-- A source with the given lines. -/
def sourceOf (ls : List (List Char)) : Value := .text (String.ofList (unlines ls))

/-- A source has the same names with the line as without it. -/
def Rules.Ignores (r : Rules) (line : List Char) (before after : List (List Char)) : Prop :=
  r.extract (sourceOf (before ++ line :: after)) = r.extract (sourceOf (before ++ after))

/-- No three quotes of one kind in a row. -/
def TripleFree (s : List Char) : Prop := ∀ q : Quote, ¬ List.replicate 3 q.char <:+: s

/-- All quotes outside of comments have partners: single quotes, and then, outside of the literals between
these, double quotes. -/
structure IsClosed (s : List Char) : Prop where
  single : Even ((dropComments false s).count '\'')
  double : Even ((blankQuotes '\'' (dropComments false s)).count '"')

section Triples

variable {s t : List Char} {ls : List (List Char)}

theorem TripleFree.of_isInfix (h : TripleFree t) (hs : s <:+: t) : TripleFree s :=
  fun q hq => h q (hq.trans hs)

theorem tripleFree_append_newline : TripleFree (s ++ '\n' :: t) ↔ TripleFree s ∧ TripleFree t := by
  rw [TripleFree, TripleFree, TripleFree, ← forall_and]
  refine forall_congr' fun q => ?_
  have hq : '\n' ∉ List.replicate 3 q.char := fun h => q.char_ne_newline (List.eq_of_mem_replicate h).symm
  rw [isInfix_append_cons hq (by simp), not_or]

theorem tripleFree_nil : TripleFree [] := fun q => by simp

theorem tripleFree_unlines : TripleFree (unlines ls) ↔ ∀ l ∈ ls, TripleFree l := by
  induction ls with
  | nil => exact iff_of_true tripleFree_nil (by simp)
  | cons l ls ih =>
    cases ls with
    | nil => simp [unlines]
    | cons m ls => rw [unlines_cons_cons, tripleFree_append_newline, ih, List.forall_mem_cons (l := m :: ls)]

theorem TripleFree.dropComments (h : TripleFree s) : TripleFree (dropComments false s) := by
  rw [← unlines_lines s, tripleFree_unlines] at h
  rw [← unlines_lines (Names.dropComments false s), tripleFree_unlines, lines_dropComments]
  refine List.forall_mem_map.2 fun l hl => ?_
  exact (h l hl).of_isInfix (dropComments_isPrefix (newline_not_mem_of_mem_lines hl)).isInfix

/-- Without literals between three quotes, cleaning blanks the literals of one line. -/
theorem TripleFree.clean_eq (h : TripleFree s) :
    clean s = blankQuotes '"' (blankQuotes '\'' (Names.dropComments false s)) := by
  have hs := (isPass_dropTriples '\'').eq_self_of_not_isInfix (h.dropComments .single)
  have hd := (isPass_dropTriples '"').eq_self_of_not_isInfix (h.dropComments .double)
  rw [clean, hs, hd]

end Triples

section Framing

/-- Lines with a line end on both sides of each, which cleaning keeps. -/
def framed (ls : List (List Char)) : List Char := ls.flatMap ('\n' :: ·) ++ ['\n']

theorem flatMap_newline (l : List Char) (ls : List (List Char)) :
    (l :: ls).flatMap ('\n' :: ·) = '\n' :: unlines (l :: ls) := by
  induction ls generalizing l with
  | nil => simp [unlines]
  | cons m ls ih => rw [List.flatMap_cons, ih, unlines_cons_cons, List.cons_append]

theorem exists_framed (ls : List (List Char)) : ∃ y, framed ls = '\n' :: y := by
  cases ls with
  | nil => exact ⟨[], rfl⟩
  | cons l ls => exact ⟨unlines (l :: ls) ++ ['\n'], by rw [framed, flatMap_newline, List.cons_append]⟩

theorem tripleFree_framed {ls : List (List Char)} : TripleFree (framed ls) ↔ ∀ l ∈ ls, TripleFree l := by
  cases ls with
  | nil => exact iff_of_true (tripleFree_append_newline.2 ⟨tripleFree_nil, tripleFree_nil⟩) (by simp)
  | cons l ls =>
    have hframed : framed (l :: ls) = [] ++ '\n' :: (unlines (l :: ls) ++ '\n' :: []) := by
      rw [framed, flatMap_newline, List.cons_append, List.nil_append]
    rw [hframed, tripleFree_append_newline, tripleFree_append_newline, tripleFree_unlines]
    simp [tripleFree_nil]

/-- A line end at the start or at the end of a source is not read. -/
theorem Rules.namesOf_clean_append_newline (r : Rules) {s t : List Char} (h : s = [] ∨ t = []) :
    r.namesOf (lines (clean (s ++ '\n' :: t))) = r.namesOf (lines (clean (s ++ t))) := by
  have hfree : QuoteFree (dropComments false []) := fun q => List.not_mem_nil
  have hst : QuoteFree (dropComments false s) ∨ QuoteFree (dropComments false t) := by
    rcases h with rfl | rfl
    · exact .inl hfree
    · exact .inr hfree
  have hnil : clean [] = [] := rfl
  rw [clean_append_newline hst, lines_append_newline]
  refine namesOf_congr fun l hl => ?_
  have hne : l ≠ [] := hl.1
  rcases h with rfl | rfl <;> simp [hnil, lines_of_not_mem, hne]

theorem Rules.extract_sourceOf (r : Rules) (ls : List (List Char)) :
    r.extract (sourceOf ls) = r.namesOf (lines (clean (framed ls))) := by
  have hs : r.extract (sourceOf ls) = r.namesOf (lines (clean (unlines ls))) := by
    rw [sourceOf, extract_text, linesOf, String.toList_ofList]
    rfl
  have hstart (s : List Char) : r.namesOf (lines (clean ('\n' :: s))) = r.namesOf (lines (clean s)) :=
    r.namesOf_clean_append_newline (s := []) (.inl rfl)
  have hend (s : List Char) : r.namesOf (lines (clean (s ++ ['\n']))) = r.namesOf (lines (clean (s ++ []))) :=
    r.namesOf_clean_append_newline (.inr rfl)
  cases ls with
  | nil =>
    rw [hs, framed, List.flatMap_nil, List.nil_append, hstart]
    rfl
  | cons l ls => rw [hs, framed, flatMap_newline, List.cons_append, hstart, hend, List.append_nil]

end Framing

section Insertion

/-- Texts of which the first has one line more, if it has not been taken into a literal. -/
inductive LineInserted (line : List Char) : List Char → List Char → Prop where
  | gone (s : List Char) : LineInserted line s s
  | between (x y : List Char) : LineInserted line (x ++ '\n' :: (line ++ '\n' :: y)) (x ++ '\n' :: y)

variable {q : Char} {mark left line s t : List Char} {pass : List Char → List Char}
  {leave : List Char → Option (List Char)} {r : Rules}

/-- A line without quotes goes through a pass, or into the literal in which it stands. -/
theorem LineInserted.map (hp : IsPass q mark left pass leave) (hq : q ≠ '\n') (hline : q ∉ line)
    (h : LineInserted line s t) : LineInserted line (pass s) (pass t) := by
  cases h with
  | gone s => exact .gone (pass s)
  | between x y =>
    have houtside : pass (line ++ '\n' :: y) = line ++ '\n' :: pass y := by
      rw [hp.append hline, hp.skip _ _ (hp.not_isPrefix hq y)]
    have hinside : leave (line ++ '\n' :: y) = leave y := by
      rw [hp.leave_append hline, hp.leave_skip _ _ (hp.not_isPrefix hq y)]
    rcases hp.atLineEnd hq x with hx | ⟨a, b, -, hx⟩
    · rw [hx, hx, houtside]
      exact .between (pass x) (pass y)
    · rw [hx, hx, hinside]
      cases leave y with
      | none =>
        rw [Option.map_none, Option.getD_none, Option.getD_none, ← List.append_assoc, ← List.append_assoc]
        exact .between (a ++ b) y
      | some z => exact .gone _

theorem lineInserted_clean_of_quoteFree (x y : List Char) (h : QuoteFree (dropComments false line)) :
    LineInserted (dropComments false line) (clean (x ++ '\n' :: (line ++ '\n' :: y))) (clean (x ++ '\n' :: y)) := by
  refine clean_induction (motive := fun f => LineInserted (dropComments false line)
    (f (x ++ '\n' :: (line ++ '\n' :: y))) (f (x ++ '\n' :: y))) ?_ fun q _ _ _ _ hp f hf => ?_
  · rw [dropComments_append_newline, dropComments_append_newline, dropComments_append_newline]
    exact .between _ _
  · exact hf.map hp q.char_ne_newline (h q)

/-- Between texts that close their literals, a closed line is cleaned for itself. -/
theorem lineInserted_clean_of_isClosed (x y : List Char) (hx : IsClosed x) (hline : IsClosed line)
    (h : TripleFree (x ++ '\n' :: (line ++ '\n' :: y))) :
    LineInserted (clean line) (clean (x ++ '\n' :: (line ++ '\n' :: y))) (clean (x ++ '\n' :: y)) := by
  obtain ⟨hxfree, hrest⟩ := tripleFree_append_newline.1 h
  obtain ⟨hlinefree, hyfree⟩ := tripleFree_append_newline.1 hrest
  have hsingle : '\'' ≠ '\n' := by decide
  have hdouble : '"' ≠ '\n' := by decide
  rw [h.clean_eq, hlinefree.clean_eq, (tripleFree_append_newline.2 ⟨hxfree, hyfree⟩).clean_eq,
    dropComments_append_newline, dropComments_append_newline, dropComments_append_newline,
    blankQuotes_append_newline hsingle hx.single, blankQuotes_append_newline hsingle hline.single,
    blankQuotes_append_newline hsingle hx.single, blankQuotes_append_newline hdouble hx.double,
    blankQuotes_append_newline hdouble hline.double, blankQuotes_append_newline hdouble hx.double]
  exact .between _ _

theorem LineInserted.namesOf_eq (hskip : r.skipMagics = true) (hm : isMagic line = true) (hline : '\n' ∉ line)
    (h : LineInserted line s t) : r.namesOf (lines s) = r.namesOf (lines t) := by
  cases h with
  | gone s => rfl
  | between x y =>
    rw [lines_append_newline, lines_append_newline, lines_append_newline, lines_of_not_mem hline]
    refine Rules.namesOf_congr fun l hl => ?_
    have hne : l ≠ line := by
      rintro rfl
      have hc := hl.2
      rw [hskip, hm] at hc
      cases hc
    simp [hne]

end Insertion

section Heads

variable {f : List Char → List Char} {s u : List Char} {c : Char}

theorem isMagic_iff : isMagic s = true ↔
    (∃ c u, isNameStart c = true ∧ (skipBlanks s = '%' :: '%' :: c :: u ∨ skipBlanks s = '%' :: c :: u)) ∨
      ∃ u, skipBlanks s = '!' :: u ∧ u.head? ≠ some '=' := by
  rw [isMagic]
  generalize skipBlanks s = t
  constructor
  · intro h
    split at h
    · exact .inl ⟨_, _, h, .inl rfl⟩
    · exact .inl ⟨_, _, h, .inr rfl⟩
    · cases h
    · rename_i u hne
      refine .inr ⟨u, rfl, fun hu => ?_⟩
      obtain ⟨v, hv⟩ := List.head?_eq_some_iff.1 hu
      exact hne v hv
    · cases h
  · rintro (⟨c, u, hc, rfl | rfl⟩ | ⟨u, rfl, hu⟩)
    · exact hc
    · have hp : c ≠ '%' := by
        rintro rfl
        exact absurd hc (by decide)
      split <;> simp_all
    · split <;> simp_all

/-- A character at which neither a comment nor a literal starts. -/
def IsPlain (c : Char) : Prop := c ∉ ['#', '\'', '"']

instance : DecidablePred IsPlain := fun c => inferInstanceAs (Decidable (c ∉ ['#', '\'', '"']))

theorem isPlain_of {p : Char → Bool} (hp : ['#', '\'', '"'].any p = false) (hc : p c = true) : IsPlain c := by
  intro hm
  rw [List.any_eq_true.2 ⟨c, hm, hc⟩] at hp
  cases hp

theorem skipBlanks_map (hskip : ∀ c s, IsPlain c → f (c :: s) = c :: f s) (hc : IsPlain c)
    (h : skipBlanks s = c :: u) : skipBlanks (f s) = c :: f u := by
  induction s with
  | nil => cases h
  | cons d s ih =>
    rw [skipBlanks] at h
    by_cases hd : isBlank d = true
    · rw [List.dropWhile_cons_of_pos hd] at h
      rw [hskip d s (isPlain_of (by decide) hd), skipBlanks, List.dropWhile_cons_of_pos hd]
      exact ih h
    · rw [List.dropWhile_cons_of_neg hd] at h
      cases h
      rw [hskip c u hc, skipBlanks, List.dropWhile_cons_of_neg hd]

/-- The head of a magic line stays, if what changes starts at a quote or a hash, and does not become an
equals sign. -/
theorem isMagic_map (hskip : ∀ c s, IsPlain c → f (c :: s) = c :: f s)
    (hhead : ∀ s, (f s).head? = some '=' → s.head? = some '=') (h : isMagic s = true) : isMagic (f s) = true := by
  rw [isMagic_iff] at h ⊢
  rcases h with ⟨c, u, hc, hs | hs⟩ | ⟨u, hs, hu⟩
  · refine .inl ⟨c, f u, hc, .inl ?_⟩
    rw [skipBlanks_map hskip (by decide) hs, hskip '%' _ (by decide), hskip c u (isPlain_of (by decide) hc)]
  · refine .inl ⟨c, f u, hc, .inr ?_⟩
    rw [skipBlanks_map hskip (by decide) hs, hskip c u (isPlain_of (by decide) hc)]
  · exact .inr ⟨f u, skipBlanks_map hskip (by decide) hs, fun he => hu (hhead u he)⟩

/-- Behind a comment a source goes on with the next line. -/
theorem head_dropComments_inside (s : List Char) : ∀ c ∈ (dropComments true s).head?, c = '\n' := by
  induction s with
  | nil => exact fun c hc => by cases hc
  | cons d s ih =>
    rw [dropComments]
    split
    · rename_i hd
      exact fun c hc => by rw [← hd]; exact (Option.mem_some_iff.1 hc).symm
    · rw [if_pos (.inl rfl)]
      exact ih

theorem isMagic_dropComments (h : isMagic s = true) : isMagic (dropComments false s) = true := by
  refine isMagic_map (fun c s hc => ?_) (fun s hs => ?_) h
  · have hhash : '#' ∉ [c] := fun hm => hc (List.mem_singleton.1 hm ▸ List.mem_cons_self)
    exact dropComments_append hhash s
  · cases s with
    | nil => cases hs
    | cons c s =>
      by_cases hc : c = '#'
      · subst hc
        exact absurd (head_dropComments_inside s '=' hs) (by decide)
      · rw [← List.singleton_append, dropComments_append (by simpa using Ne.symm hc)] at hs
        exact hs

theorem isMagic_blankQuotes (q : Quote) (h : isMagic s = true) : isMagic (blankQuotes q.char s) = true := by
  have hp := isPass_blankQuotes q.char
  refine isMagic_map (fun c s hc => ?_) (fun s hs => ?_) h
  · have hq : q.char ≠ c := by
      rintro rfl
      exact hc (by cases q <;> decide)
    exact hp.skip c s (hp.not_isPrefix hq s)
  · cases s with
    | nil => cases hs
    | cons c s =>
      by_cases hc : q.char = c
      · rw [← hc, blankQuotes, if_pos rfl] at hs
        have hq : q.char = '=' := by
          split at hs <;> exact Option.some_inj.1 hs
        cases q <;> cases hq
      · rw [hp.skip c s (hp.not_isPrefix hc s)] at hs
        exact hs

end Heads

section Openers

variable {r : Rules} {q : Quote} {n : Nat} {line : List Char}

/-- The characters of a name that is used stand in the clean source. -/
theorem Rules.sublist_of_mem_used {ls : List (List Char)} {x : String} (h : x ∈ (r.extract (sourceOf ls)).used) :
    x.toList.Sublist (clean (unlines ls)) := by
  rw [sourceOf, extract_text, linesOf, String.toList_ofList] at h
  obtain ⟨⟨l, hl, -, w, hw, rfl⟩, -⟩ := mem_used.1 h
  rw [String.toList_ofList]
  exact (of_mem_wordsIn hw).2.sublist.trans ((readLine_rest_isSuffix l).sublist.trans (sublist_of_mem_lines hl))

/-- A line with one quote, and a name behind it. -/
def openLine (q : Quote) (n : Nat) : List Char := q.char :: List.replicate n 'x'

theorem quote_not_mem_name (q : Quote) (n : Nat) : q.char ∉ List.replicate n 'x' := by
  intro h
  have hx := List.eq_of_mem_replicate h
  cases q <;> cases hx

theorem not_mem_openLine {c : Char} (hx : c ≠ 'x') (hq : c ≠ q.char) : c ∉ openLine q n := by
  rw [openLine, List.mem_cons, List.mem_replicate]
  rintro (h | ⟨-, h⟩)
  · exact hq h
  · exact hx h

theorem hash_not_mem_openLine : '#' ∉ openLine q n :=
  not_mem_openLine (by decide) (by cases q <;> decide)

theorem tripleFree_openLine : TripleFree (openLine q n) := by
  intro p hp
  have hcount := hp.sublist.count_le p.char
  rw [openLine, List.count_cons, List.count_eq_zero.2 (quote_not_mem_name p n), List.count_replicate_self] at hcount
  split at hcount <;> omega

theorem clean_openLine : clean (openLine q n) = openLine q n := by
  refine clean_induction (motive := fun f => f (openLine q n) = openLine q n)
    (dropComments_eq_self hash_not_mem_openLine) fun p _ _ _ _ hp f hf => ?_
  dsimp only
  rw [hf]
  by_cases hpq : p = q
  · subst hpq
    exact hp.eq_self_of_open (quote_not_mem_name p n)
  · have hne : p.char ≠ q.char := fun h => hpq (Quote.char_injective h)
    exact hp.eq_self (not_mem_openLine (by cases p <;> decide) hne)

theorem readLine_openLine : readLine (openLine q n) = ⟨[], openLine q n⟩ := by
  cases q <;> rfl

theorem isMagic_openLine : isMagic (openLine q n) = false := by
  cases q <;> rfl

theorem wordsIn_openLine : wordsIn (openLine q (n + 1)) = [List.replicate (n + 1) 'x'] := by
  have hname : isName (List.replicate (n + 1) 'x') = true := by
    rw [List.replicate_succ, isName, Bool.and_eq_true, List.all_eq_true]
    refine ⟨by decide, fun c hc => ?_⟩
    rw [List.eq_of_mem_replicate hc]
    decide
  have hword : ∀ c ∈ List.replicate (n + 1) 'x', Text.isWord c = true := fun c hc =>
    isWord_of_isNameChar (Identifier.isNameChar_of_mem ⟨_, hname⟩ hc)
  have hq : Text.isWord q.char = false := by cases q <;> decide
  rw [openLine, wordsIn_cons_of_not_isWord hq, wordsIn_of_word hword, leadingName?_of_isName hname]
  rfl

theorem Rules.mem_used_openLine (h : String.ofList (List.replicate (n + 1) 'x') ∉ r.excluded) :
    String.ofList (List.replicate (n + 1) 'x') ∈ (r.extract (sourceOf [openLine q (n + 1)])).used := by
  have hlines : r.extract (sourceOf [openLine q (n + 1)]) = r.namesOf [openLine q (n + 1)] := by
    rw [sourceOf, extract_text, linesOf, String.toList_ofList]
    have hu : unlines [openLine q (n + 1)] = openLine q (n + 1) := by simp [unlines]
    rw [hu, clean_openLine]
    exact congrArg r.namesOf (lines_of_not_mem (not_mem_openLine (by decide) q.char_ne_newline.symm))
  rw [hlines, mem_used]
  refine ⟨⟨_, List.mem_singleton.2 rfl, ⟨List.cons_ne_nil _ _, by rw [isMagic_openLine, Bool.and_false]⟩,
    List.replicate (n + 1) 'x', ?_, rfl⟩, ?_, h⟩
  · rw [readLine_openLine, wordsIn_openLine]
    exact List.mem_singleton.2 rfl
  · rw [mem_assigned]
    rintro ⟨l, hl, -, t, ht, -⟩
    rw [List.mem_singleton.1 hl, readLine_openLine] at ht
    cases ht

/-- A quote on the next line takes the name into a literal. -/
theorem length_clean_openLine (h : TripleFree line) (hq : q.char ∈ dropComments false line)
    (hsingle : q = .double → '\'' ∉ dropComments false line) :
    (clean (openLine q n ++ '\n' :: line)).length ≤ line.length + 1 := by
  obtain ⟨u, v, huv, hu⟩ := List.eq_append_cons_of_mem hq
  have hbody : q.char ∉ List.replicate n 'x' ++ '\n' :: u := by
    rw [List.mem_append, List.mem_cons]
    rintro (hx | hx | hx)
    · exact quote_not_mem_name q n hx
    · exact q.char_ne_newline hx
    · exact hu hx
  have hcomments : dropComments false (openLine q n ++ '\n' :: line) =
      q.char :: ((List.replicate n 'x' ++ '\n' :: u) ++ q.char :: v) := by
    rw [dropComments_append_newline, dropComments_eq_self hash_not_mem_openLine, huv]
    simp [openLine]
  have hsub : (clean (openLine q n ++ '\n' :: line)).Sublist (q.char :: q.char :: v) := by
    rw [(tripleFree_append_newline.2 ⟨tripleFree_openLine, h⟩).clean_eq, hcomments]
    have hpass (p : Quote) (s : List Char) : (blankQuotes p.char s).Sublist s :=
      (isPass_blankQuotes p.char).sublist p.char_ne_newline s
    have hblanked := blankQuotes_quoted hbody v
    have hv := ((hpass q v).cons_cons q.char).cons_cons q.char
    rw [← hblanked] at hv
    cases q with
    | single => exact (hpass .double _).trans hv
    | double =>
      have hline := hsingle rfl
      rw [huv, List.mem_append, List.mem_cons, not_or, not_or] at hline
      have hnot : '\'' ∉ Quote.double.char :: ((List.replicate n 'x' ++ '\n' :: u) ++ Quote.double.char :: v) := by
        simp [Quote.char, hline]
      rw [(isPass_blankQuotes '\'').eq_self hnot]
      exact hv
  have hlength := hsub.length_le
  have hline := (dropComments_sublist false line).length_le
  rw [huv, List.length_append, List.length_cons] at hline
  simp only [List.length_cons] at hlength
  omega

end Openers

section Places

variable {r : Rules} {line : List Char} {before after : List (List Char)}

/-- A line is ignored if what cleaning leaves of it is a magic line. -/
theorem Rules.ignores_of_lineInserted {cleaned : List Char} (hskip : r.skipMagics = true)
    (hm : isMagic cleaned = true) (hcleaned : '\n' ∉ cleaned)
    (h : ∀ y, framed (before ++ line :: after) = before.flatMap ('\n' :: ·) ++ '\n' :: (line ++ '\n' :: y) →
      LineInserted cleaned (clean (before.flatMap ('\n' :: ·) ++ '\n' :: (line ++ '\n' :: y)))
        (clean (before.flatMap ('\n' :: ·) ++ '\n' :: y))) : r.Ignores line before after := by
  obtain ⟨y, hy⟩ := exists_framed after
  have hwithout : framed (before ++ after) = before.flatMap ('\n' :: ·) ++ '\n' :: y := by
    rw [framed, List.flatMap_append, List.append_assoc, ← framed, hy]
  have hwith : framed (before ++ line :: after) = before.flatMap ('\n' :: ·) ++ '\n' :: (line ++ '\n' :: y) := by
    rw [framed, List.flatMap_append, List.flatMap_cons, List.append_assoc, List.append_assoc, ← framed, hy,
      List.cons_append]
  rw [Ignores, extract_sourceOf, extract_sourceOf, hwith, hwithout]
  exact (h y hwith).namesOf_eq hskip hm hcleaned

theorem Rules.ignores_of_quoteFree (hskip : r.skipMagics = true) (hm : isMagic line = true) (hline : '\n' ∉ line)
    (h : QuoteFree (dropComments false line)) (before after : List (List Char)) : r.Ignores line before after :=
  ignores_of_lineInserted hskip (isMagic_dropComments hm) (fun hn => hline (mem_of_mem_dropComments hn))
    fun y _ => lineInserted_clean_of_quoteFree _ y h

theorem isClosed_flatMap (h : IsClosed (unlines before)) : IsClosed (before.flatMap ('\n' :: ·)) := by
  cases before with
  | nil => exact h
  | cons l ls =>
    have hnewline (s : List Char) : dropComments false ('\n' :: s) = '\n' :: dropComments false s :=
      dropComments_append_newline false [] s
    have hblank (s : List Char) : blankQuotes '\'' ('\n' :: s) = '\n' :: blankQuotes '\'' s :=
      (isPass_blankQuotes '\'').append (w := ['\n']) (by decide) s
    rw [flatMap_newline]
    refine ⟨?_, ?_⟩
    · rw [hnewline, List.count_cons_of_ne (by decide)]
      exact h.single
    · rw [hnewline, hblank, List.count_cons_of_ne (by decide)]
      exact h.double

theorem Rules.ignores_of_isClosed (hskip : r.skipMagics = true) (hm : isMagic line = true) (hline : '\n' ∉ line)
    (h : TripleFree (unlines (before ++ line :: after))) (hbefore : IsClosed (unlines before))
    (hclosed : IsClosed line) : r.Ignores line before after := by
  rw [tripleFree_unlines] at h
  have hfree : TripleFree line := h line (List.mem_append_right before List.mem_cons_self)
  have hmagic : isMagic (clean line) = true := by
    rw [hfree.clean_eq]
    exact isMagic_blankQuotes .double (isMagic_blankQuotes .single (isMagic_dropComments hm))
  refine ignores_of_lineInserted hskip hmagic (fun hn => hline ((clean_sublist line).subset hn)) fun y hy => ?_
  refine lineInserted_clean_of_isClosed _ y (isClosed_flatMap hbefore) hclosed ?_
  rw [← hy, tripleFree_framed]
  exact h

theorem exists_name_not_mem (l : List String) (k : Nat) :
    ∃ n, k ≤ n ∧ String.ofList (List.replicate (n + 1) 'x') ∉ l := by
  refine ⟨k + (l.map String.length).sum, Nat.le_add_right _ _, fun hm => ?_⟩
  have hlength := List.le_sum_of_mem (List.mem_map_of_mem (f := String.length) hm)
  rw [String.length_ofList, List.length_replicate] at hlength
  omega

/-- A line with quotes is not ignored behind a line that it takes into a literal. -/
theorem Rules.exists_not_ignores (hfree : TripleFree line) (h : ¬ QuoteFree (dropComments false line)) :
    ∃ l, TripleFree l ∧ ¬ r.Ignores line [l] [] := by
  have hquote : ∃ q : Quote, q.char ∈ dropComments false line ∧ (q = .double → '\'' ∉ dropComments false line) := by
    by_cases hs : '\'' ∈ dropComments false line
    · exact ⟨.single, hs, fun he => by cases he⟩
    · rw [quoteFree_iff, not_and, not_not] at h
      exact ⟨.double, h hs, fun _ => hs⟩
  obtain ⟨q, hq, hsingle⟩ := hquote
  obtain ⟨n, hn, hname⟩ := exists_name_not_mem r.excluded (line.length + 1)
  refine ⟨openLine q (n + 1), tripleFree_openLine, fun hi => ?_⟩
  have hused := mem_used_openLine (q := q) hname
  rw [Ignores, List.append_nil] at hi
  rw [← hi] at hused
  have hlength := (sublist_of_mem_used hused).length_le
  have hu : unlines ([openLine q (n + 1)] ++ [line]) = openLine q (n + 1) ++ '\n' :: line := by
    rw [List.singleton_append, unlines_cons_cons]
    simp [unlines]
  rw [hu, String.toList_ofList, List.length_replicate] at hlength
  have hclean := length_clean_openLine (n := n + 1) hfree hq hsingle
  omega

end Places

/-- A magic line without quotes outside of its comment is ignored in every source, and in sources without
three quotes in a row no other line is ignored at every place. A line with quotes is ignored where the
lines before it close their literals, and it closes its own. -/
theorem Rules.ignores_magic {r : Rules} {line : List Char} (hskip : r.skipMagics = true)
    (hm : isMagic line = true) (hline : '\n' ∉ line) :
    (QuoteFree (dropComments false line) → ∀ before after, r.Ignores line before after) ∧
      (TripleFree line →
        ((∀ before after, TripleFree (unlines (before ++ after)) → r.Ignores line before after) ↔
          QuoteFree (dropComments false line))) ∧
      ∀ before after, TripleFree (unlines (before ++ line :: after)) → IsClosed (unlines before) →
        IsClosed line → r.Ignores line before after := by
  have hfree := ignores_of_quoteFree hskip hm hline
  refine ⟨hfree, fun htriple => ⟨fun h => ?_, fun h before after _ => hfree h before after⟩,
    fun before after => ignores_of_isClosed hskip hm hline⟩
  by_contra hquote
  obtain ⟨l, hl, hn⟩ := exists_not_ignores (r := r) htriple hquote
  refine hn (h [l] [] ?_)
  rw [tripleFree_unlines]
  simpa using hl

/-- A command with a quote in its comment only, behind an open literal; and one with a literal, between an
assignment over a literal and a use. -/
theorem Rules.ignores_magic_behindLiterals :
    let r : Rules := ⟨true, reserved⟩
    let bare := "%time f(x) # it's".toList
    let quoted := "!grep -c 'a b' \"it = 1\"".toList
    let before := ["y = 'a'".toList]
    let after := ["z = y + \"w\" + v".toList]
    (r.skipMagics = true ∧ isMagic bare = true ∧ '\n' ∉ bare ∧ QuoteFree (dropComments false bare)) ∧
      r.Ignores bare ["s = 'a".toList] ["b' + c".toList] ∧
      (isMagic quoted = true ∧ '\n' ∉ quoted ∧ TripleFree quoted ∧ ¬ QuoteFree (dropComments false quoted)) ∧
      (¬ ∀ before after, TripleFree (unlines (before ++ after)) → r.Ignores quoted before after) ∧
      (TripleFree (unlines (before ++ quoted :: after)) ∧ IsClosed (unlines before) ∧ IsClosed quoted) ∧
      r.Ignores quoted before after ∧
      r.extract (sourceOf (before ++ quoted :: after)) = ⟨.ofList ["y", "z"], .ofList ["v"]⟩ := by
  intro r bare quoted before after
  have htriple : TripleFree quoted := fun q => by cases q <;> decide
  have hquote : ¬ QuoteFree (dropComments false quoted) := by decide
  have hsource : TripleFree (unlines (before ++ quoted :: after)) := fun q => by cases q <;> decide
  have hbefore : IsClosed (unlines before) := ⟨by decide, by decide⟩
  have hclosed : IsClosed quoted := ⟨by decide, by decide⟩
  have hbare : isMagic bare = true := by decide
  have hquoted : isMagic quoted = true := by decide
  have hfree : QuoteFree (dropComments false bare) := by decide
  obtain ⟨hall, -, -⟩ := Rules.ignores_magic (r := r) rfl hbare (by decide)
  obtain ⟨-, hexact, hplace⟩ := Rules.ignores_magic (r := r) rfl hquoted (by decide)
  exact ⟨⟨rfl, hbare, by decide, hfree⟩, hall hfree _ _, ⟨hquoted, by decide, htriple, hquote⟩,
    fun h => hquote ((hexact htriple).1 h), ⟨hsource, hbefore, hclosed⟩, hplace before after hsource hbefore hclosed,
    by decide +kernel⟩

/-- The apostrophe of a command opens a literal, which takes the assignment on the next line to the command. -/
theorem Rules.not_ignores_magic : ¬ ∀ (r : Rules) (line : List Char) (before after : List (List Char)),
    r.skipMagics = true → isMagic line = true → '\n' ∉ line → TripleFree (unlines (before ++ line :: after)) →
      r.Ignores line before after := by
  intro h
  let r : Rules := ⟨true, reserved⟩
  let line := "!echo it's".toList
  let after := ["x = 'a' + y".toList]
  have hi := h r line [] after rfl (by decide) (by decide) fun q => by cases q <;> decide
  have hwith : r.extract (sourceOf ([] ++ line :: after)) = ⟨.empty, .empty⟩ := by decide +kernel
  have hwithout : r.extract (sourceOf ([] ++ after)) = ⟨.ofList ["x"], .ofList ["y"]⟩ := by decide +kernel
  rw [Rules.Ignores, hwith, hwithout] at hi
  exact absurd hi (by decide)

end CellFlow.Names
