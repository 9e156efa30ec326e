import CellFlow.Names.Clean
import CellFlow.Proofs.Text.Parts
import Mathlib.Algebra.Group.Nat.Even

/-!
The passes that clean a source, line by line. Comments end with their line. A pass over quotes goes from
mark to mark, so at the end of a line it is either outside of all marks, or inside, behind a mark that
waits for its partner; a line without quotes cannot change which of the two it is.
-/

set_option autoImplicit false

namespace CellFlow.Names

inductive Quote where
  | single | double
  deriving DecidableEq, Repr

def Quote.char : Quote → Char
  | .single => '\''
  | .double => '"'

theorem Quote.char_injective {q q' : Quote} (h : q.char = q'.char) : q = q' := by
  cases q <;> cases q' <;> first | rfl | cases h

theorem Quote.char_ne_newline (q : Quote) : q.char ≠ '\n' := by cases q <;> decide

/-- No quote of either kind. -/
def QuoteFree (s : List Char) : Prop := ∀ q : Quote, q.char ∉ s

theorem quoteFree_iff {s : List Char} : QuoteFree s ↔ '\'' ∉ s ∧ '"' ∉ s := by
  constructor
  · exact fun h => ⟨h .single, h .double⟩
  · intro h q
    cases q with
    | single => exact h.1
    | double => exact h.2

instance : DecidablePred QuoteFree := fun _ => decidable_of_iff _ quoteFree_iff.symm

section Comments

variable {s t w : List Char}

theorem dropComments_append_newline (inside : Bool) (s t : List Char) :
    dropComments inside (s ++ '\n' :: t) = dropComments inside s ++ '\n' :: dropComments false t := by
  induction s generalizing inside with
  | nil => rfl
  | cons c s ih =>
    rw [List.cons_append, dropComments, dropComments]
    by_cases hc : c = '\n'
    · rw [if_pos hc, if_pos hc, ih, List.cons_append]
    · rw [if_neg hc, if_neg hc]
      split
      · rw [ih]
      · rw [ih, List.cons_append]

theorem dropComments_append (h : '#' ∉ w) (s : List Char) :
    dropComments false (w ++ s) = w ++ dropComments false s := by
  induction w with
  | nil => rfl
  | cons c w ih =>
    rw [List.mem_cons, not_or] at h
    have hc : ¬ (false = true ∨ c = '#') := by simpa using Ne.symm h.1
    rw [List.cons_append, dropComments, if_neg hc, ih h.2, ite_self, List.cons_append]

theorem dropComments_eq_self (h : '#' ∉ w) : dropComments false w = w := by
  have he := dropComments_append h []
  rwa [List.append_nil, dropComments, List.append_nil] at he

theorem dropComments_inside (h : '\n' ∉ w) : dropComments true w = [] := by
  induction w with
  | nil => rfl
  | cons c w ih =>
    rw [List.mem_cons, not_or] at h
    rw [dropComments, if_neg (Ne.symm h.1), if_pos (.inl rfl), ih h.2]

theorem dropComments_isPrefix (h : '\n' ∉ w) : dropComments false w <+: w := by
  induction w with
  | nil => exact List.prefix_rfl
  | cons c w ih =>
    rw [List.mem_cons, not_or] at h
    rw [dropComments, if_neg (Ne.symm h.1)]
    split
    · rw [dropComments_inside h.2]
      exact List.nil_prefix
    · exact (List.cons_prefix_cons.2 ⟨rfl, ih h.2⟩)

theorem dropComments_sublist (inside : Bool) (s : List Char) : (dropComments inside s).Sublist s := by
  induction s generalizing inside with
  | nil => exact List.Sublist.refl []
  | cons c s ih =>
    rw [dropComments]
    split
    · exact (ih false).cons_cons c
    · split
      · exact (ih true).cons c
      · exact (ih false).cons_cons c

theorem mem_of_mem_dropComments {inside : Bool} {c : Char} (h : c ∈ dropComments inside s) : c ∈ s :=
  (dropComments_sublist inside s).subset h

end Comments

/-- A pass that goes from mark to mark: it leaves the text outside as it is, and writes `left` for two
marks with what stands between them. A mark without a partner changes nothing. -/
structure IsPass (q : Char) (mark left : List Char) (pass : List Char → List Char)
    (leave : List Char → Option (List Char)) : Prop where
  mark_ne_nil : mark ≠ []
  eq_of_mem : ∀ c ∈ mark, c = q
  left_sublist : left.Sublist (mark ++ mark)
  nil : pass [] = []
  skip : ∀ a s, ¬ mark <+: a :: s → pass (a :: s) = a :: pass s
  enter : ∀ s, pass (mark ++ s) = ((leave s).map (left ++ ·)).getD (mark ++ s)
  leave_nil : leave [] = none
  leave_skip : ∀ a s, ¬ mark <+: a :: s → leave (a :: s) = leave s
  leave_mark : ∀ s, leave (mark ++ s) = some (pass s)

theorem isPass_dropTriples (q : Char) : IsPass q [q, q, q] [] (dropTriples q) (leaveTriple q) where
  mark_ne_nil := List.cons_ne_nil q _
  eq_of_mem := by simp
  left_sublist := List.nil_sublist _
  nil := rfl
  skip := by
    rintro a (_ | ⟨b, _ | ⟨c, s⟩⟩) h
    · rfl
    · rfl
    · have hq : ¬ (a = q ∧ b = q ∧ c = q) := by
        rintro ⟨rfl, rfl, rfl⟩
        exact h ⟨s, rfl⟩
      rw [dropTriples, if_neg hq]
  enter := by
    intro s
    rw [List.cons_append, List.cons_append, List.cons_append, dropTriples, if_pos ⟨rfl, rfl, rfl⟩]
    simp
  leave_nil := rfl
  leave_skip := by
    rintro a (_ | ⟨b, _ | ⟨c, s⟩⟩) h
    · rfl
    · rfl
    · have hq : ¬ (a = q ∧ b = q ∧ c = q) := by
        rintro ⟨rfl, rfl, rfl⟩
        exact h ⟨s, rfl⟩
      rw [leaveTriple, if_neg hq]
  leave_mark := by
    intro s
    rw [List.cons_append, List.cons_append, List.cons_append, leaveTriple, if_pos ⟨rfl, rfl, rfl⟩, List.nil_append]

theorem isPass_blankQuotes (q : Char) : IsPass q [q] [q, q] (blankQuotes q) (leaveQuote q) where
  mark_ne_nil := List.cons_ne_nil q _
  eq_of_mem := by simp
  left_sublist := List.Sublist.refl _
  nil := rfl
  skip := by
    intro a s h
    have hq : a ≠ q := by
      rintro rfl
      exact h ⟨s, rfl⟩
    rw [blankQuotes, if_neg hq]
  enter := by
    intro s
    rw [List.singleton_append, blankQuotes, if_pos rfl]
    cases leaveQuote q s <;> rfl
  leave_nil := rfl
  leave_skip := by
    intro a s h
    have hq : a ≠ q := by
      rintro rfl
      exact h ⟨s, rfl⟩
    rw [leaveQuote, if_neg hq]
  leave_mark := by
    intro s
    rw [List.singleton_append, leaveQuote, if_pos rfl]

namespace IsPass

variable {q : Char} {mark left w : List Char} {pass : List Char → List Char}
  {leave : List Char → Option (List Char)}

theorem not_isPrefix (h : IsPass q mark left pass leave) {c : Char} (hc : q ≠ c) (s : List Char) :
    ¬ mark <+: c :: s := by
  intro hm
  obtain ⟨d, m, rfl⟩ := List.exists_cons_of_ne_nil h.mark_ne_nil
  rw [List.cons_prefix_cons] at hm
  exact hc (by rw [← hm.1, h.eq_of_mem d List.mem_cons_self])

theorem not_mem_mark (h : IsPass q mark left pass leave) {c : Char} (hc : q ≠ c) : c ∉ mark :=
  fun hm => hc (h.eq_of_mem c hm).symm

theorem append (h : IsPass q mark left pass leave) (hw : q ∉ w) (s : List Char) :
    pass (w ++ s) = w ++ pass s := by
  induction w with
  | nil => rfl
  | cons c w ih =>
    rw [List.mem_cons, not_or] at hw
    rw [List.cons_append, h.skip _ _ (h.not_isPrefix hw.1 _), ih hw.2, List.cons_append]

theorem leave_append (h : IsPass q mark left pass leave) (hw : q ∉ w) (s : List Char) :
    leave (w ++ s) = leave s := by
  induction w with
  | nil => rfl
  | cons c w ih =>
    rw [List.mem_cons, not_or] at hw
    rw [List.cons_append, h.leave_skip _ _ (h.not_isPrefix hw.1 _), ih hw.2]

theorem eq_self (h : IsPass q mark left pass leave) (hw : q ∉ w) : pass w = w := by
  have he := h.append hw []
  rwa [List.append_nil, h.nil, List.append_nil] at he

theorem leave_eq_none (h : IsPass q mark left pass leave) (hw : q ∉ w) : leave w = none := by
  have he := h.leave_append hw []
  rwa [List.append_nil, h.leave_nil] at he

theorem eq_self_of_not_isInfix (h : IsPass q mark left pass leave) {s : List Char} (hs : ¬ mark <:+: s) :
    pass s = s := by
  induction s with
  | nil => exact h.nil
  | cons c s ih =>
    rw [List.infix_cons_iff, not_or] at hs
    rw [h.skip _ _ hs.1, ih hs.2]

/-- A mark for which no partner comes stays, with what stands behind it. -/
theorem eq_self_of_open (h : IsPass q mark left pass leave) {s : List Char} (hs : q ∉ s) : pass (q :: s) = q :: s := by
  by_cases hm : mark <+: q :: s
  · obtain ⟨y, hy⟩ := hm
    obtain ⟨c, k, hk⟩ := List.exists_cons_of_ne_nil h.mark_ne_nil
    have hks : k ++ y = s := by
      rw [hk, List.cons_append] at hy
      exact (List.cons.inj hy).2
    have hqy : q ∉ y := fun hmem => hs (hks ▸ List.mem_append_right k hmem)
    rw [← hy, h.enter, h.leave_eq_none hqy]
    rfl
  · rw [h.skip _ _ hm, h.eq_self hs]

theorem quoted (h : IsPass q mark left pass leave) {body : List Char} (hb : q ∉ body) (s : List Char) :
    pass (mark ++ (body ++ (mark ++ s))) = left ++ pass s := by
  rw [h.enter, h.leave_append hb, h.leave_mark]
  rfl

/-- A mark stands in one line. -/
theorem isPrefix_append_newline (h : IsPass q mark left pass leave) (hq : q ≠ '\n') (a : Char) (s t : List Char) :
    mark <+: a :: (s ++ '\n' :: t) ↔ mark <+: a :: s := by
  rw [← List.cons_append, Text.isPrefix_append_cons (h.not_mem_mark hq)]

/-- Inside, a pass looks for the next mark, and nothing else. -/
theorem leave_cases (h : IsPass q mark left pass leave) (hq : q ≠ '\n') (x : List Char) :
    (leave x = none ∧ ∀ t, leave (x ++ '\n' :: t) = leave t) ∨
      ∃ b r, x = b ++ (mark ++ r) ∧ ∀ t, leave (b ++ (mark ++ t)) = some (pass t) := by
  induction x with
  | nil => exact .inl ⟨h.leave_nil, fun t => h.leave_skip _ _ (h.not_isPrefix hq t)⟩
  | cons a x ih =>
    by_cases hm : mark <+: a :: x
    · obtain ⟨r, hr⟩ := hm
      exact .inr ⟨[], r, hr.symm, h.leave_mark⟩
    · rcases ih with ⟨hn, ht⟩ | ⟨b, r, rfl, ht⟩
      · refine .inl ⟨by rw [h.leave_skip _ _ hm, hn], fun t => ?_⟩
        rw [List.cons_append, h.leave_skip _ _ (mt (h.isPrefix_append_newline hq a x t).1 hm), ht]
      · refine .inr ⟨a :: b, r, rfl, fun t => ?_⟩
        -- Whether a mark starts here does not depend on what stands behind the mark found.
        have hstart (t : List Char) : mark <+: a :: (b ++ (mark ++ t)) ↔ mark <+: a :: (b ++ mark) := by
          have hl : mark.length ≤ (a :: (b ++ mark)).length := by
            rw [List.length_cons, List.length_append]
            omega
          rw [← List.append_assoc, ← List.cons_append, List.isPrefix_append_of_length hl]
        have hmt : ¬ mark <+: a :: (b ++ (mark ++ t)) := by rwa [hstart, ← hstart r]
        rw [List.cons_append, h.leave_skip _ _ hmt, ht]

/-- A text is gone through from the left: a character outside of marks, a mark that waits for its partner,
or two marks with what stands between them. -/
theorem induct (h : IsPass q mark left pass leave) (hq : q ≠ '\n') {motive : List Char → Prop} (nil : motive [])
    (skip : ∀ a s, ¬ mark <+: a :: s → motive s → motive (a :: s))
    (opened : ∀ s, leave s = none → (∀ t, leave (s ++ '\n' :: t) = leave t) → motive (mark ++ s))
    (closed : ∀ b s, (∀ t, leave (b ++ (mark ++ t)) = some (pass t)) → motive s →
      motive (mark ++ (b ++ (mark ++ s)))) (s : List Char) : motive s := by
  induction hn : s.length using Nat.strong_induction_on generalizing s with
  | h n ih =>
  cases s with
  | nil => exact nil
  | cons a s =>
    by_cases hm : mark <+: a :: s
    · obtain ⟨y, hy⟩ := hm
      rw [← hy] at hn ⊢
      rcases h.leave_cases hq y with ⟨hnone, ht⟩ | ⟨b, r, rfl, ht⟩
      · exact opened y hnone ht
      · have hpos := List.length_pos_iff.2 h.mark_ne_nil
        simp only [List.length_append] at hn
        exact closed b r ht (ih r.length (by omega) r rfl)
    · exact skip a s hm (ih s.length (by rw [← hn]; exact Nat.lt_succ_self _) s rfl)

/-- At the end of a line a pass is outside, or inside with a text `b` that stays if the mark in front
of it finds no partner. -/
theorem atLineEnd (h : IsPass q mark left pass leave) (hq : q ≠ '\n') (x : List Char) :
    (∀ t, pass (x ++ '\n' :: t) = pass x ++ '\n' :: pass t) ∨
      ∃ a b, pass x = a ++ b ∧
        ∀ t, pass (x ++ '\n' :: t) = a ++ ((leave t).map (left ++ ·)).getD (b ++ '\n' :: t) := by
  induction x using h.induct hq with
  | nil =>
    refine .inl fun t => ?_
    rw [List.nil_append, h.skip _ _ (h.not_isPrefix hq t), h.nil, List.nil_append]
  | skip a x hm ih =>
    have hx : pass (a :: x) = a :: pass x := h.skip _ _ hm
    have hxt (t : List Char) : pass (a :: x ++ '\n' :: t) = a :: pass (x ++ '\n' :: t) :=
      h.skip _ _ (mt (h.isPrefix_append_newline hq a x t).1 hm)
    rcases ih with hc | ⟨b, c, hb, ho⟩
    · exact .inl fun t => by rw [hxt, hc, hx, List.cons_append]
    · exact .inr ⟨a :: b, c, by rw [hx, hb, List.cons_append], fun t => by rw [hxt, ho, List.cons_append]⟩
  | opened y hnone ht =>
    refine .inr ⟨[], mark ++ y, by rw [h.enter, hnone]; rfl, fun t => ?_⟩
    rw [List.append_assoc, h.enter, ht, List.nil_append]
  | closed b r ht ih =>
    have hx (t : List Char) : pass (mark ++ (b ++ (mark ++ t))) = left ++ pass t := by
      rw [h.enter, ht]
      rfl
    have hxt (t : List Char) : pass (mark ++ (b ++ (mark ++ r)) ++ '\n' :: t) = left ++ pass (r ++ '\n' :: t) := by
      rw [List.append_assoc, List.append_assoc, List.append_assoc, hx]
    rcases ih with hc | ⟨c, d, hd, ho⟩
    · exact .inl fun t => by rw [hxt, hc, hx, List.append_assoc]
    · exact .inr ⟨left ++ c, d, by rw [hx, hd, List.append_assoc], fun t => by rw [hxt, ho, List.append_assoc]⟩

/-- A pass takes characters out, and puts none in. -/
theorem sublist (h : IsPass q mark left pass leave) (hq : q ≠ '\n') (s : List Char) : (pass s).Sublist s := by
  induction s using h.induct hq with
  | nil => rw [h.nil]
  | skip a s hm ih =>
    rw [h.skip _ _ hm]
    exact ih.cons_cons a
  | opened s hnone _ =>
    rw [h.enter, hnone]
    exact List.Sublist.refl _
  | closed b s ht ih =>
    rw [h.enter, ht]
    have hmarks : (mark ++ mark).Sublist (mark ++ (b ++ mark)) :=
      (List.sublist_append_right b mark).append_left mark
    have hs := (h.left_sublist.trans hmarks).append ih
    rwa [List.append_assoc, List.append_assoc] at hs

/-- A pass goes by lines where the lines before, or those behind, have no quote. -/
theorem append_newline (h : IsPass q mark left pass leave) (hq : q ≠ '\n') {s t : List Char}
    (hst : q ∉ s ∨ q ∉ t) : pass (s ++ '\n' :: t) = pass s ++ '\n' :: pass t := by
  rcases hst with hs | ht
  · rw [h.append hs, h.skip _ _ (h.not_isPrefix hq t), h.eq_self hs]
  · rcases h.atLineEnd hq s with hc | ⟨a, b, hs, ho⟩
    · exact hc t
    · rw [ho, h.leave_eq_none ht, Option.map_none, Option.getD_none, hs, h.eq_self ht, List.append_assoc]

end IsPass

theorem blankQuotes_quoted {q : Char} {body : List Char} (h : q ∉ body) (s : List Char) :
    blankQuotes q (q :: (body ++ q :: s)) = q :: q :: blankQuotes q s :=
  (isPass_blankQuotes q).quoted h s

/-- Behind an even number of quotes the pass is outside, and behind an odd number it is inside. -/
theorem blankQuotes_append_by_parity (q : Char) (s t : List Char) :
    (Even (s.count q) → blankQuotes q (s ++ t) = blankQuotes q s ++ blankQuotes q t) ∧
      (¬ Even (s.count q) → ∃ u, leaveQuote q s = some u ∧ leaveQuote q (s ++ t) = some (u ++ blankQuotes q t)) := by
  induction s with
  | nil => exact ⟨fun _ => rfl, fun h => absurd (by simp) h⟩
  | cons a s ih =>
    obtain ⟨houtside, hinside⟩ := ih
    by_cases ha : a = q
    · rw [ha, List.count_cons_self, Nat.even_add_one, not_not, List.cons_append, blankQuotes, blankQuotes, leaveQuote,
        leaveQuote, if_pos rfl, if_pos rfl, if_pos rfl, if_pos rfl]
      refine ⟨fun h => ?_, fun h => ⟨_, rfl, by rw [houtside h]⟩⟩
      obtain ⟨u, hs, ht⟩ := hinside h
      rw [hs, ht]
      rfl
    · rw [List.count_cons_of_ne ha, List.cons_append, blankQuotes, blankQuotes, leaveQuote, leaveQuote, if_neg ha,
        if_neg ha, if_neg ha, if_neg ha]
      exact ⟨fun h => by rw [houtside h, List.cons_append], hinside⟩

theorem blankQuotes_append_newline {q : Char} (hq : q ≠ '\n') {s : List Char} (h : Even (s.count q)) (t : List Char) :
    blankQuotes q (s ++ '\n' :: t) = blankQuotes q s ++ '\n' :: blankQuotes q t := by
  have hp := isPass_blankQuotes q
  rw [(blankQuotes_append_by_parity q s _).1 h, hp.skip _ _ (hp.not_isPrefix hq t)]

/-- What holds of a text without its comments, and is kept by each pass over quotes, holds of the clean
text. -/
theorem clean_induction {motive : (List Char → List Char) → Prop} (start : motive (dropComments false))
    (step : ∀ (q : Quote) {mark left : List Char} {pass : List Char → List Char}
      {leave : List Char → Option (List Char)}, IsPass q.char mark left pass leave →
        ∀ f, motive f → motive fun s => pass (f s)) : motive clean := by
  have hsingles := step .single (isPass_dropTriples _) _ start
  have hdoubles := step .double (isPass_dropTriples _) _ hsingles
  have hsingle := step .single (isPass_blankQuotes _) _ hdoubles
  exact step .double (isPass_blankQuotes _) _ hsingle

/-- Cleaning takes characters out, and puts none in. -/
theorem clean_sublist (s : List Char) : (clean s).Sublist s :=
  clean_induction (motive := fun f => ∀ s, (f s).Sublist s) (dropComments_sublist false)
    (fun q _ _ _ _ hp f hf s => (hp.sublist q.char_ne_newline (f s)).trans (hf s)) s

end CellFlow.Names
