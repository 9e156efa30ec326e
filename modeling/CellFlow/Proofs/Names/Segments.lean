import CellFlow.Proofs.Names.Passes

/-!
Sources in segments: code, comments, literals of one line, and literals between three quotes. Cleaning
takes a well-formed source segment by segment: no pass reaches from one segment into another, and what is
left of the segments never makes a new mark.
-/

set_option autoImplicit false

namespace CellFlow.Names

inductive Segment where
  | code (text : List Char)
  | comment (text : List Char)
  | literal (quote : Quote) (body : List Char)
  | triple (quote : Quote) (body : List Char)
  deriving DecidableEq, Repr

namespace Segment

def text : Segment → List Char
  | code text => text
  | comment text => '#' :: text
  | literal quote body => quote.char :: (body ++ [quote.char])
  | triple quote body => List.replicate 3 quote.char ++ (body ++ List.replicate 3 quote.char)

/-- What cleaning leaves of a segment. -/
def cleaned : Segment → List Char
  | code text => text
  | comment _ => []
  | literal quote _ => [quote.char, quote.char]
  | triple _ _ => []

def IsRegular : Segment → Prop
  | code text => QuoteFree text ∧ '#' ∉ text
  | comment text => '\n' ∉ text
  | literal _ body => QuoteFree body ∧ '#' ∉ body ∧ '\n' ∉ body
  | triple _ body => QuoteFree body ∧ '#' ∉ body

instance : DecidablePred IsRegular
  | code text => inferInstanceAs (Decidable (QuoteFree text ∧ '#' ∉ text))
  | comment text => inferInstanceAs (Decidable ('\n' ∉ text))
  | literal _ body => inferInstanceAs (Decidable (QuoteFree body ∧ '#' ∉ body ∧ '\n' ∉ body))
  | triple _ body => inferInstanceAs (Decidable (QuoteFree body ∧ '#' ∉ body))

def quote? : Segment → Option Quote
  | code _ => none
  | comment _ => none
  | literal quote _ => some quote
  | triple quote _ => some quote

def isComment : Segment → Bool
  | comment _ => true
  | _ => false

def isTriple : Segment → Bool
  | triple _ _ => true
  | _ => false

theorem quote_not_mem_text {s : Segment} {q : Quote} (hs : s.IsRegular) (hc : s.isComment = false)
    (hq : s.quote? ≠ some q) : q.char ∉ s.text := by
  cases s with
  | code t => exact hs.1 q
  | comment t => cases hc
  | literal quote body =>
    have hne : q.char ≠ quote.char := fun h => hq (congrArg some (Quote.char_injective h).symm)
    simp [text, hne, hs.1 q]
  | triple quote body =>
    have hne : q.char ≠ quote.char := fun h => hq (congrArg some (Quote.char_injective h).symm)
    simp [text, hne, hs.1 q]

theorem hash_not_mem_text {s : Segment} (hs : s.IsRegular) (hc : s.isComment = false) : '#' ∉ s.text := by
  have hne (q : Quote) : '#' ≠ q.char := by cases q <;> decide
  cases s with
  | code t => exact hs.2
  | comment t => cases hc
  | literal quote body => simp [text, hne quote, hs.2.1]
  | triple quote body => simp [text, hne quote, hs.2]

end Segment

open Segment

def textOf (segments : List Segment) : List Char := segments.flatMap Segment.text

/-- Each comment goes up to the end of its line, or of the text. -/
def commentsEnd : List Segment → Bool
  | [] => true
  | .comment _ :: segments => (textOf segments).head?.all (· == '\n') && commentsEnd segments
  | _ :: segments => commentsEnd segments

/-- At least one character of code stands between any two literals; `after` tells that none has come
since the last literal. -/
def isSpaced (after : Bool) : List Segment → Bool
  | [] => true
  | .code text :: segments => isSpaced (after && text.isEmpty) segments
  | .comment _ :: segments => isSpaced after segments
  | .literal _ _ :: segments => !after && isSpaced true segments
  | .triple _ _ :: segments => !after && isSpaced true segments

structure IsWellFormed (segments : List Segment) : Prop where
  regular : ∀ s ∈ segments, s.IsRegular
  comments : commentsEnd segments = true
  literals : isSpaced false segments = true

/-- Segments without comments, well spaced. -/
structure IsBare (segments : List Segment) : Prop where
  regular : ∀ s ∈ segments, s.IsRegular
  comments : ∀ s ∈ segments, s.isComment = false
  literals : isSpaced false segments = true

/-- Code and literals of one line. -/
structure IsShort (segments : List Segment) : Prop where
  regular : ∀ s ∈ segments, s.IsRegular
  comments : ∀ s ∈ segments, s.isComment = false
  triples : ∀ s ∈ segments, s.isTriple = false

section Steps

variable {segments : List Segment} {q : Quote}

/-- A pass that takes each segment for itself. -/
theorem pass_textOf {pass : List Char → List Char} {f : Segment → Segment} {P : List Segment → Prop}
    (hnil : pass [] = []) (htail : ∀ s rest, P (s :: rest) → P rest)
    (hstep : ∀ s rest, P (s :: rest) → pass (s.text ++ textOf rest) = (f s).text ++ pass (textOf rest))
    (h : P segments) : pass (textOf segments) = textOf (segments.map f) := by
  induction segments with
  | nil => exact hnil
  | cons s rest ih =>
    rw [textOf, List.flatMap_cons, ← textOf, hstep s rest h, ih (htail s rest h), List.map_cons, textOf,
      textOf, List.flatMap_cons]

def withoutComment : Segment → Segment
  | .comment _ => .code []
  | s => s

def withoutTriple (q : Quote) : Segment → Segment
  | .triple quote body => if quote = q then .code [] else .triple quote body
  | s => s

def emptied (q : Quote) : Segment → Segment
  | .literal quote body => .literal quote (if quote = q then [] else body)
  | s => s

/-- A comment that goes up to the end of its line. -/
theorem dropComments_comment {t s : List Char} (ht : '\n' ∉ t) (hs : s.head?.all (· == '\n') = true) :
    dropComments true (t ++ s) = dropComments false s := by
  cases s with
  | nil => rw [List.append_nil, dropComments_inside ht, dropComments]
  | cons c s =>
    have hc : c = '\n' := by simpa using hs
    subst hc
    rw [dropComments_append_newline, dropComments_inside ht, dropComments, if_pos rfl, List.nil_append]

theorem commentsEnd_of_cons {s : Segment} (h : commentsEnd (s :: segments) = true) :
    commentsEnd segments = true := by
  cases s with
  | comment t => exact (Bool.and_eq_true_iff.1 h).2
  | code t => exact h
  | literal quote body => exact h
  | triple quote body => exact h

theorem dropComments_textOf (h : IsWellFormed segments) :
    dropComments false (textOf segments) = textOf (segments.map withoutComment) := by
  refine pass_textOf (P := fun segments => (∀ s ∈ segments, s.IsRegular) ∧ commentsEnd segments = true) rfl
    (fun s rest h => ⟨fun t ht => h.1 t (List.mem_cons_of_mem s ht), commentsEnd_of_cons h.2⟩) ?_ ⟨h.regular, h.comments⟩
  intro s rest ⟨hr, hc⟩
  have hs := hr s List.mem_cons_self
  cases s with
  | comment t => exact dropComments_comment hs (Bool.and_eq_true_iff.1 hc).1
  | code t => exact dropComments_append (hash_not_mem_text hs rfl) _
  | literal quote body => exact dropComments_append (hash_not_mem_text hs rfl) _
  | triple quote body => exact dropComments_append (hash_not_mem_text hs rfl) _

theorem isSpaced_of_cons {s : Segment} {after : Bool} (h : isSpaced after (s :: segments) = true) :
    ∃ after, isSpaced after segments = true := by
  cases s with
  | code t => exact ⟨_, h⟩
  | comment t => exact ⟨_, h⟩
  | literal quote body => exact ⟨_, (Bool.and_eq_true_iff.1 h).2⟩
  | triple quote body => exact ⟨_, (Bool.and_eq_true_iff.1 h).2⟩

theorem isSpaced_false (h : isSpaced true segments = true) : isSpaced false segments = true := by
  induction segments with
  | nil => rfl
  | cons s rest ih =>
    cases s with
    | code t =>
      rw [isSpaced, Bool.false_and]
      rw [isSpaced, Bool.true_and] at h
      cases ht : t.isEmpty with
      | true => exact ih (by rwa [ht] at h)
      | false => rwa [ht] at h
    | comment t => exact ih h
    | literal quote body => cases h
    | triple quote body => cases h

/-- Behind a literal a source does not go on with a quote. -/
theorem head_textOf_ne (hr : ∀ s ∈ segments, s.IsRegular) (h : isSpaced true segments = true) :
    ∀ c ∈ (textOf segments).head?, q.char ≠ c := by
  induction segments with
  | nil => simp [textOf]
  | cons s rest ih =>
    have hrest := ih fun t ht => hr t (List.mem_cons_of_mem s ht)
    have hs := hr s List.mem_cons_self
    cases s with
    | code t =>
      cases t with
      | nil => exact hrest h
      | cons c t =>
        intro d hd
        cases hd
        exact fun he => hs.1 q (he ▸ List.mem_cons_self)
    | comment t =>
      intro d hd
      cases hd
      cases q <;> decide
    | literal quote body => cases h
    | triple quote body => cases h

theorem dropTriples_literal {q : Char} {body s : List Char} (hb : q ∉ body) (hs : ∀ c ∈ s.head?, q ≠ c) :
    dropTriples q (q :: (body ++ q :: s)) = q :: (body ++ q :: dropTriples q s) := by
  have hp := isPass_dropTriples q
  have hstop (m : List Char) : ¬ q :: m <+: s := by
    cases s with
    | nil => simp
    | cons c s => simp [hs c rfl]
  have hclose : ¬ [q, q, q] <+: q :: s := fun h => hstop [q] (List.cons_prefix_cons.1 h).2
  have hopen : ¬ [q, q, q] <+: q :: (body ++ q :: s) := by
    rw [List.cons_prefix_cons]
    rintro ⟨-, h⟩
    cases body with
    | nil => exact hstop [] (List.cons_prefix_cons.1 h).2
    | cons b body => exact hb ((List.cons_prefix_cons.1 h).1 ▸ List.mem_cons_self)
  rw [hp.skip _ _ hopen, hp.append hb, hp.skip _ _ hclose]

theorem dropTriples_textOf (q : Quote) (h : IsBare segments) :
    dropTriples q.char (textOf segments) = textOf (segments.map (withoutTriple q)) := by
  refine pass_textOf (P := fun segments => (∀ s ∈ segments, s.IsRegular) ∧
    (∀ s ∈ segments, s.isComment = false) ∧ ∃ after, isSpaced after segments = true) rfl
    (fun s rest h => ⟨fun t ht => h.1 t (List.mem_cons_of_mem s ht), fun t ht => h.2.1 t (List.mem_cons_of_mem s ht),
      h.2.2.elim fun _ => isSpaced_of_cons⟩) ?_ ⟨h.regular, h.comments, false, h.literals⟩
  intro s rest ⟨hr, hc, after, h⟩
  have hp := isPass_dropTriples q.char
  have hs := hr s List.mem_cons_self
  have hother := quote_not_mem_text hs (hc s List.mem_cons_self) (q := q)
  cases s with
  | comment t => exact absurd (hc _ List.mem_cons_self) (by simp [isComment])
  | code t => exact hp.append (hother (by simp [quote?])) _
  | literal quote body =>
    by_cases hq : quote = q
    · subst hq
      have hhead := head_textOf_ne (q := quote) (fun t ht => hr t (List.mem_cons_of_mem _ ht))
        (Bool.and_eq_true_iff.1 h).2
      simpa [text, withoutTriple] using dropTriples_literal (hs.1 quote) hhead
    · exact hp.append (hother (by simpa [quote?] using hq)) _
  | triple quote body =>
    by_cases hq : quote = q
    · subst hq
      simpa [text, withoutTriple] using hp.quoted (hs.1 quote) (textOf rest)
    · rw [withoutTriple, if_neg hq]
      exact hp.append (hother (by simpa [quote?] using hq)) _

theorem blankQuotes_textOf (q : Quote) (h : IsShort segments) :
    blankQuotes q.char (textOf segments) = textOf (segments.map (emptied q)) := by
  refine pass_textOf (P := IsShort) rfl (fun s rest h => ⟨fun t ht => h.regular t (List.mem_cons_of_mem s ht),
    fun t ht => h.comments t (List.mem_cons_of_mem s ht),
    fun t ht => h.triples t (List.mem_cons_of_mem s ht)⟩) ?_ h
  intro s rest ⟨hr, hc, ht⟩
  have hp := isPass_blankQuotes q.char
  have hs := hr s List.mem_cons_self
  have hother := quote_not_mem_text hs (hc s List.mem_cons_self) (q := q)
  cases s with
  | comment t => exact absurd (hc _ List.mem_cons_self) (by simp [isComment])
  | triple quote body => exact absurd (ht _ List.mem_cons_self) (by simp [isTriple])
  | code t => exact hp.append (hother (by simp [quote?])) _
  | literal quote body =>
    by_cases hq : quote = q
    · subst hq
      simpa [text, emptied] using blankQuotes_quoted (hs.1 quote) (textOf rest)
    · rw [emptied, if_neg hq]
      exact hp.append (hother (by simpa [quote?] using hq)) _

end Steps

section Stages

variable {segments : List Segment}

theorem isRegular_withoutComment {s : Segment} (h : s.IsRegular) : (withoutComment s).IsRegular := by
  cases s with
  | comment t => exact ⟨fun q => List.not_mem_nil, List.not_mem_nil⟩
  | code t => exact h
  | literal quote body => exact h
  | triple quote body => exact h

theorem isRegular_withoutTriple (q : Quote) {s : Segment} (h : s.IsRegular) : (withoutTriple q s).IsRegular := by
  cases s with
  | triple quote body =>
    rw [withoutTriple]
    split
    · exact ⟨fun q => List.not_mem_nil, List.not_mem_nil⟩
    · exact h
  | comment t => exact h
  | code t => exact h
  | literal quote body => exact h

theorem isRegular_emptied (q : Quote) {s : Segment} (h : s.IsRegular) : (emptied q s).IsRegular := by
  cases s with
  | literal quote body =>
    rw [emptied]
    split
    · exact ⟨fun q => List.not_mem_nil, List.not_mem_nil, List.not_mem_nil⟩
    · exact h
  | comment t => exact h
  | code t => exact h
  | triple quote body => exact h

theorem isSpaced_withoutComment {after : Bool} (h : isSpaced after segments = true) :
    isSpaced after (segments.map withoutComment) = true := by
  induction segments generalizing after with
  | nil => rfl
  | cons s rest ih =>
    cases s with
    | comment t =>
      rw [List.map_cons, withoutComment, isSpaced, List.isEmpty_nil, Bool.and_true]
      exact ih h
    | code t => exact ih h
    | literal quote body => exact Bool.and_eq_true_iff.2 ((Bool.and_eq_true_iff.1 h).imp_right ih)
    | triple quote body => exact Bool.and_eq_true_iff.2 ((Bool.and_eq_true_iff.1 h).imp_right ih)

theorem isSpaced_withoutTriple (q : Quote) {after : Bool} (h : isSpaced after segments = true) :
    isSpaced after (segments.map (withoutTriple q)) = true := by
  induction segments generalizing after with
  | nil => rfl
  | cons s rest ih =>
    cases s with
    | comment t => exact ih h
    | code t => exact ih h
    | literal quote body => exact Bool.and_eq_true_iff.2 ((Bool.and_eq_true_iff.1 h).imp_right ih)
    | triple quote body =>
      obtain ⟨ha, hrest⟩ := Bool.and_eq_true_iff.1 h
      rw [List.map_cons, withoutTriple]
      split
      · rw [Bool.not_eq_true'] at ha
        rw [ha, isSpaced, Bool.false_and]
        exact ih (isSpaced_false hrest)
      · exact Bool.and_eq_true_iff.2 ⟨ha, ih hrest⟩

theorem IsWellFormed.isBare (h : IsWellFormed segments) : IsBare (segments.map withoutComment) where
  regular := List.forall_mem_map.2 fun s hs => isRegular_withoutComment (h.regular s hs)
  comments := List.forall_mem_map.2 fun s _ => by cases s <;> rfl
  literals := isSpaced_withoutComment h.literals

theorem IsBare.withoutTriple (q : Quote) (h : IsBare segments) : IsBare (segments.map (withoutTriple q)) where
  regular := List.forall_mem_map.2 fun s hs => isRegular_withoutTriple q (h.regular s hs)
  comments := List.forall_mem_map.2 fun s hs => by
    have hc := h.comments s hs
    cases s with
    | triple quote body =>
      rw [Names.withoutTriple]
      split <;> rfl
    | comment t => exact hc
    | code t => rfl
    | literal quote body => rfl
  literals := isSpaced_withoutTriple q h.literals

theorem IsBare.isShort (h : IsBare segments) :
    IsShort ((segments.map (Names.withoutTriple .single)).map (Names.withoutTriple .double)) where
  regular := ((h.withoutTriple .single).withoutTriple .double).regular
  comments := ((h.withoutTriple .single).withoutTriple .double).comments
  triples := by
    rw [List.map_map]
    refine List.forall_mem_map.2 fun s _ => ?_
    cases s with
    | triple quote body => cases quote <;> rfl
    | comment t => rfl
    | code t => rfl
    | literal quote body => rfl

theorem IsShort.emptied (q : Quote) (h : IsShort segments) : IsShort (segments.map (emptied q)) where
  regular := List.forall_mem_map.2 fun s hs => isRegular_emptied q (h.regular s hs)
  comments := List.forall_mem_map.2 fun s hs => by
    have hc := h.comments s hs
    cases s <;> exact hc
  triples := List.forall_mem_map.2 fun s hs => by
    have ht := h.triples s hs
    cases s <;> exact ht

end Stages

/-- Cleaning deletes the comments and the literals between three quotes, empties the other literals, and
leaves code as it is. -/
theorem clean_textOf {segments : List Segment} (h : IsWellFormed segments) :
    clean (textOf segments) = segments.flatMap Segment.cleaned := by
  have hbare := h.isBare
  have hshort := hbare.isShort
  have hcomments := dropComments_textOf h
  have hsingles := dropTriples_textOf .single hbare
  have hdoubles := dropTriples_textOf .double (hbare.withoutTriple .single)
  have hsingle := blankQuotes_textOf .single hshort
  have hdouble := blankQuotes_textOf .double (hshort.emptied .single)
  have hcleaned (s : Segment) : (emptied .double (emptied .single (withoutTriple .double
      (withoutTriple .single (withoutComment s))))).text = s.cleaned := by
    cases s with
    | code t => rfl
    | comment t => rfl
    | literal quote body => cases quote <;> rfl
    | triple quote body => cases quote <;> rfl
  simp only [Quote.char] at hsingles hdoubles hsingle hdouble
  rw [clean, hcomments, hsingles, hdoubles, hsingle, hdouble, textOf]
  simp only [List.flatMap_map, hcleaned]

/-- Quotes in a comment, a literal over two lines, and literals of both kinds, some of them empty. -/
theorem clean_textOf_twoLines :
    let segments : List Segment := [.code "s = ".toList, .literal .single "a \\ b".toList, .code " + ".toList,
      .triple .double "c\nd = 1".toList, .code " ".toList, .comment " it's \"so\" '''".toList,
      .code "\nt = ".toList, .triple .single [], .code "+".toList, .literal .double [], .comment "#'".toList]
    IsWellFormed segments ∧ clean (textOf segments) = "s = '' +  \nt = +\"\"".toList := by
  intro segments
  have h : IsWellFormed segments := ⟨by decide, by decide, by decide⟩
  exact ⟨h, (clean_textOf h).trans (by decide)⟩

end CellFlow.Names
