import CellFlow.Names.Line
import CellFlow.Proofs.Text.TextLines
import Mathlib.Data.List.TakeWhile

/-!
The grammar of the lines that assign: an assignment to names between commas, an augmented assignment, and
the head of a function. A line has at most one form, with all its parts, so the shapes may be tried in any
order; and the names that are split from the text of the targets are the names of the form.
-/

set_option autoImplicit false

namespace CellFlow.Names

open CellFlow.Text

/-- A text that does not go on with a character of the kind. -/
def Ends (p : Char → Bool) (s : List Char) : Prop := ∀ c ∈ s.head?, p c = false

section Spans

variable {p : Char → Bool} {a b s t : List Char} {c : Char}

theorem ends_cons (hc : p c = false) : Ends p (c :: s) := by
  intro d hd
  rw [List.head?_cons, Option.mem_some_iff] at hd
  rwa [← hd]

theorem takeWhile_append_of_ends (ha : ∀ c ∈ a, p c = true) (hs : Ends p s) : (a ++ s).takeWhile p = a := by
  rw [List.takeWhile_append_of_pos ha]
  cases s with
  | nil => simp
  | cons c s => simp [hs c rfl]

theorem dropWhile_append_of_ends (ha : ∀ c ∈ a, p c = true) (hs : Ends p s) : (a ++ s).dropWhile p = s := by
  rw [List.dropWhile_append_of_pos ha]
  cases s with
  | nil => rfl
  | cons c s => simp [hs c rfl]

/-- What runs as far as the kind of its characters allows is determined by the text. -/
theorem append_inj_of_ends (ha : ∀ c ∈ a, p c = true) (hb : ∀ c ∈ b, p c = true) (hs : Ends p s)
    (ht : Ends p t) (h : a ++ s = b ++ t) : a = b ∧ s = t := by
  constructor
  · rw [← takeWhile_append_of_ends ha hs, h, takeWhile_append_of_ends hb ht]
  · rw [← dropWhile_append_of_ends ha hs, h, dropWhile_append_of_ends hb ht]

theorem toNat_of_isNameChar (h : isNameChar c = true) : 48 ≤ c.toNat ∧ c.toNat ≤ 122 := by
  delta isNameChar Char.isAlphanum Char.isAlpha Char.isUpper Char.isLower Char.isDigit at h
  simp only [Bool.or_eq_true, Bool.and_eq_true, decide_eq_true_eq, beq_iff_eq, ge_iff_le,
    UInt32.le_iff_toNat_le] at h
  rcases h with ((h | h) | h) | rfl
  · exact ⟨le_trans (by decide) h.1, le_trans h.2 (by decide)⟩
  · exact ⟨le_trans (by decide) h.1, le_trans h.2 (by decide)⟩
  · exact ⟨le_trans (by decide) h.1, le_trans h.2 (by decide)⟩
  · decide

theorem isBlank_of_isNameChar (h : isNameChar c = true) : isBlank c = false := by
  have hn := toNat_of_isNameChar h
  simp only [isBlank, blankRanges, Ranges.has, List.any_cons, List.any_nil, Bool.or_eq_false_iff,
    Bool.and_eq_false_iff, decide_eq_false_iff_not, and_true]
  omega

end Spans

/-- Blanks, perhaps none. -/
structure Blanks where
  toList : List Char
  isBlank : ∀ c ∈ toList, Text.isBlank c = true

structure Identifier where
  toList : List Char
  isName : Names.isName toList = true

section Parts

variable {s t : List Char}

theorem Blanks.ext {b b' : Blanks} (h : b.toList = b'.toList) : b = b' := by
  cases b
  cases b'
  cases h
  rfl

theorem Identifier.ext {n n' : Identifier} (h : n.toList = n'.toList) : n = n' := by
  cases n
  cases n'
  cases h
  rfl

theorem Identifier.exists_cons (n : Identifier) :
    ∃ c r, n.toList = c :: r ∧ isNameStart c = true ∧ ∀ d ∈ r, isNameChar d = true := by
  obtain ⟨w, hw⟩ := n
  cases w with
  | nil => cases hw
  | cons c r =>
    rw [Names.isName, Bool.and_eq_true, List.all_eq_true] at hw
    exact ⟨c, r, rfl, hw.1, hw.2⟩

theorem Identifier.isNameChar_of_mem (n : Identifier) {c : Char} (h : c ∈ n.toList) : isNameChar c = true := by
  obtain ⟨d, r, hn, hd, hr⟩ := n.exists_cons
  rw [hn, List.mem_cons] at h
  rcases h with rfl | h
  · exact isNameChar_of_isNameStart hd
  · exact hr c h

theorem Identifier.ends_isBlank (n : Identifier) (s : List Char) : Ends Text.isBlank (n.toList ++ s) := by
  obtain ⟨c, r, hn, hc, -⟩ := n.exists_cons
  rw [hn]
  exact ends_cons (isBlank_of_isNameChar (isNameChar_of_isNameStart hc))

theorem Blanks.ends_isNameChar (b : Blanks) (h : Ends isNameChar s) : Ends isNameChar (b.toList ++ s) := by
  obtain ⟨w, hw⟩ := b
  cases w with
  | nil => exact h
  | cons c w =>
    refine ends_cons (Bool.eq_false_iff.2 fun hc => ?_)
    have hb := hw c List.mem_cons_self
    rw [isBlank_of_isNameChar hc] at hb
    cases hb

theorem Blanks.append_inj {b b' : Blanks} (hs : Ends Text.isBlank s) (ht : Ends Text.isBlank t)
    (h : b.toList ++ s = b'.toList ++ t) : b = b' ∧ s = t := by
  obtain ⟨hb, hst⟩ := append_inj_of_ends b.isBlank b'.isBlank hs ht h
  exact ⟨Blanks.ext hb, hst⟩

theorem Identifier.append_inj {n n' : Identifier} (hs : Ends isNameChar s) (ht : Ends isNameChar t)
    (h : n.toList ++ s = n'.toList ++ t) : n = n' ∧ s = t := by
  obtain ⟨hn, hst⟩ := append_inj_of_ends (fun _ hc => n.isNameChar_of_mem hc)
    (fun _ hc => n'.isNameChar_of_mem hc) hs ht h
  exact ⟨Identifier.ext hn, hst⟩

theorem skipBlanks_append (b : Blanks) (hs : Ends Text.isBlank s) : skipBlanks (b.toList ++ s) = s :=
  dropWhile_append_of_ends b.isBlank hs

theorem exists_blanks (s : List Char) :
    ∃ b : Blanks, b.toList = s.takeWhile Text.isBlank ∧ b.toList ++ skipBlanks s = s :=
  ⟨⟨s.takeWhile Text.isBlank, fun _ hc => List.mem_takeWhile_imp hc⟩, rfl, List.takeWhile_append_dropWhile⟩

theorem takeName?_append (n : Identifier) (hs : Ends isNameChar s) :
    takeName? (n.toList ++ s) = some (n.toList, s) := by
  obtain ⟨c, r, hn, hc, hr⟩ := n.exists_cons
  rw [hn, List.cons_append, takeName?, if_pos hc, takeWhile_append_of_ends hr hs, dropWhile_append_of_ends hr hs]

theorem exists_of_takeName? {w r : List Char} (h : takeName? s = some (w, r)) :
    ∃ n : Identifier, n.toList = w ∧ s = n.toList ++ r := by
  cases s with
  | nil => cases h
  | cons c s =>
    rw [takeName?, Option.ite_none_right_eq_some] at h
    obtain ⟨hc, h⟩ := h
    cases h
    have hn : isName (c :: s.takeWhile isNameChar) = true := by
      rw [isName, Bool.and_eq_true, List.all_eq_true]
      exact ⟨hc, fun _ hd => List.mem_takeWhile_imp hd⟩
    exact ⟨⟨_, hn⟩, rfl, by simp [List.takeWhile_append_dropWhile]⟩

end Parts

/-- One more target of an assignment, with the comma in front of it. -/
structure Further where
  before : Blanks
  behind : Blanks
  target : Identifier

def Further.text (f : Further) : List Char :=
  f.before.toList ++ ',' :: (f.behind.toList ++ f.target.toList)

/-- The blanks behind a keyword. -/
structure Gap extends Blanks where
  ne_nil : toList ≠ []

/-- The parts of a line that assigns. -/
inductive Form where
  | assignment (before : Blanks) (first : Identifier) (more : List Further) (behind : Blanks)
      (rest : List Char) (single : rest.head? ≠ some '=')
  | augmented (before : Blanks) (target : Identifier) (behind : Blanks) (operator : List Char)
      (isOperator : operator ∈ operators) (rest : List Char)
  | definition (before : Blanks) (async : Option Gap) (gap : Gap) (name : Identifier) (behind : Blanks)
      (rest : List Char)

namespace Form

def asyncText : Option Gap → List Char
  | none => []
  | some gap => "async".toList ++ gap.toList

def text : Form → List Char
  | assignment before first more behind rest _ =>
    before.toList ++ (first.toList ++ (more.flatMap Further.text ++ (behind.toList ++ '=' :: rest)))
  | augmented before target behind operator _ rest =>
    before.toList ++ (target.toList ++ (behind.toList ++ (operator ++ '=' :: rest)))
  | definition before async gap name behind rest =>
    before.toList ++ (asyncText async ++
      ("def".toList ++ (gap.toList ++ (name.toList ++ (behind.toList ++ '(' :: rest)))))

/-- What a line of the form assigns, and what is left of it to be read. -/
def reading (f : Form) : Reading :=
  match f with
  | assignment _ first more _ rest _ => ⟨first.toList :: more.map (·.target.toList), rest⟩
  | augmented _ target _ _ _ rest => ⟨[target.toList], rest⟩
  | definition _ _ _ name _ _ => ⟨[name.toList], f.text⟩

def before : Form → Blanks
  | assignment before _ _ _ _ _ => before
  | augmented before _ _ _ _ _ => before
  | definition before _ _ _ _ _ => before

/-- The first word of a form. -/
def head : Form → Identifier
  | assignment _ first _ _ _ _ => first
  | augmented _ target _ _ _ _ => target
  | definition _ none _ _ _ _ => ⟨"def".toList, by decide⟩
  | definition _ (some _) _ _ _ _ => ⟨"async".toList, by decide⟩

/-- What stands behind the first word. -/
def tail : Form → List Char
  | assignment _ _ more behind rest _ => more.flatMap Further.text ++ (behind.toList ++ '=' :: rest)
  | augmented _ _ behind operator _ rest => behind.toList ++ (operator ++ '=' :: rest)
  | definition _ none gap name behind rest =>
    gap.toList ++ (name.toList ++ (behind.toList ++ '(' :: rest))
  | definition _ (some async) gap name behind rest =>
    async.toList ++ ("def".toList ++ (gap.toList ++ (name.toList ++ (behind.toList ++ '(' :: rest))))

/-- The most general of the shapes that read the form. -/
def shape : Form → LineShape
  | assignment .. => .multiple
  | augmented .. => .augmented
  | definition .. => .definition

theorem text_eq (f : Form) : f.text = f.before.toList ++ (f.head.toList ++ f.tail) := by
  cases f with
  | assignment => rfl
  | augmented => rfl
  | definition before async gap name behind rest =>
    cases async with
    | none => rfl
    | some async => simp [text, asyncText, Form.before, head, tail]

end Form

section Decomposition

variable {s t : List Char}

theorem Gap.exists_cons (g : Gap) : ∃ c b, g.toList = c :: b ∧ isBlank c = true ∧ ∀ d ∈ b, isBlank d = true := by
  obtain ⟨⟨w, hw⟩, hne⟩ := g
  cases w with
  | nil => exact absurd rfl hne
  | cons c w => exact ⟨c, w, rfl, hw c List.mem_cons_self, fun d hd => hw d (List.mem_cons_of_mem c hd)⟩

theorem Gap.ends_isNameChar (g : Gap) (s : List Char) : Ends isNameChar (g.toList ++ s) := by
  obtain ⟨c, b, hg, hc, -⟩ := g.exists_cons
  rw [hg]
  refine ends_cons (Bool.eq_false_iff.2 fun hn => ?_)
  rw [isBlank_of_isNameChar hn] at hc
  cases hc

theorem exists_operator_cons {operator : List Char} (h : operator ∈ operators) (s : List Char) :
    ∃ c t, operator ++ s = c :: t ∧ isNameChar c = false ∧ isBlank c = false ∧ c ≠ ',' ∧ c ≠ '=' := by
  simp only [operators, List.mem_cons, List.not_mem_nil, or_false] at h
  rcases h with rfl | rfl | rfl | rfl | rfl | rfl | rfl | rfl | rfl | rfl | rfl | rfl | rfl <;>
    exact ⟨_, _, rfl, by decide⟩

theorem ends_furthers (more : List Further) (behind : Blanks) (rest : List Char) :
    Ends isNameChar (more.flatMap Further.text ++ (behind.toList ++ '=' :: rest)) := by
  cases more with
  | nil => exact behind.ends_isNameChar (ends_cons (by decide))
  | cons f more =>
    rw [List.flatMap_cons, Further.text, List.append_assoc, List.append_assoc]
    exact f.before.ends_isNameChar (ends_cons (by decide))

theorem Form.ends_tail (f : Form) : Ends isNameChar f.tail := by
  cases f with
  | assignment _ _ more behind rest => exact ends_furthers more behind rest
  | augmented _ _ behind operator h rest =>
    obtain ⟨c, t, hs, hn, -⟩ := exists_operator_cons h ('=' :: rest)
    rw [tail, hs]
    exact behind.ends_isNameChar (ends_cons hn)
  | definition _ async gap _ _ _ =>
    cases async with
    | none => exact gap.ends_isNameChar _
    | some async => exact async.ends_isNameChar _

/-- The shape that the text behind the first word tells. -/
def shapeBehind (tail : List Char) : LineShape :=
  match skipBlanks tail with
  | [] => .plain
  | c :: _ => if c = ',' ∨ c = '=' then .multiple else if isNameChar c then .definition else .augmented

theorem shapeBehind_word (b : Blanks) (n : Identifier) (s : List Char) :
    shapeBehind (b.toList ++ (n.toList ++ s)) = .definition := by
  obtain ⟨c, r, hn, hc, -⟩ := n.exists_cons
  have hne : ¬ (c = ',' ∨ c = '=') := by
    rintro (rfl | rfl)
    · exact absurd hc (by decide)
    · exact absurd hc (by decide)
  rw [shapeBehind, skipBlanks_append b (n.ends_isBlank s), hn]
  simp only [List.cons_append]
  rw [if_neg hne, if_pos (isNameChar_of_isNameStart hc)]

theorem Form.shapeBehind_tail (f : Form) : shapeBehind f.tail = f.shape := by
  cases f with
  | assignment _ _ more behind rest =>
    cases more with
    | nil => rw [tail, shapeBehind, List.flatMap_nil, List.nil_append, skipBlanks_append behind (ends_cons (by decide))]; rfl
    | cons f more =>
      rw [tail, shapeBehind, List.flatMap_cons, Further.text, List.append_assoc, List.append_assoc,
        List.cons_append, skipBlanks_append f.before (ends_cons (by decide))]
      rfl
  | augmented _ _ behind operator h rest =>
    obtain ⟨c, t, hs, hn, hb, hcomma, hequals⟩ := exists_operator_cons h ('=' :: rest)
    rw [tail, hs, shapeBehind, skipBlanks_append behind (ends_cons hb)]
    simp [hcomma, hequals, hn, shape]
  | definition _ async gap name _ _ =>
    cases async with
    | none => exact shapeBehind_word gap.toBlanks name _
    | some async => exact shapeBehind_word async.toBlanks ⟨"def".toList, by decide⟩ _

theorem furthers_inj {more more' : List Further} {behind behind' : Blanks} {rest rest' : List Char}
    (h : more.flatMap Further.text ++ (behind.toList ++ '=' :: rest) =
      more'.flatMap Further.text ++ (behind'.toList ++ '=' :: rest')) :
    more = more' ∧ behind = behind' ∧ rest = rest' := by
  have hcomma (s : List Char) : Ends isBlank (',' :: s) := ends_cons (by decide)
  have hequals (s : List Char) : Ends isBlank ('=' :: s) := ends_cons (by decide)
  induction more generalizing more' with
  | nil =>
    cases more' with
    | nil =>
      obtain ⟨hb, hr⟩ := Blanks.append_inj (hequals rest) (hequals rest') h
      exact ⟨rfl, hb, (List.cons.inj hr).2⟩
    | cons f more' =>
      rw [List.flatMap_cons, Further.text, List.append_assoc, List.append_assoc] at h
      obtain ⟨-, hr⟩ := Blanks.append_inj (hequals rest) (hcomma _) h
      exact absurd (List.cons.inj hr).1 (by decide)
  | cons f more ih =>
    cases more' with
    | nil =>
      rw [List.flatMap_cons, Further.text, List.append_assoc, List.append_assoc] at h
      obtain ⟨-, hr⟩ := Blanks.append_inj (hcomma _) (hequals rest') h
      exact absurd (List.cons.inj hr).1 (by decide)
    | cons g more' =>
      simp only [List.flatMap_cons, Further.text, List.append_assoc, List.cons_append] at h
      obtain ⟨hbefore, h⟩ := Blanks.append_inj (hcomma _) (hcomma _) h
      obtain ⟨hbehind, h⟩ := Blanks.append_inj (f.target.ends_isBlank _) (g.target.ends_isBlank _) (List.cons.inj h).2
      obtain ⟨htarget, h⟩ := Identifier.append_inj (ends_furthers more behind rest)
        (ends_furthers more' behind' rest') h
      obtain ⟨rfl, hrest⟩ := ih h
      obtain ⟨b, c, n⟩ := f
      obtain ⟨b', c', n'⟩ := g
      dsimp only at hbefore hbehind htarget
      subst hbefore hbehind htarget
      exact ⟨rfl, hrest⟩

theorem augmented_inj {behind behind' : Blanks} {operator operator' rest rest' : List Char}
    (ho : operator ∈ operators) (ho' : operator' ∈ operators)
    (h : behind.toList ++ (operator ++ '=' :: rest) = behind'.toList ++ (operator' ++ '=' :: rest')) :
    behind = behind' ∧ operator = operator' ∧ rest = rest' := by
  obtain ⟨c, r, hs, -, hc, -⟩ := exists_operator_cons ho ('=' :: rest)
  obtain ⟨c', r', hs', -, hc', -⟩ := exists_operator_cons ho' ('=' :: rest')
  obtain ⟨hb, h⟩ := Blanks.append_inj (hs ▸ ends_cons hc) (hs' ▸ ends_cons hc') h
  have hall : (operators.all fun o => o.all (· != '=')) = true := by decide
  have hne : ∀ o ∈ operators, ∀ c ∈ o, (c != '=') = true := by simpa only [List.all_eq_true] using hall
  obtain ⟨hop, hr⟩ := append_inj_of_ends (hne operator ho) (hne operator' ho') (ends_cons (by decide))
    (ends_cons (by decide)) h
  exact ⟨hb, hop, (List.cons.inj hr).2⟩

theorem Gap.append_inj {g g' : Gap} (hs : Ends isBlank s) (ht : Ends isBlank t)
    (h : g.toList ++ s = g'.toList ++ t) : g = g' ∧ s = t := by
  obtain ⟨⟨b, hb⟩, hne⟩ := g
  obtain ⟨⟨b', hb'⟩, hne'⟩ := g'
  obtain ⟨he, hst⟩ := append_inj_of_ends hb hb' hs ht h
  cases he
  exact ⟨rfl, hst⟩

theorem definition_inj {gap gap' : Gap} {name name' : Identifier} {behind behind' : Blanks} {rest rest' : List Char}
    (h : gap.toList ++ (name.toList ++ (behind.toList ++ '(' :: rest)) =
      gap'.toList ++ (name'.toList ++ (behind'.toList ++ '(' :: rest'))) :
    gap = gap' ∧ name = name' ∧ behind = behind' ∧ rest = rest' := by
  have hblank (r : List Char) : Ends isBlank ('(' :: r) := ends_cons (by decide)
  have hname (b : Blanks) (r : List Char) : Ends isNameChar (b.toList ++ '(' :: r) :=
    b.ends_isNameChar (ends_cons (by decide))
  obtain ⟨hgap, h⟩ := Gap.append_inj (name.ends_isBlank _) (name'.ends_isBlank _) h
  obtain ⟨hn, h⟩ := Identifier.append_inj (hname behind rest) (hname behind' rest') h
  obtain ⟨hb, h⟩ := Blanks.append_inj (hblank rest) (hblank rest') h
  exact ⟨hgap, hn, hb, (List.cons.inj h).2⟩

/-- A line has one form at most, and that in one way. -/
theorem Form.text_injective : Function.Injective Form.text := by
  intro f g h
  rw [text_eq, text_eq] at h
  obtain ⟨hbefore, h⟩ := Blanks.append_inj (f.head.ends_isBlank _) (g.head.ends_isBlank _) h
  obtain ⟨hhead, htail⟩ := Identifier.append_inj f.ends_tail g.ends_tail h
  have hshape : f.shape = g.shape := by rw [← f.shapeBehind_tail, htail, g.shapeBehind_tail]
  clear h
  cases f with
  | assignment b n more behind rest single =>
    cases g with
    | assignment b' n' more' behind' rest' single' =>
      obtain ⟨rfl, rfl, rfl⟩ := furthers_inj htail
      cases hbefore
      cases hhead
      rfl
    | augmented => cases hshape
    | definition => cases hshape
  | augmented b n behind operator ho rest =>
    cases g with
    | assignment => cases hshape
    | augmented b' n' behind' operator' ho' rest' =>
      obtain ⟨rfl, rfl, rfl⟩ := augmented_inj ho ho' htail
      cases hbefore
      cases hhead
      rfl
    | definition => cases hshape
  | definition b async gap name behind rest =>
    cases g with
    | assignment => cases hshape
    | augmented => cases hshape
    | definition b' async' gap' name' behind' rest' =>
      cases hbefore
      have hword : "def".toList ≠ "async".toList := by decide
      cases async with
      | none =>
        cases async' with
        | none =>
          obtain ⟨rfl, rfl, rfl, rfl⟩ := definition_inj htail
          rfl
        | some async' => exact absurd (congrArg Identifier.toList hhead) hword
      | some async =>
        cases async' with
        | none => exact absurd (congrArg Identifier.toList hhead) hword.symm
        | some async' =>
          have hdef (r : List Char) : Ends isBlank ("def".toList ++ r) := ends_cons (by decide)
          obtain ⟨rfl, hdefinition⟩ := Gap.append_inj (hdef _) (hdef _) htail
          obtain ⟨rfl, rfl, rfl, rfl⟩ := definition_inj (List.append_cancel_left hdefinition)
          rfl

end Decomposition

end CellFlow.Names
