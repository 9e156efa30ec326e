import CellFlow.Names.Extract
import CellFlow.Proofs.Names.Passes

/-!
What stands in the literals of a source is not read. Cleaning empties the literals of every source in
which they do not run into each other: the passes go over the whole text, so a hash in a literal, or
an apostrophe between double quotes, would reach beyond the literal that it stands in.
-/

set_option autoImplicit false

namespace CellFlow.Names

structure Literal where
  quote : Quote
  body : List Char
  deriving DecidableEq, Repr

def Literal.text (l : Literal) : List Char := l.quote.char :: (l.body ++ [l.quote.char])

/-- Code, and literals in it, each with the code behind it. -/
structure Passage where
  start : List Char
  rest : List (Literal × List Char)
  deriving DecidableEq, Repr

namespace Passage

def text (p : Passage) : List Char := p.start ++ p.rest.flatMap fun e => e.1.text ++ e.2

def literals (p : Passage) : List Literal := p.rest.map (·.1)

def codes (p : Passage) : List (List Char) := p.start :: p.rest.map (·.2)

/-- The literals of one quote emptied. -/
def emptiedOf (q : Quote) (p : Passage) : Passage :=
  { p with rest := p.rest.map fun e => (if e.1.quote = q then { e.1 with body := [] } else e.1, e.2) }

/-- All literals emptied. -/
def emptied (p : Passage) : Passage := { p with rest := p.rest.map fun e => ({ e.1 with body := [] }, e.2) }

/-- Code without quotes and hashes, and literals of one line without escapes. -/
structure IsRegular (p : Passage) : Prop where
  code : ∀ code ∈ p.codes, '\'' ∉ code ∧ '"' ∉ code ∧ '#' ∉ code
  body : ∀ l ∈ p.literals, '\n' ∉ l.body ∧ '\\' ∉ l.body ∧ l.quote.char ∉ l.body

/-- No literal holds what would be read beyond it: a hash, an apostrophe, or three quotes, which may
also be those of literals without code between them. -/
structure KeepsApart (p : Passage) : Prop where
  hash : ∀ l ∈ p.literals, '#' ∉ l.body
  apostrophe : ∀ l ∈ p.literals, '\'' ∉ l.body
  triple : ∀ q : Quote, ¬ [q.char, q.char, q.char] <:+: p.text

end Passage

namespace Passage

variable {p : Passage} {q : Quote}

/-- Blanking the literals of one quote, when the quote stands in no code and in no other literal. -/
theorem blankQuotes_text (hcode : ∀ code ∈ p.codes, q.char ∉ code)
    (hbody : ∀ l ∈ p.literals, q.char ∉ l.body) :
    blankQuotes q.char p.text = (p.emptiedOf q).text := by
  obtain ⟨start, rest⟩ := p
  rw [text, (isPass_blankQuotes q.char).append (hcode start List.mem_cons_self), text]
  refine congrArg (start ++ ·) ?_
  have hcode : ∀ e ∈ rest, q.char ∉ e.2 :=
    fun e he => hcode e.2 (List.mem_cons_of_mem start (List.mem_map_of_mem he))
  have hbody : ∀ e ∈ rest, q.char ∉ e.1.body := fun e he => hbody e.1 (List.mem_map_of_mem he)
  dsimp only [emptiedOf]
  clear * - hcode hbody
  induction rest with
  | nil => rfl
  | cons e rest ih =>
    obtain ⟨l, code⟩ := e
    have hrest := ih (fun e he => hcode e (List.mem_cons_of_mem _ he))
      fun e he => hbody e (List.mem_cons_of_mem _ he)
    have hcode : q.char ∉ code := hcode (l, code) List.mem_cons_self
    have hbody : q.char ∉ l.body := hbody (l, code) List.mem_cons_self
    rw [List.flatMap_cons, List.map_cons, List.flatMap_cons]
    by_cases hq : l.quote = q
    · have ht : ∀ s, l.text ++ code ++ s = q.char :: (l.body ++ q.char :: (code ++ s)) := by
        intro s
        simp [Literal.text, hq]
      rw [ht, blankQuotes_quoted hbody, (isPass_blankQuotes q.char).append hcode, hrest]
      simp [Literal.text, hq]
    · have ht : q.char ∉ l.text ++ code := by
        have hne : q.char ≠ l.quote.char := fun h => hq (Quote.char_injective h).symm
        simp [Literal.text, hne, hbody, hcode]
      rw [(isPass_blankQuotes q.char).append ht, hrest, if_neg hq]

theorem not_mem_text {c : Char} (hcode : ∀ code ∈ p.codes, c ∉ code)
    (hbody : ∀ l ∈ p.literals, c ∉ l.body) (hquote : ∀ q : Quote, c ≠ q.char) : c ∉ p.text := by
  rw [text, List.mem_append, List.mem_flatMap]
  rintro (h | ⟨e, he, h⟩)
  · exact hcode p.start List.mem_cons_self h
  · have hb := hbody e.1 (List.mem_map_of_mem he)
    have hc := hcode e.2 (List.mem_cons_of_mem p.start (List.mem_map_of_mem he))
    simp [Literal.text, hquote, hb, hc] at h

theorem emptiedOf_emptiedOf (p : Passage) : (p.emptiedOf .single).emptiedOf .double = p.emptied := by
  obtain ⟨start, rest⟩ := p
  simp only [emptiedOf, emptied, List.map_map]
  refine congrArg _ (List.map_congr_left fun e _ => ?_)
  obtain ⟨⟨quote, body⟩, code⟩ := e
  cases quote <;> rfl

@[simp] theorem codes_emptiedOf (q : Quote) (p : Passage) : (p.emptiedOf q).codes = p.codes := by
  simp [codes, emptiedOf]

theorem mem_literals_emptiedOf {l : Literal} (h : l ∈ (p.emptiedOf q).literals) :
    l.body = [] ∨ l ∈ p.literals ∧ l.quote ≠ q := by
  simp only [literals, emptiedOf, List.map_map] at h
  obtain ⟨e, he, rfl⟩ := List.mem_map.1 h
  by_cases hq : e.1.quote = q
  · exact .inl (by simp [hq])
  · exact .inr ⟨List.mem_map.2 ⟨e, he, by simp [hq]⟩, by simp [hq]⟩

/-- Cleaning empties literals that keep apart, and does nothing else to the source. -/
theorem clean_text (h : p.IsRegular) (ha : p.KeepsApart) : clean p.text = p.emptied.text := by
  have hhash : dropComments false p.text = p.text :=
    dropComments_eq_self (not_mem_text (fun code hc => (h.code code hc).2.2) ha.hash
      fun q => by cases q <;> decide)
  have hsingles : dropTriples '\'' p.text = p.text :=
    (isPass_dropTriples _).eq_self_of_not_isInfix (ha.triple .single)
  have hdoubles : dropTriples '"' p.text = p.text :=
    (isPass_dropTriples _).eq_self_of_not_isInfix (ha.triple .double)
  have hsingle : blankQuotes '\'' p.text = (p.emptiedOf .single).text :=
    blankQuotes_text (q := .single) (fun code hc => (h.code code hc).1) ha.apostrophe
  have hdouble : blankQuotes '"' (p.emptiedOf .single).text = p.emptied.text := by
    rw [← emptiedOf_emptiedOf]
    refine blankQuotes_text (q := .double) (fun code hc => ?_) fun l hl => ?_
    · rw [codes_emptiedOf] at hc
      exact (h.code code hc).2.1
    · rcases mem_literals_emptiedOf hl with hb | ⟨hm, hq⟩
      · rw [hb]
        exact List.not_mem_nil
      · have hquote : l.quote = .double := by
          cases hl : l.quote with
          | single => exact absurd hl hq
          | double => rfl
        exact hquote ▸ (h.body l hm).2.2
  rw [clean, hhash, hsingles, hdoubles, hsingle, hdouble]

end Passage

/-- Passages that differ in the bodies of their literals only have the same names, whatever the
bodies are, as long as they keep apart. -/
theorem extract_eq_of_emptied_eq (r : Rules) {p q : Passage} {v w : Value}
    (hv : sourceText? v = some (String.ofList p.text)) (hw : sourceText? w = some (String.ofList q.text))
    (hp : p.IsRegular) (hq : q.IsRegular) (hpa : p.KeepsApart) (hqa : q.KeepsApart)
    (h : p.emptied = q.emptied) : r.extract v = r.extract w := by
  have hlines : linesOf (String.ofList p.text) = linesOf (String.ofList q.text) := by
    rw [linesOf, linesOf, String.toList_ofList, String.toList_ofList, Passage.clean_text hp hpa,
      Passage.clean_text hq hqa, h]
  rw [Rules.extract, Rules.extract, hv, hw]
  exact congrArg (fun ls => r.ofReadings (r.readings ls)) hlines

/-- An assignment with two literals, and with other bodies in them, one of these empty. -/
theorem extract_eq_of_emptied_eq_sum :
    let r : Rules := ⟨true, reserved⟩
    let p : Passage := ⟨"label = ".toList,
      [(⟨.single, "some words".toList⟩, " + ".toList), (⟨.double, "more".toList⟩, " + y".toList)]⟩
    let q : Passage := ⟨"label = ".toList,
      [(⟨.single, "y = \"z\"".toList⟩, " + ".toList), (⟨.double, []⟩, " + y".toList)]⟩
    r.extract (.text (String.ofList p.text)) = r.extract (.text (String.ofList q.text)) ∧
      r.extract (.text (String.ofList q.text)) = ⟨.ofList ["label"], .ofList ["y"]⟩ := by
  intro r p q
  have hp : p.IsRegular := ⟨by decide, by decide⟩
  have hq : q.IsRegular := ⟨by decide, by decide⟩
  have hpa : p.KeepsApart := ⟨by decide, by decide, fun c => by cases c <;> decide⟩
  have hqa : q.KeepsApart := ⟨by decide, by decide, fun c => by cases c <;> decide⟩
  exact ⟨extract_eq_of_emptied_eq r rfl rfl hp hq hpa hqa rfl, by decide +kernel⟩

/-- An apostrophe between double quotes opens a literal that ends in the next one. -/
theorem not_extract_eq_of_emptied_eq : ¬ ∀ (r : Rules) (p q : Passage), p.IsRegular → q.IsRegular →
    p.emptied = q.emptied →
      r.extract (.text (String.ofList p.text)) = r.extract (.text (String.ofList q.text)) := by
  intro h
  let r : Rules := ⟨true, reserved⟩
  let p : Passage := ⟨"x = ".toList,
    [(⟨.double, "it's".toList⟩, " + y + ".toList), (⟨.single, "b".toList⟩, [])]⟩
  let q : Passage := ⟨"x = ".toList,
    [(⟨.double, "its".toList⟩, " + y + ".toList), (⟨.single, "b".toList⟩, [])]⟩
  have hpq := h r p q ⟨by decide, by decide⟩ ⟨by decide, by decide⟩ rfl
  have hp : r.extract (.text (String.ofList p.text)) = ⟨.ofList ["x"], .ofList ["b", "it"]⟩ := by
    decide +kernel
  have hq : r.extract (.text (String.ofList q.text)) = ⟨.ofList ["x"], .ofList ["y"]⟩ := by
    decide +kernel
  rw [hp, hq] at hpq
  exact absurd hpq (by decide)

end CellFlow.Names
