import CellFlow.Names.Extract
import CellFlow.Proofs.Names.Literals
import CellFlow.Proofs.Text.TextLines
import Mathlib.Data.List.Sort

/-!
The names of a text by its lines. Where one of two texts has no quotes, both together are cleaned one by
one, and their names are the names of the two merged. So the names of a text without quotes depend on
which lines it has, and not on their order or number.
-/

set_option autoImplicit false

namespace CellFlow

theorem NameSet.ext {a b : NameSet} (h : ∀ x, x ∈ a ↔ x ∈ b) : a = b := by
  obtain ⟨l, hl⟩ := a
  obtain ⟨m, hm⟩ := b
  have he : l = m := hl.eq_of_mem_iff hm h
  cases he
  rfl

theorem CellNames.ext {m n : CellNames} (ha : m.assigned = n.assigned) (hu : m.used = n.used) : m = n := by
  cases m
  cases n
  cases ha
  cases hu
  rfl

/-- The names of two texts together: what one of them assigns is not used by the other. -/
def CellNames.merge (m n : CellNames) : CellNames :=
  let assigned := m.assigned.union n.assigned
  ⟨assigned, .ofList ((m.used.union n.used).toList.filter fun x => x ∉ assigned)⟩

namespace Names

open CellFlow.Text

section Lines

variable {r : Rules} {ls ms : List (List Char)} {x : String}

/-- The names that cleaned lines assign and use. -/
def Rules.namesOf (r : Rules) (ls : List (List Char)) : CellNames := r.ofReadings (r.readings ls)

theorem Rules.extract_text (r : Rules) (s : String) : r.extract (.text s) = r.namesOf (linesOf s) := rfl

/-- A line that is scanned, and has text in it. -/
def Rules.Counts (r : Rules) (l : List Char) : Prop := l ≠ [] ∧ (r.skipMagics && isMagic l) = false

theorem readLine_nil : readLine [] = ⟨[], []⟩ := by decide

theorem Rules.exists_mem_readings {P : Reading → Prop} (hP : ¬ P ⟨[], []⟩) :
    (∃ g ∈ r.readings ls, P g) ↔ ∃ l ∈ ls, r.Counts l ∧ P (readLine l) := by
  simp only [readings, List.mem_map, List.mem_filter, Bool.not_eq_true']
  constructor
  · rintro ⟨g, ⟨l, ⟨hl, hs⟩, rfl⟩, hg⟩
    refine ⟨l, hl, ⟨?_, hs⟩, hg⟩
    rintro rfl
    rw [readLine_nil] at hg
    exact hP hg
  · rintro ⟨l, hl, hc, hg⟩
    exact ⟨_, ⟨l, ⟨hl, hc.2⟩, rfl⟩, hg⟩

theorem Rules.mem_assigned : x ∈ (r.namesOf ls).assigned ↔
    ∃ l ∈ ls, r.Counts l ∧ ∃ t ∈ (readLine l).targets, String.ofList t = x := by
  rw [← exists_mem_readings (P := fun g => ∃ t ∈ g.targets, String.ofList t = x) (by simp)]
  simp only [namesOf, ofReadings, assignedIn, NameSet.mem_ofList, List.map_flatMap, List.mem_flatMap, List.mem_map]

theorem Rules.mem_used : x ∈ (r.namesOf ls).used ↔
    (∃ l ∈ ls, r.Counts l ∧ ∃ w ∈ wordsIn (readLine l).rest, String.ofList w = x) ∧
      x ∉ (r.namesOf ls).assigned ∧ x ∉ r.excluded := by
  have hnil : wordsIn [] = [] := rfl
  rw [← exists_mem_readings (P := fun g => ∃ w ∈ wordsIn g.rest, String.ofList w = x) (by simp [hnil])]
  simp only [namesOf, ofReadings, wordsRead, NameSet.mem_ofList, List.mem_filter, decide_eq_true_eq, List.map_flatMap,
    List.mem_flatMap, List.mem_map]

/-- The names tell which lines count, and not how often or in which order they stand. -/
theorem Rules.namesOf_congr (h : ∀ l, r.Counts l → (l ∈ ls ↔ l ∈ ms)) : r.namesOf ls = r.namesOf ms := by
  have hcount (P : List Char → Prop) : (∃ l ∈ ls, r.Counts l ∧ P l) ↔ ∃ l ∈ ms, r.Counts l ∧ P l :=
    exists_congr fun l => and_congr_left fun hl => h l hl.1
  have hassigned : (r.namesOf ls).assigned = (r.namesOf ms).assigned :=
    NameSet.ext fun x => by rw [mem_assigned, mem_assigned, hcount]
  have hused : (r.namesOf ls).used = (r.namesOf ms).used :=
    NameSet.ext fun x => by rw [mem_used, mem_used, hcount, hassigned]
  exact CellNames.ext hassigned hused

theorem Rules.namesOf_append (r : Rules) (ls ms : List (List Char)) :
    r.namesOf (ls ++ ms) = (r.namesOf ls).merge (r.namesOf ms) := by
  have happend (P : List Char → Prop) : (∃ l ∈ ls ++ ms, P l) ↔ (∃ l ∈ ls, P l) ∨ ∃ l ∈ ms, P l := by
    simp [or_and_right, exists_or]
  have hassigned : (r.namesOf (ls ++ ms)).assigned = (r.namesOf ls).assigned.union (r.namesOf ms).assigned :=
    NameSet.ext fun x => by rw [NameSet.mem_union, mem_assigned, mem_assigned, mem_assigned, happend, or_comm]
  refine CellNames.ext hassigned (NameSet.ext fun x => ?_)
  simp only [CellNames.merge, NameSet.mem_ofList, List.mem_filter, ← NameSet.mem_def, NameSet.mem_union,
    decide_eq_true_eq]
  rw [mem_used, mem_used, mem_used, happend, hassigned, NameSet.mem_union]
  grind

end Lines

section Cleaning

variable {s t : List Char}

theorem QuoteFree.dropComments (h : QuoteFree s) : QuoteFree (dropComments false s) :=
  fun q hq => h q (mem_of_mem_dropComments hq)

/-- A text without quotes outside of its comments loses its comments only. -/
theorem clean_of_quoteFree (h : QuoteFree (dropComments false s)) : clean s = dropComments false s := by
  refine clean_induction (motive := fun f => f s = dropComments false s) rfl fun q _ _ _ _ hp f hf => ?_
  dsimp only
  rw [hf, hp.eq_self (h q)]

theorem clean_append_newline (h : QuoteFree (dropComments false s) ∨ QuoteFree (dropComments false t)) :
    clean (s ++ '\n' :: t) = clean s ++ '\n' :: clean t := by
  suffices hc : clean (s ++ '\n' :: t) = clean s ++ '\n' :: clean t ∧ (QuoteFree (clean s) ∨ QuoteFree (clean t)) from hc.1
  refine clean_induction (motive := fun f => f (s ++ '\n' :: t) = f s ++ '\n' :: f t ∧ (QuoteFree (f s) ∨ QuoteFree (f t)))
    ⟨dropComments_append_newline false s t, h⟩ fun q _ _ _ _ hp f hf => ?_
  obtain ⟨hf, hfree⟩ := hf
  dsimp only
  rw [hf, hp.append_newline q.char_ne_newline (hfree.imp (· q) (· q))]
  refine ⟨rfl, hfree.imp (fun hs => ?_) fun ht => ?_⟩
  · rwa [hp.eq_self (hs q)]
  · rwa [hp.eq_self (ht q)]

theorem lines_dropComments (s : List Char) :
    lines (dropComments false s) = (lines s).map (Names.dropComments false) := by
  have hline {l : List Char} (hl : '\n' ∉ l) : lines (Names.dropComments false l) = [Names.dropComments false l] :=
    lines_of_not_mem fun hn => hl (mem_of_mem_dropComments hn)
  have hs (ls : List (List Char)) (hls : ∀ l ∈ ls, '\n' ∉ l) (hne : ls ≠ []) :
      lines (Names.dropComments false (unlines ls)) = ls.map (Names.dropComments false) := by
    induction ls with
    | nil => exact absurd rfl hne
    | cons l ls ih =>
      have hl := hline (hls l List.mem_cons_self)
      cases ls with
      | nil => simpa [unlines] using hl
      | cons m ls =>
        rw [unlines_cons_cons, dropComments_append_newline, lines_append_newline, hl,
          ih (fun k hk => hls k (List.mem_cons_of_mem l hk)) (List.cons_ne_nil m ls)]
        rfl
  have hl := hs (lines s) (fun l hl => newline_not_mem_of_mem_lines hl) (lines_ne_nil s)
  rwa [unlines_lines] at hl

end Cleaning

/-- The names of two texts are those of both together, line by line, if one of them has no quotes; so the
names of a text without quotes do not depend on the order of its lines, or on how often a line stands. -/
theorem Rules.extract_mergesLines (r : Rules) :
    (∀ a b : String, QuoteFree a.toList ∨ QuoteFree b.toList →
      r.extract (.text (a ++ "\n" ++ b)) = (r.extract (.text a)).merge (r.extract (.text b))) ∧
    ∀ a b : String, QuoteFree a.toList → QuoteFree b.toList →
      (∀ l, l ∈ lines a.toList ↔ l ∈ lines b.toList) → r.extract (.text a) = r.extract (.text b) := by
  constructor
  · intro a b h
    have ht : (a ++ "\n" ++ b).toList = a.toList ++ '\n' :: b.toList := by simp
    have hl : linesOf (a ++ "\n" ++ b) = linesOf a ++ linesOf b := by
      rw [linesOf, ht, clean_append_newline (h.imp QuoteFree.dropComments QuoteFree.dropComments)]
      exact lines_append_newline _ _
    rw [extract_text, extract_text, extract_text, hl, namesOf_append]
  · intro a b ha hb h
    have hlines {s : String} (hs : QuoteFree s.toList) :
        linesOf s = (lines s.toList).map (Names.dropComments false) := by
      rw [linesOf, clean_of_quoteFree hs.dropComments]
      exact lines_dropComments s.toList
    rw [extract_text, extract_text, hlines ha, hlines hb]
    refine namesOf_congr fun l _ => ?_
    rw [List.mem_map, List.mem_map]
    exact exists_congr fun m => and_congr_left fun _ => h m

/-- A literal without an end before a line without quotes, and three lines in another order. -/
theorem Rules.extract_mergesLines_openLiteral :
    let r : Rules := ⟨true, reserved ++ ["frame"]⟩
    let a := "x = 'it # y\n\"end = z"
    let b := "y = x + w - frame"
    let p := "a = b # c\n%time d\nb = e"
    let q := "b = e\na = b # c\nb = e\n%time d"
    (QuoteFree a.toList ∨ QuoteFree b.toList) ∧
      r.extract (.text (a ++ "\n" ++ b)) = (r.extract (.text a)).merge (r.extract (.text b)) ∧
      r.extract (.text (a ++ "\n" ++ b)) = ⟨.ofList ["x", "y"], .ofList ["end", "it", "w", "z"]⟩ ∧
      (QuoteFree p.toList ∧ QuoteFree q.toList ∧ (∀ l, l ∈ lines p.toList ↔ l ∈ lines q.toList)) ∧
      r.extract (.text p) = r.extract (.text q) := by
  intro r a b p q
  obtain ⟨hmerge, hlines⟩ := Rules.extract_mergesLines r
  have hb : QuoteFree b.toList := by decide
  have hp : QuoteFree p.toList := by decide
  have hq : QuoteFree q.toList := by decide
  have hpq : ∀ l, l ∈ lines p.toList ↔ l ∈ lines q.toList := by
    have hp : lines p.toList = ["a = b # c".toList, "%time d".toList, "b = e".toList] := by decide
    have hq : lines q.toList = ["b = e".toList, "a = b # c".toList, "b = e".toList, "%time d".toList] := by decide
    intro l
    rw [hp, hq]
    simp only [List.mem_cons, List.not_mem_nil, or_false]
    tauto
  exact ⟨.inr hb, hmerge a b (.inr hb), by decide +kernel, ⟨hp, hq, hpq⟩, hlines p q hp hq hpq⟩

end Names

end CellFlow
