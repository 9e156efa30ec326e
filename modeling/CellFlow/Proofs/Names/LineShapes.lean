import CellFlow.Proofs.Names.LineForms

/-!
The shapes of a line against the grammar: a shape reads a line if and only if the line has a form, and
then it reads what the form says. So the order in which the shapes are tried makes no difference.
-/

set_option autoImplicit false

namespace CellFlow.Names

open CellFlow.Text

section Targets

variable {b c : Blanks} {n : Identifier}

theorem trim_between (b c : Blanks) (n : Identifier) : trim (b.toList ++ (n.toList ++ c.toList)) = n.toList := by
  have hn : n.toList.reverse.dropWhile isBlank = n.toList.reverse := by
    cases hr : n.toList.reverse with
    | nil => rfl
    | cons d r =>
      have hd : d ∈ n.toList := List.mem_reverse.1 (hr ▸ List.mem_cons_self)
      simp [isBlank_of_isNameChar (n.isNameChar_of_mem hd)]
  have hd : n.toList.dropWhile isBlank = n.toList := by
    have h := dropWhile_append_of_ends (a := []) (by simp) (n.ends_isBlank [])
    rwa [List.nil_append, List.append_nil] at h
  rw [trim_append_before b.isBlank, trim_append_behind c.isBlank, trim, hd, hn, List.reverse_reverse]

theorem splitOn_comma_append {w : List Char} (h : ',' ∉ w) (s : List Char) :
    splitOn ',' (w ++ ',' :: s) = w :: splitOn ',' s := by
  rw [splitOn_eq, splitOn_eq, List.splitOn_append_cons_self, List.splitOn_eq_singleton h, List.singleton_append]

theorem Blanks.comma_not_mem (b : Blanks) : ',' ∉ b.toList := by
  intro h
  exact absurd (b.isBlank _ h) (by decide)

theorem Identifier.comma_not_mem (n : Identifier) : ',' ∉ n.toList := by
  intro h
  exact absurd (n.isNameChar_of_mem h) (by decide)

theorem namesIn_append (b : Blanks) (n : Identifier) (more : List Further) :
    namesIn (b.toList ++ (n.toList ++ more.flatMap Further.text)) =
      n.toList :: more.map (·.target.toList) := by
  induction more generalizing b n with
  | nil =>
    have hc : ',' ∉ b.toList ++ (n.toList ++ []) := by simp [b.comma_not_mem, n.comma_not_mem]
    have ht : trim (b.toList ++ (n.toList ++ [])) = n.toList := trim_between b ⟨[], by simp⟩ n
    rw [List.flatMap_nil, namesIn, splitOn_eq, List.splitOn_eq_singleton hc, List.map_singleton, ht]
    simp [n.isName]
  | cons f more ih =>
    have hc : ',' ∉ b.toList ++ (n.toList ++ f.before.toList) := by
      simp [b.comma_not_mem, n.comma_not_mem, f.before.comma_not_mem]
    have hs : b.toList ++ (n.toList ++ (f :: more).flatMap Further.text) =
        (b.toList ++ (n.toList ++ f.before.toList)) ++
          ',' :: (f.behind.toList ++ (f.target.toList ++ more.flatMap Further.text)) := by
      simp [Further.text]
    have hrest := ih f.behind f.target
    rw [namesIn] at hrest
    rw [hs, namesIn, splitOn_comma_append hc, List.map_cons, trim_between, List.filter_cons_of_pos n.isName,
      hrest, List.map_cons]

theorem namesIn_targets (n : Identifier) (more : List Further) :
    namesIn (n.toList ++ more.flatMap Further.text) = n.toList :: more.map (·.target.toList) :=
  namesIn_append ⟨[], by simp⟩ n more

theorem namesIn_identifier (n : Identifier) : namesIn n.toList = [n.toList] := by
  have h := namesIn_targets n []
  rwa [List.flatMap_nil, List.append_nil] at h

end Targets

section Readers

variable {s t r : List Char}

theorem takeMore_furthers (more : List Further) (behind : Blanks) (rest : List Char) {k : Nat}
    (hk : more.length ≤ k) :
    takeMore k (more.flatMap Further.text ++ (behind.toList ++ '=' :: rest)) =
      (more.flatMap Further.text, behind.toList ++ '=' :: rest) := by
  induction more generalizing k with
  | nil =>
    cases k with
    | zero => rfl
    | succ k => rw [List.flatMap_nil, List.nil_append, takeMore, skipBlanks_append behind (ends_cons (by decide))]; rfl
  | cons f more ih =>
    cases k with
    | zero => cases hk
    | succ k =>
      have hrest := ih (Nat.le_of_succ_le_succ hk)
      have hname := takeName?_append f.target (ends_furthers more behind rest)
      have hcomma (s : List Char) : Ends isBlank (',' :: s) := ends_cons (by decide)
      have htarget (s : List Char) : Ends isBlank (f.target.toList ++ s) := f.target.ends_isBlank s
      simp only [List.flatMap_cons, Further.text, List.append_assoc, List.cons_append]
      rw [takeMore, skipBlanks_append f.before (hcomma _)]
      simp only [skipBlanks_append f.behind (htarget _), hname, hrest,
        takeWhile_append_of_ends f.before.isBlank (hcomma _), takeWhile_append_of_ends f.behind.isBlank (htarget _)]

theorem length_le_furthers (more : List Further) : more.length ≤ (more.flatMap Further.text).length := by
  induction more with
  | nil => exact Nat.le_refl 0
  | cons f more ih =>
    rw [List.flatMap_cons, List.length_append, List.length_cons, Further.text, List.length_append, List.length_cons]
    omega

theorem exists_furthers_of_takeMore {k : Nat} (h : takeMore k s = (t, r)) :
    ∃ more : List Further, t = more.flatMap Further.text ∧ s = t ++ r := by
  induction k generalizing s t r with
  | zero =>
    cases h
    exact ⟨[], rfl, rfl⟩
  | succ k ih =>
    rw [takeMore] at h
    split at h
    · rename_i u hu
      split at h
      · rename_i name rest hname
        obtain ⟨n, rfl, hnu⟩ := exists_of_takeName? hname
        obtain ⟨b, hb, hbs⟩ := exists_blanks s
        obtain ⟨c, hc, hcu⟩ := exists_blanks u
        cases hm : takeMore k rest with
        | mk t' r' =>
          obtain ⟨more, rfl, hrest⟩ := ih hm
          rw [hm, ← hb, ← hc] at h
          cases h
          refine ⟨⟨b, c, n⟩ :: more, by simp [Further.text], ?_⟩
          rw [← hbs, hu, ← hcu, hnu, hrest]
          simp
      · cases h
        exact ⟨[], rfl, rfl⟩
    · cases h
      exact ⟨[], rfl, rfl⟩

theorem takeEquals?_append (b : Blanks) (h : r.head? ≠ some '=') : takeEquals? (b.toList ++ '=' :: r) = some r := by
  rw [takeEquals?, skipBlanks_append b (ends_cons (by decide))]
  split
  · rename_i u hu
    cases hu
    exact absurd rfl h
  · rename_i u _ hu
    cases hu
    rfl
  · rename_i h' hr
    exact absurd rfl (hr r)

theorem exists_of_takeEquals? (h : takeEquals? s = some r) :
    ∃ b : Blanks, s = b.toList ++ '=' :: r ∧ r.head? ≠ some '=' := by
  obtain ⟨b, -, hb⟩ := exists_blanks s
  rw [takeEquals?] at h
  split at h
  · cases h
  · rename_i u hne hu
    cases h
    refine ⟨b, by rw [← hu, hb], fun hr => ?_⟩
    cases r with
    | nil => cases hr
    | cons c r =>
      cases hr
      exact hne r rfl
  · cases h

theorem takeOperator?_append {operator : List Char} (h : operator ∈ operators) (r : List Char) :
    takeOperator? (operator ++ '=' :: r) = some r := by
  simp only [operators, List.mem_cons, List.not_mem_nil, or_false] at h
  rcases h with rfl | rfl | rfl | rfl | rfl | rfl | rfl | rfl | rfl | rfl | rfl | rfl | rfl <;> rfl

theorem exists_of_takeOperator? (h : takeOperator? s = some r) :
    ∃ operator ∈ operators, s = operator ++ '=' :: r := by
  rw [takeOperator?] at h
  obtain ⟨operator, ho, h⟩ := List.exists_of_findSome?_eq_some h
  rw [Option.ite_none_right_eq_some, List.isPrefixOf_iff_prefix] at h
  obtain ⟨⟨u, rfl⟩, h⟩ := h
  refine ⟨operator, ho, ?_⟩
  cases h
  simp

theorem takeWord?_append (w : List Char) (g : Gap) (hs : Ends isBlank s) :
    takeWord? w (w ++ (g.toList ++ s)) = some s := by
  obtain ⟨c, b, hg, hc, hb⟩ := g.exists_cons
  rw [takeWord?, if_pos (List.isPrefixOf_iff_prefix.2 (List.prefix_append w _)), List.drop_left, hg]
  simp only [List.cons_append, hc, if_true]
  rw [skipBlanks, dropWhile_append_of_ends hb hs]

theorem exists_of_takeWord? {w : List Char} (h : takeWord? w s = some r) :
    ∃ g : Gap, s = w ++ (g.toList ++ r) := by
  rw [takeWord?, Option.ite_none_right_eq_some, List.isPrefixOf_iff_prefix] at h
  obtain ⟨⟨u, rfl⟩, h⟩ := h
  rw [List.drop_left] at h
  cases u with
  | nil => cases h
  | cons c u =>
    dsimp only at h
    rw [Option.ite_none_right_eq_some] at h
    obtain ⟨hc, h⟩ := h
    cases h
    obtain ⟨b, -, hb⟩ := exists_blanks u
    have hcb : ∀ d ∈ c :: b.toList, isBlank d = true := by
      intro d hd
      rcases List.mem_cons.1 hd with rfl | hd
      · exact hc
      · exact b.isBlank d hd
    exact ⟨⟨⟨c :: b.toList, hcb⟩, List.cons_ne_nil c _⟩, by rw [List.cons_append, hb]⟩

end Readers

theorem Form.skipBlanks_text (f : Form) : skipBlanks f.text = f.head.toList ++ f.tail := by
  rw [f.text_eq, skipBlanks_append f.before (f.head.ends_isBlank f.tail)]

theorem Form.takeName?_text (f : Form) : takeName? (skipBlanks f.text) = some (f.head.toList, f.tail) := by
  rw [f.skipBlanks_text, takeName?_append f.head f.ends_tail]

/-- The shape of a form reads it. -/
theorem Form.read?_shape (f : Form) : f.shape.read? f.text = some f.reading := by
  cases f with
  | assignment before first more behind rest single =>
    have hmore : takeMore (tail (.assignment before first more behind rest single)).length
        (tail (.assignment before first more behind rest single)) =
          (more.flatMap Further.text, behind.toList ++ '=' :: rest) := by
      refine takeMore_furthers more behind rest (le_trans (length_le_furthers more) ?_)
      rw [tail, List.length_append]
      exact Nat.le_add_right _ _
    rw [shape, LineShape.read?, Form.takeName?_text]
    simp [hmore, takeEquals?_append behind single, head, namesIn_targets, reading]
  | augmented before target behind operator ho rest =>
    obtain ⟨c, r, hs, -, hc, -⟩ := exists_operator_cons ho ('=' :: rest)
    have hskip : skipBlanks (behind.toList ++ (operator ++ '=' :: rest)) = operator ++ '=' :: rest :=
      skipBlanks_append behind (hs ▸ ends_cons hc)
    rw [shape, LineShape.read?, Form.takeName?_text]
    simp [tail, hskip, takeOperator?_append ho, head, namesIn_identifier, reading]
  | definition before async gap name behind rest =>
    have hgap : takeWord? "def".toList ("def".toList ++ (gap.toList ++ (name.toList ++
        (behind.toList ++ '(' :: rest)))) = some (name.toList ++ (behind.toList ++ '(' :: rest)) :=
      takeWord?_append _ gap (name.ends_isBlank _)
    have hname := takeName?_append name (behind.ends_isNameChar (s := '(' :: rest) (ends_cons (by decide)))
    have hbehind : skipBlanks (behind.toList ++ '(' :: rest) = '(' :: rest :=
      skipBlanks_append behind (ends_cons (by decide))
    rw [shape, LineShape.read?, Form.skipBlanks_text]
    cases async with
    | none =>
      have hasync : takeWord? "async".toList ("def".toList ++ (gap.toList ++ (name.toList ++
          (behind.toList ++ '(' :: rest)))) = none := rfl
      simp only [head, tail]
      rw [hasync, Option.getD_none, hgap]
      simp [hname, hbehind, reading]
    | some async =>
      have hasync := takeWord?_append "async".toList async (s := "def".toList ++ (gap.toList ++
        (name.toList ++ (behind.toList ++ '(' :: rest)))) (ends_cons (by decide))
      simp only [head, tail]
      rw [hasync, Option.getD_some, hgap]
      simp [hname, hbehind, reading]

theorem exists_async (s : List Char) :
    ∃ async : Option Gap, s = Form.asyncText async ++ (takeWord? "async".toList s).getD s := by
  cases h : takeWord? "async".toList s with
  | none => exact ⟨none, rfl⟩
  | some r =>
    obtain ⟨g, hg⟩ := exists_of_takeWord? h
    exact ⟨some g, by simp [Form.asyncText, hg]⟩

/-- What a shape reads is what a form of the line says. -/
theorem LineShape.exists_form_of_read? {shape : LineShape} {line : List Char} {r : Reading}
    (h : shape.read? line = some r) : ∃ f : Form, f.text = line ∧ f.reading = r := by
  obtain ⟨b, -, hb⟩ := exists_blanks line
  cases shape with
  | plain =>
    simp only [read?, Option.bind_eq_bind, Option.bind_eq_some_iff, Option.pure_def, Option.some_inj,
      Prod.exists] at h
    obtain ⟨w, u, hw, rest, hrest, rfl⟩ := h
    obtain ⟨n, rfl, hn⟩ := exists_of_takeName? hw
    obtain ⟨c, rfl, hsingle⟩ := exists_of_takeEquals? hrest
    refine ⟨.assignment b n [] c rest hsingle, ?_, ?_⟩
    · rw [← hb, hn]
      rfl
    · rw [namesIn_identifier]
      rfl
  | multiple =>
    simp only [read?, Option.bind_eq_bind, Option.bind_eq_some_iff, Option.pure_def, Option.some_inj,
      Prod.exists] at h
    obtain ⟨w, u, hw, rest, hrest, rfl⟩ := h
    obtain ⟨n, rfl, hn⟩ := exists_of_takeName? hw
    obtain ⟨more, hmore, hu⟩ := exists_furthers_of_takeMore (k := u.length) (s := u) rfl
    obtain ⟨c, hc, hsingle⟩ := exists_of_takeEquals? hrest
    refine ⟨.assignment b n more c rest hsingle, ?_, ?_⟩
    · rw [← hb, hn, hu, hmore, hc]
      rfl
    · rw [hmore, namesIn_targets]
      rfl
  | augmented =>
    simp only [read?, Option.bind_eq_bind, Option.bind_eq_some_iff, Option.pure_def, Option.some_inj,
      Prod.exists] at h
    obtain ⟨w, u, hw, rest, hrest, rfl⟩ := h
    obtain ⟨n, rfl, hn⟩ := exists_of_takeName? hw
    obtain ⟨operator, ho, hr⟩ := exists_of_takeOperator? hrest
    obtain ⟨c, -, hc⟩ := exists_blanks u
    refine ⟨.augmented b n c operator ho rest, ?_, ?_⟩
    · rw [← hb, hn, ← hc, hr]
      rfl
    · rw [namesIn_identifier]
      rfl
  | definition =>
    simp only [read?, Option.bind_eq_bind, Option.bind_eq_some_iff, Option.pure_def, Prod.exists] at h
    obtain ⟨u, hu, w, v, hw, h⟩ := h
    obtain ⟨async, ha⟩ := exists_async (skipBlanks line)
    obtain ⟨gap, hgap⟩ := exists_of_takeWord? hu
    obtain ⟨n, rfl, hn⟩ := exists_of_takeName? hw
    obtain ⟨c, -, hc⟩ := exists_blanks v
    split at h
    · rename_i rest hrest
      cases h
      have ht : Form.text (.definition b async gap n c rest) = line := by
        rw [← hb, ha, hgap, hn, ← hc, hrest]
        rfl
      exact ⟨.definition b async gap n c rest, ht, by rw [Form.reading, ht]⟩
    · cases h

section Orders

variable {shapes : List LineShape} {line : List Char}

theorem readBy_text (h : ∀ shape, shape ∈ shapes) (f : Form) : readBy shapes f.text = f.reading := by
  have hsome : (shapes.findSome? fun shape => shape.read? f.text).isSome := by
    rw [List.findSome?_isSome_iff]
    exact ⟨f.shape, h f.shape, by rw [f.read?_shape]; rfl⟩
  obtain ⟨r, hr⟩ := Option.isSome_iff_exists.1 hsome
  obtain ⟨shape, -, hs⟩ := List.exists_of_findSome?_eq_some hr
  obtain ⟨g, hg, rfl⟩ := LineShape.exists_form_of_read? hs
  rw [readBy, hr, Option.getD_some, Form.text_injective hg]

theorem readBy_of_no_form (h : ∀ f : Form, f.text ≠ line) : readBy shapes line = ⟨[], line⟩ := by
  have hnone : (shapes.findSome? fun shape => shape.read? line) = none := by
    rw [List.findSome?_eq_none_iff]
    intro shape _
    cases hs : shape.read? line with
    | none => rfl
    | some r =>
      obtain ⟨f, hf, -⟩ := LineShape.exists_form_of_read? hs
      exact absurd hf (h f)
  rw [readBy, hnone, Option.getD_none]

theorem LineShape.mem_all (shape : LineShape) : shape ∈ LineShape.all := by
  cases shape <;> decide

theorem Form.rest_isSuffix (f : Form) : f.reading.rest <:+ f.text := by
  cases f with
  | assignment before first more behind rest single =>
    exact ⟨before.toList ++ (first.toList ++ (more.flatMap Further.text ++ (behind.toList ++ ['=']))),
      by simp [text, reading]⟩
  | augmented before target behind operator ho rest =>
    exact ⟨before.toList ++ (target.toList ++ (behind.toList ++ (operator ++ ['=']))), by simp [text, reading]⟩
  | definition => exact List.suffix_refl _

theorem readLine_rest_isSuffix (line : List Char) : (readLine line).rest <:+ line := by
  by_cases h : ∃ f : Form, f.text = line
  · obtain ⟨f, rfl⟩ := h
    rw [readLine, readBy_text LineShape.mem_all]
    exact f.rest_isSuffix
  · rw [not_exists] at h
    exact ⟨[], by rw [readLine, readBy_of_no_form h, List.nil_append]⟩

end Orders

/-- A line has at most one form, with one decomposition. Reading gives the names of the form and what is
left behind them, and no name with the whole line where there is no form, in whatever order the shapes are
tried. -/
theorem readLine_followsForms :
    Function.Injective Form.text ∧ (∀ f : Form, readLine f.text = f.reading) ∧
      (∀ line, (∀ f : Form, f.text ≠ line) → readLine line = ⟨[], line⟩) ∧
      ∀ shapes : List LineShape, shapes.Perm LineShape.all → ∀ line, readBy shapes line = readLine line := by
  refine ⟨Form.text_injective, readBy_text LineShape.mem_all, fun line => readBy_of_no_form, ?_⟩
  intro shapes hp line
  have hshapes (shape : LineShape) : shape ∈ shapes := hp.mem_iff.2 shape.mem_all
  by_cases h : ∃ f : Form, f.text = line
  · obtain ⟨f, rfl⟩ := h
    rw [readBy_text hshapes, readLine, readBy_text LineShape.mem_all]
  · rw [not_exists] at h
    rw [readBy_of_no_form h, readLine, readBy_of_no_form h]

/-- An assignment to three names by the shapes in the reverse order, and a comparison, which has no form. -/
theorem readLine_followsForms_reversed :
    let shapes : List LineShape := [.definition, .augmented, .multiple, .plain]
    let line := " total, item_2 ,\tn = f(x) == 2".toList
    let comparison := "total == item_2".toList
    shapes.Perm LineShape.all ∧
      readBy shapes line = ⟨["total".toList, "item_2".toList, "n".toList], " f(x) == 2".toList⟩ ∧
      (∀ f : Form, f.text ≠ comparison) ∧ readLine comparison = ⟨[], comparison⟩ := by
  intro shapes line comparison
  obtain ⟨-, htext, hnone, horder⟩ := readLine_followsForms
  have hp : shapes.Perm LineShape.all := by decide
  have hread : readLine comparison = ⟨[], comparison⟩ := by decide
  have hform (f : Form) : f.text ≠ comparison := by
    intro hf
    have hr := htext f
    rw [hf, hread] at hr
    cases f <;> cases hr
  exact ⟨hp, (horder shapes hp line).trans (by decide), hform, hnone comparison hform⟩

end CellFlow.Names
