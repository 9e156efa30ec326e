import CellFlow.Proofs.Json.Escapes
import CellFlow.Proofs.Json.Numerals
import CellFlow.Proofs.Json.Sorting

/-!
JSON texts read back: a document that the reader's bounds admit is read from its text, whatever
blanks the layout puts between the parts.
-/

set_option autoImplicit false

namespace CellFlow.Json

/-- Layouts that indent with blanks only. -/
def Layout.IsBlank (l : Layout) : Prop := ∀ s ∈ l.indent, ∀ c ∈ s.toList, isSpace c = true

mutual

/-- Values within the bounds of the reader: lists and objects nested no deeper than the given
number, integers that are not too long, and doubles whose texts read as the doubles. -/
def fits (depth : Nat) : Value → Bool
  | .int n => (Nat.toDigits 10 n.natAbs).length ≤ Number.maxDigits
  | .float x => readsFloat x
  | .list xs => depth != 0 && fitsItems (depth - 1) xs
  | .object fs => depth != 0 && fitsMembers (depth - 1) fs
  | _ => true

def fitsItems (depth : Nat) : List Value → Bool
  | [] => true
  | x :: xs => fits depth x && fitsItems depth xs

def fitsMembers (depth : Nat) : Fields → Bool
  | [] => true
  | (_, v) :: fs => fits depth v && fitsMembers depth fs

end

theorem fitsItems_iff {depth : Nat} {xs : List Value} :
    fitsItems depth xs = true ↔ ∀ x ∈ xs, fits depth x = true := by
  induction xs with
  | nil => simp [fitsItems]
  | cons x xs ih => simp [fitsItems, ih]

theorem fitsMembers_iff {depth : Nat} {fs : Fields} :
    fitsMembers depth fs = true ↔ ∀ f ∈ fs, fits depth f.2 = true := by
  induction fs with
  | nil => simp [fitsMembers]
  | cons f fs ih => simp [fitsMembers, ih]

theorem fits_of_same {v w : Value} {depth : Nat} (hv : v.IsKeyed) (h : v.Same w) (hf : fits depth v = true) :
    fits depth w = true := by
  induction hv generalizing w depth with
  | atom hv =>
    rw [h.eq_of_key? hv]
    exact hf
  | list _ ih =>
    obtain ⟨ys, rfl, hs⟩ := h.exists_list
    rw [fits, Bool.and_eq_true, fitsItems_iff] at hf ⊢
    refine ⟨hf.1, fun y hy => ?_⟩
    obtain ⟨x, hx, hxy⟩ := exists_of_mem_forall₂ hs hy
    exact ih x hx hxy (hf.2 x hx)
  | object _ _ ih =>
    obtain ⟨gs, rfl, -⟩ := h.exists_object
    rw [fits, Bool.and_eq_true, fitsMembers_iff] at hf ⊢
    refine ⟨hf.1, fun g hg => ?_⟩
    obtain ⟨v, hm, hs⟩ := h.exists_mem hg
    exact ih _ hm hs (hf.2 _ hm)

section

variable {ws : List Char} {c : Char}

theorem skip_append (h : ∀ c ∈ ws, isSpace c = true) (t : List Char) : skip (ws ++ t) = skip t :=
  List.dropWhile_append_of_pos h

theorem skip_cons (h : isSpace c = false) (t : List Char) : skip (c :: t) = c :: t := by
  rw [skip, List.dropWhile_cons, h]
  rfl

end

/-! Parts of a list or an object, as they are laid out -/

section

variable (l : Layout) (level : Nat)

/-- Parts with the separator between them. -/
def Layout.parts (ps : List String) : List Char := (l.separator level).toList.intercalate (ps.map String.toList)

theorem parts_singleton (p : String) : l.parts level [p] = p.toList := List.intercalate_singleton

theorem parts_cons_cons (p q : String) (ps : List String) :
    l.parts level (p :: q :: ps) = p.toList ++ ((l.separator level).toList ++ l.parts level (q :: ps)) := by
  rw [Layout.parts, List.map_cons, List.map_cons, List.intercalate_cons_cons, List.append_assoc]
  rfl

theorem exists_parts_cons (p : String) (ps : List String) : ∃ r, l.parts level (p :: ps) = p.toList ++ r := by
  cases ps with
  | nil => exact ⟨[], by rw [parts_singleton, List.append_nil]⟩
  | cons q ps => exact ⟨_, parts_cons_cons l level p q ps⟩

variable {opening closing : String} {a b : Char}

theorem toList_enclose_nil (ha : opening.toList = [a]) (hb : closing.toList = [b]) :
    (l.enclose level opening closing []).toList = [a, b] := by
  rw [Layout.enclose, List.isEmpty_nil, if_pos rfl, String.toList_append, ha, hb]
  rfl

theorem toList_enclose (ha : opening.toList = [a]) (hb : closing.toList = [b]) {ps : List String} (hne : ps ≠ []) :
    (l.enclose level opening closing ps).toList =
      a :: ((l.lineBreak (level + 1)).toList ++ (l.parts (level + 1) ps ++ ((l.lineBreak level).toList ++ [b]))) := by
  rw [Layout.enclose, if_neg (by simpa using hne)]
  simp only [String.toList_append, String.toList_intercalate, List.append_assoc, ha, hb,
    List.cons_append, List.nil_append]
  rfl

theorem exists_enclose_cons (ha : opening.toList = [a]) (hb : closing.toList = [b]) (ps : List String) :
    ∃ t, (l.enclose level opening closing ps).toList = a :: t := by
  by_cases hne : ps = []
  · subst hne
    exact ⟨_, toList_enclose_nil l level ha hb⟩
  · exact ⟨_, toList_enclose l level ha hb hne⟩

end

/-- Texts that a value may start with. -/
inductive StartsValue : List Char → Prop
  | quote (t : List Char) : StartsValue ('"' :: t)
  | bracket (t : List Char) : StartsValue ('[' :: t)
  | brace (t : List Char) : StartsValue ('\x7b' :: t)
  | minus (t : List Char) : StartsValue ('-' :: t)
  | digit {c : Char} (h : c.isDigit = true) (t : List Char) : StartsValue (c :: t)
  | word {w : List Char} {v : Value} (h : (w, v) ∈ words) : StartsValue w

theorem StartsValue.exists_cons {s : List Char} (h : StartsValue s) :
    ∃ c t, s = c :: t ∧ isSpace c = false ∧ c ≠ ']' ∧ c ≠ '\uFEFF' := by
  cases h with
  | quote t => exact ⟨_, t, rfl, by decide⟩
  | bracket t => exact ⟨_, t, rfl, by decide⟩
  | brace t => exact ⟨_, t, rfl, by decide⟩
  | minus t => exact ⟨_, t, rfl, by decide⟩
  | @digit c h t =>
    have hs : isSpace c = false := by
      have hne {d : Char} (hd : d.isDigit = false) : c ≠ d := (ne_of_isDigit h hd).symm
      simp [isSpace, hne (d := ' ') rfl, hne (d := '\t') rfl, hne (d := '\n') rfl, hne (d := '\r') rfl]
    exact ⟨c, t, rfl, hs, (ne_of_isDigit h rfl).symm, (ne_of_isDigit h rfl).symm⟩
  | word h =>
    simp only [words, List.mem_cons, List.not_mem_nil, or_false, Prod.mk.injEq] at h
    rcases h with ⟨rfl, -⟩ | ⟨rfl, -⟩ | ⟨rfl, -⟩ | ⟨rfl, -⟩ | ⟨rfl, -⟩ | ⟨rfl, -⟩ <;>
      exact ⟨_, _, rfl, by decide⟩

theorem StartsValue.append {s : List Char} (h : StartsValue s) (t : List Char) :
    ∃ c r, s ++ t = c :: r ∧ isSpace c = false ∧ c ≠ ']' := by
  obtain ⟨c, r, rfl, hs, hb, -⟩ := h.exists_cons
  exact ⟨c, r ++ t, rfl, hs, hb⟩

theorem startsValue_write (l : Layout) (level : Nat) (v : Value) : StartsValue (writeAt l level v).toList := by
  cases v with
  | null => exact .word (v := .null) (by simp [words, writeAt])
  | bool b =>
    cases b with
    | true => exact .word (v := .bool true) (by simp [words, writeAt])
    | false => exact .word (v := .bool false) (by simp [words, writeAt])
  | int n =>
    obtain ⟨c, t, ht, hc, -⟩ := exists_toDigits_cons n.natAbs
    rw [writeAt, toList_toString, ht]
    split
    · exact .digit hc t
    · exact .minus _
  | float x =>
    rw [writeAt]
    rcases text_cases x with ⟨v, hv⟩ | ⟨negative, c, t, hc, ht⟩
    · exact .word hv
    · rw [ht]
      split
      · exact .minus _
      · exact .digit hc t
  | text s =>
    rw [writeAt, writeText, String.toList_ofList]
    exact .quote _
  | list xs =>
    have ht : ∃ t, (writeAt l level (.list xs)).toList = '[' :: t := exists_enclose_cons l level rfl rfl _
    obtain ⟨t, ht⟩ := ht
    rw [ht]
    exact .bracket t
  | object fs =>
    have ht : ∃ t, (writeAt l level (.object fs)).toList = '\x7b' :: t := exists_enclose_cons l level rfl rfl _
    obtain ⟨t, ht⟩ := ht
    rw [ht]
    exact .brace t

section

variable {l : Layout}

theorem endsValue_lineBreak (l : Layout) (level : Nat) {c : Char} (h : EndsValue [c]) (t : List Char) :
    EndsValue ((l.lineBreak level).toList ++ c :: t) := by
  rw [Layout.lineBreak]
  split
  · show EndsValue (c :: t)
    cases h
    · exact .comma t
    · exact .bracket t
    · exact .brace t
    · exact .line t
  · rw [String.toList_append]
    exact .line _

namespace Layout.IsBlank

theorem lineBreak (h : l.IsBlank) (level : Nat) : ∀ c ∈ (l.lineBreak level).toList, isSpace c = true := by
  rw [Layout.lineBreak]
  split
  · simp
  · rename_i s hs
    intro c hc
    rw [String.toList_append, List.mem_append] at hc
    rcases hc with hc | hc
    · obtain rfl : c = '\n' := List.mem_singleton.1 hc
      rfl
    · rw [String.toList_join] at hc
      obtain ⟨u, hu, hc⟩ := List.mem_flatMap.1 hc
      rw [List.eq_of_mem_replicate hu] at hc
      exact h s hs c hc

theorem separator (h : l.IsBlank) (level : Nat) :
    ∃ ws, (l.separator level).toList = ',' :: ws ∧ ∀ c ∈ ws, isSpace c = true := by
  rw [Layout.separator]
  split
  · exact ⟨[' '], rfl, by simp [isSpace]⟩
  · exact ⟨_, by rw [String.toList_append]; rfl, h.lineBreak level⟩

end Layout.IsBlank

theorem toList_member (s : String) (text : String) :
    (writeText s ++ ": " ++ text).toList = '"' :: (s.toList.flatMap writeChar ++ '"' :: ':' :: ' ' :: text.toList) := by
  rw [String.toList_append, String.toList_append, writeText, String.toList_ofList]
  simp

/-! Steps of the reader -/

section

variable {fuel depth : Nat} {s r t rest : List Char} {x : Value} {xs : List Value} {fs : Fields}

theorem readItems_last (hx : readValue fuel depth s = .ok (x, r)) (hr : skip r = ']' :: rest) :
    readItems (fuel + 1) depth s = .ok ([x], rest) := by
  rw [readItems, hx, ok_bind]
  simp only [hr]
  rfl

theorem readItems_more (hx : readValue fuel depth s = .ok (x, r)) (hr : skip r = ',' :: t)
    (hxs : readItems fuel depth (skip t) = .ok (xs, rest)) : readItems (fuel + 1) depth s = .ok (x :: xs, rest) := by
  rw [readItems, hx, ok_bind]
  simp only [hr]
  rw [hxs]
  rfl

theorem readValue_list (hd : depth ≠ 0) {c : Char} (hs : skip s = c :: r) (hc : c ≠ ']')
    (hxs : readItems fuel (depth - 1) (c :: r) = .ok (xs, rest)) :
    readValue (fuel + 1) depth ('[' :: s) = .ok (.list xs, rest) := by
  rw [readValue, if_neg (by decide), if_pos rfl, if_neg hd, hs]
  split
  · rename_i h
    exact absurd (List.cons.inj h).1 hc
  · rw [hxs]
    rfl

theorem readValue_object (hd : depth ≠ 0) (hs : skip s = '"' :: r)
    (hfs : readMembers fuel (depth - 1) [] ('"' :: r) = .ok (fs, rest)) :
    readValue (fuel + 1) depth ('\x7b' :: s) = .ok (.object fs, rest) := by
  rw [readValue, if_neg (by decide), if_neg (by decide), if_pos rfl, if_neg hd, hs]
  split
  · rename_i h
    exact absurd (List.cons.inj h).1 (by decide)
  · rw [hfs]
    rfl

variable {key : String} {acc : Fields}

/-- Reading a member as it is written: its key, and its value before what comes next. -/
theorem readMembers_step (hs : s = '"' :: (key.toList.flatMap writeChar ++ '"' :: ':' :: ' ' :: t))
    (ht : skip t = t) (hx : readValue fuel depth t = .ok (x, r)) :
    readMembers (fuel + 1) depth acc s =
      match skip r with
      | '\x7d' :: rest => .ok (Fields.set acc key x, rest)
      | ',' :: rest => readMembers fuel depth (Fields.set acc key x) (skip rest)
      | r => complain .comma r := by
  have hblank : skip (' ' :: t) = t := by
    rw [skip, List.dropWhile_cons]
    exact ht
  subst hs
  rw [readMembers, readText_body, ok_bind]
  simp only
  rw [skip_cons (by decide)]
  simp only [hblank, pure_eq_ok, ok_bind]
  rw [hx]
  rfl

end

/-! Values -/

/-- A value reads from its text, before anything that may stand behind it. -/
def Reads (l : Layout) (v : Value) : Prop :=
  ∀ (level fuel depth : Nat) (rest : List Char), fits depth v = true → EndsValue rest →
    2 * (writeAt l level v).toList.length < fuel →
    readValue fuel depth ((writeAt l level v).toList ++ rest) = .ok (v, rest)

theorem reads_of_key? (l : Layout) {v : Value} (hv : v.key?.isSome) : Reads l v := by
  intro level fuel depth rest hf hr hn
  obtain ⟨fuel, rfl⟩ : ∃ n, fuel = n + 1 := ⟨fuel - 1, by omega⟩
  cases v with
  | null => exact readValue_word fuel depth (w := "null".toList) (by simp [words]) rest
  | bool b =>
    cases b with
    | true => exact readValue_word fuel depth (w := "true".toList) (by simp [words]) rest
    | false => exact readValue_word fuel depth (w := "false".toList) (by simp [words]) rest
  | int n => exact readValue_int fuel depth (of_decide_eq_true hf) hr
  | float x => exact readValue_float fuel depth hf hr
  | text s =>
    rw [writeAt, writeText, String.toList_ofList]
    show readValue (fuel + 1) depth ('"' :: (s.toList.flatMap writeChar ++ ['"'] ++ rest)) = _
    rw [readValue, if_pos rfl, List.append_assoc, List.singleton_append, readText_body]
    rfl
  | list xs => cases hv
  | object fs => cases hv

theorem skip_write (l : Layout) (level : Nat) (v : Value) (t : List Char) :
    skip ((writeAt l level v).toList ++ t) = (writeAt l level v).toList ++ t := by
  obtain ⟨c, r, hc, hs, -⟩ := (startsValue_write l level v).append t
  rw [hc, skip_cons hs]

theorem exists_items_cons (l : Layout) (level : Nat) (x : Value) (xs : List Value) (t : List Char) :
    ∃ c r, l.parts level (writeItems l level (x :: xs)) ++ t = c :: r ∧ isSpace c = false ∧ c ≠ ']' := by
  obtain ⟨r, hr⟩ := exists_parts_cons l level (writeAt l level x) (writeItems l level xs)
  obtain ⟨c, r', hc, hs⟩ := (startsValue_write l level x).append (r ++ t)
  exact ⟨c, r', by rw [writeItems, hr, List.append_assoc, hc], hs⟩

theorem exists_members_cons (l : Layout) (level : Nat) (f : Key × Value) (fs : Fields) (t : List Char) :
    ∃ r, l.parts level ((writeMembers l level (f :: fs)).map (·.2)) ++ t = '"' :: r := by
  obtain ⟨r, hr⟩ := exists_parts_cons l level (writeText (keyText f.1) ++ ": " ++ writeAt l level f.2)
    ((writeMembers l level fs).map (·.2))
  rw [writeMembers, List.map_cons, hr, toList_member]
  exact ⟨_, rfl⟩

section

variable (hb : l.IsBlank)

include hb

/-- Items read from their text. Twice the length of a text is fuel enough for its parts. -/
theorem readItems_write (level outer : Nat) {xs : List Value} (hne : xs ≠ []) (hxs : ∀ x ∈ xs, Reads l x)
    (fuel depth : Nat) (rest : List Char) (hf : fitsItems depth xs = true)
    (hn : 2 * (l.parts level (writeItems l level xs)).length + 1 < fuel) :
    readItems fuel depth (l.parts level (writeItems l level xs) ++ ((l.lineBreak outer).toList ++ ']' :: rest)) =
      .ok (xs, rest) := by
  induction xs generalizing fuel with
  | nil => exact absurd rfl hne
  | cons x xs ih =>
    obtain ⟨fuel, rfl⟩ : ∃ n, fuel = n + 1 := ⟨fuel - 1, by omega⟩
    rw [fitsItems, Bool.and_eq_true] at hf
    have hx := hxs x List.mem_cons_self
    cases xs with
    | nil =>
      rw [writeItems, writeItems, parts_singleton] at hn ⊢
      have hend := endsValue_lineBreak l outer (.bracket []) rest
      refine readItems_last (hx level fuel depth _ hf.1 hend (by omega)) ?_
      rw [skip_append (hb.lineBreak outer), skip_cons (by decide)]
    | cons y ys =>
      obtain ⟨ws, hws, hblank⟩ := hb.separator level
      have ih := ih (by simp) (fun z hz => hxs z (List.mem_cons_of_mem x hz)) fuel hf.2
      obtain ⟨c, r, hr, hc, -⟩ := exists_items_cons l level y ys ((l.lineBreak outer).toList ++ ']' :: rest)
      have htext : l.parts level (writeItems l level (x :: y :: ys)) =
          (writeAt l level x).toList ++ (',' :: ws ++ l.parts level (writeItems l level (y :: ys))) := by
        rw [writeItems, writeItems, parts_cons_cons, hws]
      rw [htext] at hn ⊢
      simp only [List.length_append, List.length_cons] at hn
      simp only [List.append_assoc, List.cons_append]
      refine readItems_more (hx level fuel depth _ hf.1 (.comma _) (by omega)) (skip_cons (by decide) _) ?_
      rw [skip_append hblank, hr, skip_cons hc, ← hr]
      exact ih (by omega)

/-- Members read from their text, behind those that were read before. -/
theorem readMembers_write (level outer : Nat) {fs : Fields} (hne : fs ≠ []) (hfs : ∀ f ∈ fs, Reads l f.2)
    (fuel depth : Nat) (rest : List Char) {acc : Fields} (hk : Fields.AreKeyed (acc ++ fs))
    (hf : fitsMembers depth fs = true)
    (hn : 2 * (l.parts level ((writeMembers l level fs).map (·.2))).length + 1 < fuel) :
    readMembers fuel depth acc (l.parts level ((writeMembers l level fs).map (·.2)) ++
      ((l.lineBreak outer).toList ++ '\x7d' :: rest)) = .ok (acc ++ fs, rest) := by
  induction fs generalizing fuel acc with
  | nil => exact absurd rfl hne
  | cons f fs ih =>
    obtain ⟨fuel, rfl⟩ : ∃ n, fuel = n + 1 := ⟨fuel - 1, by omega⟩
    obtain ⟨k, v⟩ := f
    obtain ⟨s, hs⟩ := Key.exists_text (hk.texts _ (List.mem_append_right acc List.mem_cons_self))
    obtain rfl : k = .text s := hs
    rw [fitsMembers, Bool.and_eq_true] at hf
    have hv : Reads l v := hfs _ List.mem_cons_self
    -- the key is new, so that the member is added at the end
    have hset : Fields.set acc s v = acc ++ [(.text s, v)] := hk.set_eq_append_of_append
    cases fs with
    | nil =>
      rw [writeMembers, writeMembers, List.map_cons, List.map_nil, parts_singleton, keyText, toList_member] at hn ⊢
      simp only [List.length_append, List.length_cons] at hn
      have hend := endsValue_lineBreak l outer (.brace []) rest
      have hx := hv level fuel depth _ hf.1 hend (by omega)
      rw [readMembers_step (by simp; rfl) (skip_write l level v _) hx, skip_append (hb.lineBreak outer),
        skip_cons (by decide)]
      simp only [hset]
    | cons g gs =>
      obtain ⟨ws, hws, hblank⟩ := hb.separator level
      have hk' : Fields.AreKeyed ((acc ++ [(.text s, v)]) ++ g :: gs) := by
        rw [List.append_assoc]
        exact hk
      have ih := ih (by simp) (fun f hf => hfs f (List.mem_cons_of_mem _ hf)) fuel hk' hf.2
      obtain ⟨r, hr⟩ := exists_members_cons l level g gs ((l.lineBreak outer).toList ++ '\x7d' :: rest)
      have htext : l.parts level ((writeMembers l level ((.text s, v) :: g :: gs)).map (·.2)) =
          '"' :: (s.toList.flatMap writeChar ++ '"' :: ':' :: ' ' :: (writeAt l level v).toList) ++
            (',' :: ws ++ l.parts level ((writeMembers l level (g :: gs)).map (·.2))) := by
        rw [writeMembers, writeMembers, List.map_cons, List.map_cons, parts_cons_cons, keyText, toList_member, hws]
      rw [htext] at hn ⊢
      simp only [List.length_append, List.length_cons] at hn
      have hx := hv level fuel depth (',' :: (ws ++ '"' :: r)) hf.1 (.comma _) (by omega)
      rw [readMembers_step (by simp [hr]; rfl) (skip_write l level v _) hx, skip_cons (by decide), hset]
      simp only
      rw [skip_append hblank, skip_cons (by decide), ← hr, ih (by omega), List.append_assoc]
      rfl

theorem reads_list {xs : List Value} (h : ∀ x ∈ xs, Reads l x) : Reads l (.list xs) := by
  intro level fuel depth rest hf _ hn
  obtain ⟨fuel, rfl⟩ : ∃ n, fuel = n + 1 := ⟨fuel - 1, by omega⟩
  rw [fits, Bool.and_eq_true, bne_iff_ne] at hf
  cases xs with
  | nil =>
    rw [writeAt, writeItems, toList_enclose_nil l level (a := '[') (b := ']') rfl rfl]
    show readValue (fuel + 1) depth ('[' :: ']' :: rest) = _
    rw [readValue, if_neg (by decide), if_pos rfl, if_neg hf.1, skip_cons (by decide)]
    rfl
  | cons x xs =>
    have hne : writeItems l (level + 1) (x :: xs) ≠ [] := List.cons_ne_nil _ _
    rw [writeAt, toList_enclose l level (a := '[') (b := ']') rfl rfl hne] at hn ⊢
    simp only [List.length_append, List.length_cons] at hn
    simp only [List.cons_append, List.append_assoc, List.nil_append]
    have hitems := readItems_write hb (level + 1) level (by simp) h fuel (depth - 1) rest hf.2 (by omega)
    obtain ⟨c, r, hr, hc, hc'⟩ := exists_items_cons l (level + 1) x xs ((l.lineBreak level).toList ++ ']' :: rest)
    rw [hr] at hitems ⊢
    refine readValue_list hf.1 ?_ hc' hitems
    rw [skip_append (hb.lineBreak (level + 1)), skip_cons hc]

theorem reads_object (hl : l.sortKeys = false) {fs : Fields} (hk : fs.AreKeyed) (h : ∀ f ∈ fs, Reads l f.2) :
    Reads l (.object fs) := by
  intro level fuel depth rest hf _ hn
  obtain ⟨fuel, rfl⟩ : ∃ n, fuel = n + 1 := ⟨fuel - 1, by omega⟩
  rw [fits, Bool.and_eq_true, bne_iff_ne] at hf
  have hmembers : l.members (writeMembers l (level + 1) fs) = (writeMembers l (level + 1) fs).map (·.2) := by
    simp [Layout.members, hl]
  rw [writeAt, hmembers] at hn ⊢
  cases fs with
  | nil =>
    rw [writeMembers, List.map_nil, toList_enclose_nil l level (a := '\x7b') (b := '\x7d') rfl rfl]
    show readValue (fuel + 1) depth ('\x7b' :: '\x7d' :: rest) = _
    rw [readValue, if_neg (by decide), if_neg (by decide), if_pos rfl, if_neg hf.1, skip_cons (by decide)]
    rfl
  | cons f fs =>
    have hne : (writeMembers l (level + 1) (f :: fs)).map (·.2) ≠ [] := List.cons_ne_nil _ _
    rw [toList_enclose l level (a := '\x7b') (b := '\x7d') rfl rfl hne] at hn ⊢
    simp only [List.length_append, List.length_cons] at hn
    simp only [List.cons_append, List.append_assoc, List.nil_append]
    have hk' : Fields.AreKeyed ([] ++ f :: fs) := hk
    have hfs := readMembers_write hb (level + 1) level (by simp) h fuel (depth - 1) rest hk' hf.2 (by omega)
    obtain ⟨r, hr⟩ := exists_members_cons l (level + 1) f fs ((l.lineBreak level).toList ++ '\x7d' :: rest)
    rw [hr] at hfs ⊢
    refine readValue_object hf.1 ?_ hfs
    rw [skip_append (hb.lineBreak (level + 1)), skip_cons (by decide)]

theorem reads_of_isKeyed (hl : l.sortKeys = false) {v : Value} (hk : v.IsKeyed) : Reads l v := by
  induction hk with
  | atom hv => exact reads_of_key? l hv
  | list _ ih => exact reads_list hb ih
  | object hk _ ih => exact reads_object hb hl hk ih

/-- A document within the reader's bounds reads from its text. -/
theorem read_write (hl : l.sortKeys = false) {v : Value} (hk : v.IsKeyed) (hf : fits maxDepth v = true) :
    read (write l v) = .ok v := by
  have hr := reads_of_isKeyed hb hl hk 0 (2 * (write l v).toList.length + 2) maxDepth [] hf .nil (by
    rw [write]
    omega)
  obtain ⟨c, t, ht, hs, -, hm⟩ := (startsValue_write l 0 v).exists_cons
  rw [List.append_nil] at hr
  have ha : readAll (write l v).toList = .ok v := by
    rw [readAll]
    rw [write] at hr ⊢
    rw [ht] at hr ⊢
    rw [skip_cons hs, hr]
    simp [hm, skip]
  rw [read, ha]

/-- So it does when the members are sorted, but for their order. -/
theorem Layout.IsBlank.readsBack {v : Value} (hv : v.IsKeyed) (hf : fits maxDepth v = true) : l.ReadsBack v := by
  cases hl : l.sortKeys with
  | false => exact ⟨v, read_write hb hl hv hf, .refl v, fun _ => rfl⟩
  | true =>
    have hs := hv.same_sorted
    have hr : read (write l v) = .ok v.sorted := by
      rw [← write_sorted hl]
      exact read_write (l := l.unsorted) hb rfl (hs.isKeyed hv) (fits_of_same hv hs hf)
    exact ⟨v.sorted, hr, hs, fun h => by simp [hl] at h⟩

end

end

end CellFlow.Json
