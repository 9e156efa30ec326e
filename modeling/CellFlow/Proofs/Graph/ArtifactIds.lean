import CellFlow.Proofs.Graph.Ids
import CellFlow.Proofs.Json.Numerals
import Mathlib

/-!
Reading the id of an artifact: behind the last mark stands the text of a number, which reads as
that number. Before the first mark stands the owner, unless a mark starts in the owner.
-/

set_option autoImplicit false

namespace CellFlow

namespace Text

variable {mark s before behind : List Char}

theorem isSome_splitFirst? (mark s : List Char) : (splitFirst? mark s).isSome = isPart mark s := by
  induction s with
  | nil =>
    rw [splitFirst?, isPart]
    split <;> simp_all
  | cons c s ih =>
    rw [splitFirst?, isPart, ← ih]
    split <;> simp_all

theorem isPart_append (before mark behind : List Char) : isPart mark (before ++ (mark ++ behind)) = true := by
  induction before with
  | nil =>
    cases mark with
    | nil => cases behind <;> simp [isPart]
    | cons m mark => simp [isPart]
  | cons c before ih => simp [isPart, ih]

theorem splitLast?_eq_none {c : Char} (hm : c ∈ mark) (hs : c ∉ s) : splitLast? mark s = none := by
  have hne : mark ≠ [] := List.ne_nil_of_mem hm
  induction s with
  | nil => simp [splitLast?, hne]
  | cons d s ih =>
    have hp : ¬ mark <+: d :: s := fun hp => hs (hp.subset hm)
    rw [splitLast?, ih fun h => hs (List.mem_cons_of_mem d h)]
    simp [hp]

/-- A mark starts with its first character. -/
theorem splitLast?_append_of_not_mem {m : Char} (hb : m ∉ before)
    (h : splitLast? (m :: mark) s = none) : splitLast? (m :: mark) (before ++ s) = none := by
  induction before with
  | nil => exact h
  | cons c before ih =>
    rw [List.mem_cons, not_or] at hb
    rw [List.cons_append, splitLast?, ih hb.2]
    simp [hb.1]

/-- The last mark is the one behind which none starts. -/
theorem splitLast?_append {m : Char} (h : splitLast? (m :: mark) (mark ++ behind) = none)
    (before : List Char) :
    splitLast? (m :: mark) (before ++ (m :: mark ++ behind)) = some (before, behind) := by
  induction before with
  | nil =>
    rw [List.nil_append, List.cons_append, splitLast?, h]
    simp
  | cons c before ih => rw [List.cons_append, splitLast?, ih]

theorem splitFirst?_of_startsWith (h : mark <+: s) : splitFirst? mark s = some ([], s.drop mark.length) := by
  cases s with
  | nil => simp [splitFirst?, List.prefix_nil.1 h]
  | cons c s => rw [splitFirst?, if_pos (List.isPrefixOf_iff_prefix.2 h)]

/-- A mark in front of another one shares no more than the first character with it, if that stands
nowhere else in the mark but at its end. -/
theorem concat_startsWith_of_overlap {c : Char} {w : List Char} (hmark : mark = c :: (w ++ [c])) (hw : c ∉ w)
    {d : Char} {t : List Char} (h : mark <+: d :: (t ++ (mark ++ behind))) : mark <+: d :: (t ++ [c]) := by
  subst hmark
  obtain ⟨rfl, hp⟩ := List.cons_prefix_cons.1 h
  refine List.cons_prefix_cons.2 ⟨rfl, ?_⟩
  have ht : t ++ [c] <+: t ++ (c :: (w ++ [c]) ++ behind) := ⟨w ++ [c] ++ behind, by simp⟩
  rcases List.prefix_or_prefix_of_prefix hp ht with hp | hp
  · exact hp
  · rcases List.prefix_concat_iff.1 hp with he | hp
    · rw [he]
    · exact absurd (hp.subset (by simp)) hw

/-- What stands before a mark stands before the first one, unless another one starts in it. -/
theorem splitFirst?_append_iff {c : Char} {w : List Char} (hmark : mark = c :: (w ++ [c])) (hw : c ∉ w)
    (before behind : List Char) :
    (splitFirst? mark (before ++ (mark ++ behind))).map (·.1) = some before ↔ ¬ mark <:+: before ++ [c] := by
  induction before with
  | nil =>
    have hn : ¬ mark <:+: [] ++ [c] := fun h => by simpa [hmark] using h.length_le
    rw [iff_true_right hn, List.nil_append, splitFirst?_of_startsWith (List.prefix_append mark behind)]
    rfl
  | cons d before ih =>
    rw [List.cons_append, List.cons_append, List.infix_cons_iff, not_or, ← ih]
    by_cases hp : mark <+: d :: (before ++ (mark ++ behind))
    · rw [splitFirst?_of_startsWith hp]
      simp [concat_startsWith_of_overlap hmark hw hp]
    · have hn : ¬ mark <+: d :: (before ++ [c]) := fun hm =>
        hp (hm.trans ⟨w ++ [c] ++ behind, by simp [hmark]⟩)
      rw [splitFirst?, if_neg fun h => hp (List.isPrefixOf_iff_prefix.1 h)]
      simp [hn, Option.map_map, Function.comp_def]

end Text

/-! Numbers -/

namespace Number

theorem isMargin_of_isPositionChar {c : Char} (h : isPositionChar c = true) : isMargin c = false := by
  have hb : Text.isBlank c = false := by
    rw [isPositionChar, Bool.or_eq_true, Char.isDigit_iff_toNat] at h
    rw [Text.isBlank, ← Bool.not_eq_true, Text.Ranges.has_iff]
    have hc : c.toNat = 45 ∨ 48 ≤ c.toNat ∧ c.toNat ≤ 57 := by
      rcases h with h | h
      · exact .inr h
      · exact .inl (by rw [eq_of_beq h]; rfl)
    simp only [Text.blankRanges, List.mem_cons, List.not_mem_nil, or_false, not_exists, not_and]
    rintro r (rfl | rfl | rfl | rfl | rfl | rfl | rfl | rfl | rfl | rfl) <;> omega
  rw [isMargin, hb]
  rfl

theorem withoutMargins_eq_self {s : List Char} (h : ∀ c ∈ s, isPositionChar c = true) :
    withoutMargins s = s := by
  have hd {t : List Char} (h : ∀ c ∈ t, isPositionChar c = true) : t.dropWhile isMargin = t := by
    cases t with
    | nil => rfl
    | cons c t =>
      rw [List.dropWhile_cons, isMargin_of_isPositionChar (h c List.mem_cons_self)]
      rfl
  rw [withoutMargins, hd h, hd fun c hc => h c (List.mem_reverse.1 hc), List.reverse_reverse]

theorem digitValue?_of_isDigit {c : Char} (h : c.isDigit = true) :
    Text.digitValue? c = some (c.toNat - 48) := by
  have hc : 48 ≤ c.toNat ∧ c.toNat ≤ 57 := Char.isDigit_iff_toNat.1 h
  rw [Text.digitValue?, if_pos (by omega), if_pos h]

theorem moreDigits_of_isDigit {s : List Char} (h : ∀ c ∈ s, c.isDigit = true) :
    moreDigits s = (s.map fun c => c.toNat - 48, []) := by
  induction s with
  | nil => rfl
  | cons c s ih =>
    have hc := digitValue?_of_isDigit (h c List.mem_cons_self)
    have hs := ih fun d hd => h d (List.mem_cons_of_mem c hd)
    cases s with
    | nil => simp [moreDigits, hc]
    | cons d s => simp [moreDigits, hc, hs]

theorem takeDigits_of_isDigit {s : List Char} (h : ∀ c ∈ s, c.isDigit = true) :
    takeDigits s = (s.map fun c => c.toNat - 48, []) := by
  cases s with
  | nil => rfl
  | cons c s =>
    have hs := moreDigits_of_isDigit fun d hd => h d (List.mem_cons_of_mem c hd)
    simp [takeDigits, digitValue?_of_isDigit (h c List.mem_cons_self), hs]

theorem takeSign_toString (i : Int) :
    takeSign (toString i).toList = (decide (i < 0), Nat.toDigits 10 i.natAbs) := by
  rw [Json.toList_toString]
  split
  · rename_i hi
    obtain ⟨c, t, ht, hc, -⟩ := Json.exists_toDigits_cons i.natAbs
    have hm : c ≠ '-' := (Json.ne_of_isDigit hc rfl).symm
    have hp : c ≠ '+' := (Json.ne_of_isDigit hc rfl).symm
    simp [ht, takeSign, hm, hp, hi]
  · rename_i hi
    simp [takeSign, Int.not_le.1 hi]

/-- What is written for an integer is read as that integer, unless it has too many digits. -/
theorem readInteger_toString {i : Int} (hi : i.natAbs < 10 ^ maxDigits) :
    readInteger (toString i).toList = .value i := by
  have hlen : (Nat.toDigits 10 i.natAbs).length ≤ maxDigits :=
    (Nat.length_toDigits_le_iff (by decide) (by decide)).2 hi
  have hd := takeDigits_of_isDigit fun c hc =>
    Nat.isDigit_of_mem_toDigits (b := 10) (n := i.natAbs) (by decide) (by decide) hc
  have hv := Json.digitsValue_toDigits i.natAbs
  obtain ⟨c, t, ht, -, -⟩ := Json.exists_toDigits_cons i.natAbs
  rw [readInteger, withoutMargins_eq_self fun c hc => isPositionChar_of_mem_toString hc, takeSign_toString]
  simp only [hd]
  rw [ht] at hlen hv ⊢
  rw [List.map_cons] at hv ⊢
  simp only [List.length_cons, List.length_map] at hlen ⊢
  rw [if_neg (by omega), hv]
  simp only [List.isEmpty_nil, Bool.not_true, Bool.false_eq_true, if_false, decide_eq_true_eq]
  congr 1
  split <;> omega

end Number

theorem splitLast?_artifactId (owner : String) (i : Int) :
    Text.splitLast? artifactMark.toList (artifactId owner i).toList =
      some (owner.toList, (toString i).toList) := by
  -- no second mark starts in the first: "artifact" has no '-', and what follows it has no 'a'
  have ha : 'a' ∉ '-' :: (toString i).toList := by
    rw [List.mem_cons, not_or]
    refine ⟨by decide, fun h => ?_⟩
    have := isPositionChar_of_mem_toString h
    simp [isPositionChar] at this
  have hn : Text.splitLast? artifactMark.toList ("artifact".toList ++ '-' :: (toString i).toList) = none :=
    Text.splitLast?_append_of_not_mem (m := '-') (by decide)
      (Text.splitLast?_eq_none (c := 'a') (by decide) ha)
  rw [toList_artifactId]
  exact Text.splitLast?_append (m := '-') hn owner.toList

theorem artifactMark_eq : artifactMark.toList = '-' :: ("artifact".toList ++ ['-']) := rfl

/-- The id of an artifact is split into some owner and the number that was written. The owner is the
one that was written, unless a mark starts in it. -/
theorem exists_splitArtifactId?_artifactId (owner : String) (i : Int) :
    ∃ o, splitArtifactId? (artifactId owner i) = some (o, toString i) ∧
      (o = owner ↔ ¬ artifactMark.toList <:+: (owner ++ "-").toList) := by
  have hf : (Text.splitFirst? artifactMark.toList (artifactId owner i).toList).isSome := by
    rw [Text.isSome_splitFirst?, toList_artifactId]
    exact Text.isPart_append _ _ _
  obtain ⟨p, hp⟩ := Option.isSome_iff_exists.1 hf
  refine ⟨String.ofList p.1, by rw [splitArtifactId?, hp, splitLast?_artifactId]; simp, ?_⟩
  have ho := Text.splitFirst?_append_iff artifactMark_eq (by decide) owner.toList (toString i).toList
  rw [← toList_artifactId, hp, Option.map_some, Option.some.injEq] at ho
  rw [String.toList_append, ← String.toList_inj, String.toList_ofList]
  exact ho

/-- An owner that a mark starts in has a mark in it, or ends with all of one but its last character. -/
theorem artifactMark_infix_concat (owner : String) : artifactMark.toList <:+: (owner ++ "-").toList ↔
    artifactMark.toList <:+: owner.toList ∨ "-artifact".toList <:+ owner.toList := by
  have hd : (owner ++ "-").toList = owner.toList ++ ['-'] := String.toList_append
  have hm : artifactMark.toList = "-artifact".toList ++ ['-'] := rfl
  rw [hd, List.infix_concat_iff, or_comm]
  refine or_congr_right ?_
  rw [hm, List.suffix_append_self_iff]

theorem not_artifactMark_infix_id (c : Cell) : ¬ artifactMark.toList <:+: (c.id ++ "-").toList := by
  intro h
  have ha : 'a' ∈ (c.id ++ "-").toList := h.subset (by decide)
  rw [String.toList_append, List.mem_append] at ha
  rcases ha with ha | ha
  · have := isPositionChar_of_mem_toString ha
    simp [isPositionChar] at this
  · simp at ha

namespace NodeRecord

variable {n : NodeRecord} {owner : String} {i : Int}

theorem splitId?_of_id (hn : n.id = .text (artifactId owner i)) :
    n.splitId? = .ok (splitArtifactId? (artifactId owner i)) := by
  have hh : n.id.holds (.text artifactMark) = .ok true := by
    rw [hn, Value.holds, toList_artifactId, Text.isPart_append]
  rw [splitId?, hh, hn]
  rfl

/-- The number of an artifact is read back from its id. -/
theorem artifactIndex?_of_id (hn : n.id = .text (artifactId owner i))
    (hi : i.natAbs < 10 ^ Number.maxDigits) : n.artifactIndex? = .ok (some i) := by
  obtain ⟨o, ho, -⟩ := exists_splitArtifactId?_artifactId owner i
  rw [artifactIndex?, splitId?_of_id hn, ho]
  simp only [ok_bind, Value.toInteger, Number.readInteger_toString hi]
  rfl

/-- The owner of an artifact is read back from its id, unless a mark starts in the owner. -/
theorem ownerId?_of_id (hn : n.id = .text (artifactId owner i)) :
    n.ownerId? = .ok (some owner) ↔ ¬ artifactMark.toList <:+: (owner ++ "-").toList := by
  obtain ⟨o, ho, hi⟩ := exists_splitArtifactId?_artifactId owner i
  rw [ownerId?, splitId?_of_id hn, ho, ← hi]
  simp only [ok_bind, Option.map_some, pure_eq_ok, Except.ok.injEq, Option.some.injEq]

end NodeRecord

/-- What an id tells of the artifact with some owner and number. -/
structure TellsArtifact (owner : String) (i : Int) (id : String) : Prop where
  number : ∀ n : NodeRecord, n.id = .text id → n.artifactIndex? = .ok (some i)
  owner_iff : ∀ n : NodeRecord, n.id = .text id →
    (n.ownerId? = .ok (some owner) ↔ ¬ artifactMark.toList <:+: (owner ++ "-").toList)
  unique : ∀ (o : String) (j : Int), writeArtifactId o j = .ok id → o = owner ∧ j = i

theorem writeArtifactId_eq_ok {owner id : String} {i : Int} : writeArtifactId owner i = .ok id ↔
    i.natAbs < 10 ^ Number.maxDigits ∧ artifactId owner i = id := by
  rw [writeArtifactId, Nat.pow_eq]
  split
  · rename_i hi
    rw [Except.ok.injEq, and_iff_right hi]
  · rename_i hi
    constructor
    · intro h
      cases h
    · intro h
      exact absurd h.1 hi

theorem tellsArtifact_artifactId (owner : String) {i : Int} (hi : i.natAbs < 10 ^ Number.maxDigits) :
    TellsArtifact owner i (artifactId owner i) where
  number _ hn := NodeRecord.artifactIndex?_of_id hn hi
  owner_iff _ hn := NodeRecord.ownerId?_of_id hn
  unique _ _ h := artifactId_injective (writeArtifactId_eq_ok.1 h).2

/-- Every number that can be written makes an id with every owner: the number is read back from it,
no other owner and number make the same id, and the owner is read back exactly when no mark starts in
it, as none does in the id of a cell. -/
theorem writeArtifactId_tells (owner : String) (i : Int) :
    (i.natAbs < 10 ^ Number.maxDigits ∧ (∃ id, writeArtifactId owner i = .ok id ∧ TellsArtifact owner i id) ∨
      10 ^ Number.maxDigits ≤ i.natAbs ∧ writeArtifactId owner i = .error .tooLongInteger) ∧
    (artifactMark.toList <:+: (owner ++ "-").toList ↔
      artifactMark.toList <:+: owner.toList ∨ "-artifact".toList <:+ owner.toList) ∧
    ∀ c : Cell, ¬ artifactMark.toList <:+: (c.id ++ "-").toList := by
  refine ⟨?_, artifactMark_infix_concat owner, not_artifactMark_infix_id⟩
  by_cases hi : i.natAbs < 10 ^ Number.maxDigits
  · exact .inl ⟨hi, _, writeArtifactId_eq_ok.2 ⟨hi, rfl⟩, tellsArtifact_artifactId owner hi⟩
  · exact .inr ⟨Nat.le_of_not_lt hi, by rw [writeArtifactId, Nat.pow_eq, if_neg hi]⟩

end CellFlow
