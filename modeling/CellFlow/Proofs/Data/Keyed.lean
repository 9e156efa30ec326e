import CellFlow.Data.Order
import CellFlow.Proofs.Data.Outcome
import Mathlib.Data.List.Nodup
import Mathlib.Data.String.Basic

/-!
Documents: values whose objects have distinct texts as keys. Two of them are the same where
they differ in nothing but the order of members.
-/

set_option autoImplicit false

namespace CellFlow

variable {α β : Type}

theorem insertBy_map {le : α → α → Bool} {le' : β → β → Bool} {f : α → β}
    (h : ∀ a b, le' (f a) (f b) = le a b) (a : α) (l : List α) :
    insertBy le' (f a) (l.map f) = (insertBy le a l).map f := by
  induction l with
  | nil => rfl
  | cons b l ih =>
    rw [List.map_cons, insertBy, insertBy, h, ih]
    split <;> rfl

theorem sortBy_map {le : α → α → Bool} {le' : β → β → Bool} {f : α → β}
    (h : ∀ a b, le' (f a) (f b) = le a b) (l : List α) :
    sortBy le' (l.map f) = (sortBy le l).map f := by
  induction l with
  | nil => rfl
  | cons a l ih => rw [List.map_cons, sortBy, sortBy, ih, insertBy_map h]

theorem insertBy_congr {le le' : α → α → Bool} {a : α} {l : List α} (h : ∀ b ∈ l, le a b = le' a b) :
    insertBy le a l = insertBy le' a l := by
  induction l with
  | nil => rfl
  | cons b l ih =>
    rw [List.forall_mem_cons] at h
    rw [insertBy, insertBy, h.1, ih h.2]

/-- Sorting only asks of an element whether it may stay before those that come later. -/
theorem sortBy_congr {le le' : α → α → Bool} {l : List α} (h : l.Pairwise fun a b => le a b = le' a b) :
    sortBy le l = sortBy le' l := by
  induction l with
  | nil => rfl
  | cons a l ih =>
    rw [List.pairwise_cons] at h
    rw [sortBy, sortBy, ← ih h.2]
    exact insertBy_congr fun b hb => h.1 b ((sortBy_perm le l).mem_iff.1 hb)

theorem sortBy_eq_self {le : α → α → Bool} {l : List α} (h : l.Pairwise fun a b => le a b) :
    sortBy le l = l := by
  induction l with
  | nil => rfl
  | cons a l ih =>
    rw [sortBy, ih h.tail]
    cases l with
    | nil => rfl
    | cons b l =>
      have hab : le a b = true := List.rel_of_pairwise_cons h List.mem_cons_self
      rw [insertBy, if_pos hab]

/-- What is found in some fields stands in one of them, under a key that counts as the same. -/
theorem Fields.exists_mem_of_get? {fs : Fields} {k : Key} {v : Value} (h : Fields.get? fs k = some v) :
    ∃ j, (j, v) ∈ fs := by
  rw [get?] at h
  induction fs with
  | nil => cases h
  | cons f fs ih =>
    rw [List.lookup_cons] at h
    split at h
    · obtain rfl := Option.some.inj h
      exact ⟨f.1, List.mem_cons_self⟩
    · exact (ih h).imp fun _ hm => List.mem_cons_of_mem f hm

/-- Keys as those of an object in a document. -/
structure Fields.AreKeyed (fs : Fields) : Prop where
  texts : ∀ f ∈ fs, f.1.kind = .text
  distinct : (fs.map (·.1)).Nodup

theorem Key.exists_text {k : Key} (h : k.kind = .text) : ∃ s, k = .text s := by
  cases k with
  | text s => exact ⟨s, rfl⟩
  | _ => cases h

theorem Key.text_shown {k : Key} (h : k.kind = .text) : Key.text k.shown = k := by
  obtain ⟨s, rfl⟩ := Key.exists_text h
  rfl

theorem Key.precedes_text (s t : String) : (Key.text s).precedes (.text t) = decide (s ≤ t) := by
  rw [Key.precedes, Key.less?]
  by_cases h : t < s
  · simp [h]
  · simp [h, not_lt.1 h]

namespace Fields

namespace AreKeyed

variable {fs gs : Fields} {k : String} {v w : Value}

theorem nil : AreKeyed [] := ⟨by simp, by simp⟩

theorem tail {f : Key × Value} (h : AreKeyed (f :: fs)) : AreKeyed fs :=
  ⟨fun g hg => h.texts g (List.mem_cons_of_mem f hg), (List.nodup_cons.1 h.distinct).2⟩

/-- It takes the keys alone, in any order. -/
theorem of_perm (h : AreKeyed fs) (hp : (fs.map (·.1)).Perm (gs.map (·.1))) : AreKeyed gs where
  texts g hg := by
    have hm : g.1 ∈ fs.map (·.1) := hp.mem_iff.2 (List.mem_map_of_mem hg)
    obtain ⟨f, hf, he⟩ := List.mem_map.1 hm
    rw [← he]
    exact h.texts f hf
  distinct := hp.nodup_iff.1 h.distinct

theorem eq_text_of_beq {f : Key × Value} (h : AreKeyed fs) (hf : f ∈ fs) (hk : (f.1 == Key.text k) = true) :
    f.1 = .text k := by
  obtain ⟨s, hs⟩ := Key.exists_text (h.texts f hf)
  rw [hs, Key.text_beq_text, beq_iff_eq] at hk
  rw [hs, hk]

theorem get?_eq_some_iff (h : AreKeyed fs) : Fields.get? fs k = some v ↔ (.text k, v) ∈ fs := by
  induction fs with
  | nil => simp [Fields.get?]
  | cons f fs ih =>
    have ih : List.lookup (Key.text k) fs = some v ↔ (.text k, v) ∈ fs := ih h.tail
    obtain ⟨j, w⟩ := f
    obtain ⟨s, hs⟩ := Key.exists_text (h.texts _ List.mem_cons_self)
    obtain rfl : j = .text s := hs
    have hn : Key.text s ∉ fs.map (·.1) := (List.nodup_cons.1 h.distinct).1
    rw [Fields.get?, List.lookup_cons, Key.text_beq_text, List.mem_cons, Prod.mk.injEq]
    by_cases hks : k = s
    · subst hks
      have hm : (Key.text k, v) ∉ fs := fun hm => hn (List.mem_map_of_mem hm)
      simp [hm, eq_comm]
    · have hb : (k == s) = false := by simp [hks]
      simp [hb, ih, hks]

theorem eq_of_get? {f : Key × Value} (h : AreKeyed fs) (hf : f ∈ fs) (hk : (f.1 == Key.text k) = true)
    (hv : Fields.get? fs k = some v) : f = (.text k, v) := by
  have he : f.1 = .text k := h.eq_text_of_beq hf hk
  have hm : Fields.get? fs k = some f.2 := h.get?_eq_some_iff.2 (he ▸ hf)
  have hfv : f.2 = v := Option.some.inj (hm.symm.trans hv)
  exact Prod.ext he hfv

theorem any_iff (h : AreKeyed fs) : fs.any (·.1 == Key.text k) = true ↔ ∃ v, Fields.get? fs k = some v := by
  rw [List.any_eq_true]
  constructor
  · rintro ⟨f, hf, hk⟩
    exact ⟨f.2, h.get?_eq_some_iff.2 (h.eq_text_of_beq hf hk ▸ hf)⟩
  · rintro ⟨v, hv⟩
    exact ⟨_, h.get?_eq_some_iff.1 hv, by simp⟩

theorem set_eq_map (h : AreKeyed fs) (hv : Fields.get? fs k = some v) :
    Fields.set fs k w = fs.map fun f => if f.1 == Key.text k then (f.1, w) else f := by
  rw [Fields.set, if_pos (h.any_iff.2 ⟨v, hv⟩)]

theorem set_eq_append (h : AreKeyed fs) (hv : Fields.get? fs k = none) :
    Fields.set fs k w = fs ++ [(.text k, w)] := by
  rw [Fields.set, if_neg]
  intro ha
  obtain ⟨v, hv'⟩ := h.any_iff.1 ha
  exact absurd (hv.symm.trans hv') (by simp)

theorem set_eq_append_of_append (h : AreKeyed (fs ++ (.text k, w) :: gs)) :
    Fields.set fs k w = fs ++ [(.text k, w)] := by
  have hd := h.distinct
  rw [List.map_append, List.nodup_append] at hd
  have hf : AreKeyed fs := ⟨fun f hf => h.texts f (List.mem_append_left _ hf), hd.1⟩
  refine hf.set_eq_append ?_
  rw [Option.eq_none_iff_forall_not_mem]
  intro v hv
  have hm : Key.text k ∈ fs.map (·.1) := List.mem_map_of_mem (hf.get?_eq_some_iff.1 hv)
  exact hd.2.2 _ hm _ List.mem_cons_self rfl

/-- A field that is set to what it holds stays as it is. -/
theorem set_eq_self (h : AreKeyed fs) (hv : Fields.get? fs k = some v) : Fields.set fs k v = fs := by
  rw [h.set_eq_map hv]
  conv_rhs => rw [← List.map_id fs]
  refine List.map_congr_left fun f hf => ?_
  split
  · rename_i hk
    rw [h.eq_of_get? hf hk hv, id]
  · rfl

theorem map_fst_set (h : AreKeyed fs) (hv : Fields.get? fs k = some v) :
    (Fields.set fs k w).map (·.1) = fs.map (·.1) := by
  rw [h.set_eq_map hv, List.map_map]
  refine List.map_congr_left fun f _ => ?_
  simp only [Function.comp_apply]
  split <;> rfl

theorem mem_set {f : Key × Value} (h : AreKeyed fs) (hf : f ∈ Fields.set fs k w) :
    f ∈ fs ∨ f = (.text k, w) := by
  cases hv : Fields.get? fs k with
  | none =>
    rw [h.set_eq_append hv] at hf
    simpa using hf
  | some v =>
    rw [h.set_eq_map hv] at hf
    obtain ⟨g, hg, rfl⟩ := List.mem_map.1 hf
    split
    · rename_i hk
      have hk : g.1 = .text k := h.eq_text_of_beq hg hk
      exact .inr (Prod.ext hk rfl)
    · exact .inl hg

theorem set (h : AreKeyed fs) : AreKeyed (Fields.set fs k w) where
  texts f hf := by
    rcases h.mem_set hf with hf | rfl
    · exact h.texts f hf
    · rfl
  distinct := by
    cases hv : Fields.get? fs k with
    | none =>
      have hn : Key.text k ∉ fs.map (·.1) := by
        intro hm
        obtain ⟨f, hf, he⟩ := List.mem_map.1 hm
        have hs : Fields.get? fs k = some f.2 := h.get?_eq_some_iff.2 (he ▸ hf)
        exact absurd (hv.symm.trans hs) (by simp)
      rw [h.set_eq_append hv, List.map_append]
      exact List.nodup_append.2 ⟨h.distinct, by simp, fun a ha b hb => by
        obtain rfl := List.mem_singleton.1 hb
        rintro rfl
        exact hn ha⟩
    | some v =>
      rw [h.map_fst_set hv]
      exact h.distinct

theorem get?_set (h : AreKeyed fs) (j : String) :
    Fields.get? (Fields.set fs k w) j = if j = k then some w else Fields.get? fs j := by
  have hs : AreKeyed (Fields.set fs k w) := h.set
  by_cases hj : j = k
  · subst hj
    rw [if_pos rfl, hs.get?_eq_some_iff]
    cases hv : Fields.get? fs j with
    | none => simp [h.set_eq_append hv]
    | some v =>
      rw [h.set_eq_map hv]
      exact List.mem_map.2 ⟨_, h.get?_eq_some_iff.1 hv, by simp⟩
  · rw [if_neg hj]
    refine Option.ext fun v => ?_
    rw [hs.get?_eq_some_iff, h.get?_eq_some_iff]
    constructor
    · intro hm
      rcases h.mem_set hm with hm | hm
      · exact hm
      · exact absurd (Key.text.inj (Prod.mk.inj hm).1) hj
    · intro hm
      cases hv : Fields.get? fs k with
      | none =>
        rw [h.set_eq_append hv]
        exact List.mem_append_left _ hm
      | some u =>
        rw [h.set_eq_map hv]
        exact List.mem_map.2 ⟨_, hm, by simp [hj]⟩

/-- Members with texts as keys do not move when they are sorted again. -/
theorem sortBy_sortBy (h : fs.AreKeyed) :
    sortBy (fun f g => f.1.precedes g.1) (sortBy (fun f g => f.1.precedes g.1) fs) =
      sortBy (fun f g : Key × Value => f.1.precedes g.1) fs := by
  let le : String × Value → String × Value → Bool := fun p q => decide (p.1 ≤ q.1)
  let member : String × Value → Key × Value := fun p => (.text p.1, p.2)
  have hmap := @sortBy_map _ _ le (fun f g : Key × Value => f.1.precedes g.1) member
    fun p q => Key.precedes_text p.1 q.1
  have htotal (p q : String × Value) : (le p q || le q p) = true := by simp [le, le_total]
  have htrans (p q r : String × Value) (hpq : le p q = true) (hqr : le q r = true) : le p r = true :=
    decide_eq_true (le_trans (of_decide_eq_true hpq) (of_decide_eq_true hqr))
  have hfs : (fs.map fun f => (f.1.shown, f.2)).map member = fs := by
    rw [List.map_map]
    conv_rhs => rw [← List.map_id fs]
    exact List.map_congr_left fun f hf => Prod.ext (Key.text_shown (h.texts f hf)) rfl
  rw [← hfs, hmap, hmap, sortBy_eq_self (pairwise_sortBy htotal htrans _)]

end AreKeyed

/-- One object written over another. -/
def update (fs gs : Fields) : Fields := gs.foldl (fun fs g => set fs g.1 g.2) fs

@[simp] theorem update_nil (fs : Fields) : update fs [] = fs := rfl

@[simp] theorem update_cons (fs : Fields) (g : Key × Value) (gs : Fields) :
    update fs (g :: gs) = update (set fs g.1 g.2) gs := rfl

theorem AreKeyed.update {fs gs : Fields} (h : AreKeyed fs) (hg : AreKeyed gs) :
    AreKeyed (update fs gs) := by
  induction gs generalizing fs with
  | nil => exact h
  | cons g gs ih =>
    obtain ⟨s, hs⟩ := Key.exists_text (hg.texts g List.mem_cons_self)
    rw [update_cons, hs]
    exact ih h.set hg.tail

theorem AreKeyed.get?_update {fs gs : Fields} (h : AreKeyed fs) (hg : AreKeyed gs) (name : String) :
    Fields.get? (Fields.update fs gs) name = (Fields.get? gs name).or (Fields.get? fs name) := by
  induction gs generalizing fs with
  | nil => rfl
  | cons g gs ih =>
    obtain ⟨j, v⟩ := g
    obtain ⟨s, hs⟩ := Key.exists_text (hg.texts _ List.mem_cons_self)
    obtain rfl : j = .text s := hs
    rw [update_cons, ih h.set hg.tail, h.get?_set]
    by_cases hn : name = s
    · subst hn
      have hnone : Fields.get? gs name = none := by
        rw [Option.eq_none_iff_forall_not_mem]
        intro w hw
        have hm : (Key.text name, w) ∈ gs := hg.tail.get?_eq_some_iff.1 hw
        have hk : Key.text name ∈ gs.map (·.1) := List.mem_map_of_mem hm
        exact (List.nodup_cons.1 hg.distinct).1 hk
      rw [hnone, if_pos rfl, Option.none_or, Fields.get?, List.lookup_cons]
      simp
    · have hb : (name == s) = false := by simp [hn]
      simp [Fields.get?, List.lookup_cons, hb, hn]

theorem mem_update {fs gs : Fields} {f : Key × Value} (h : AreKeyed fs) (hg : AreKeyed gs)
    (hf : f ∈ update fs gs) : f ∈ fs ∨ f ∈ gs := by
  induction gs generalizing fs with
  | nil => exact .inl hf
  | cons g gs ih =>
    obtain ⟨j, v⟩ := g
    obtain ⟨s, hs⟩ := Key.exists_text (hg.texts _ List.mem_cons_self)
    obtain rfl : j = .text s := hs
    rcases ih h.set hg.tail hf with hf | hf
    · rcases h.mem_set hf with hf | rfl
      · exact .inl hf
      · exact .inr List.mem_cons_self
    · exact .inr (List.mem_cons_of_mem _ hf)

/-- Fields that are written over an object which holds them already leave it as it is. -/
theorem AreKeyed.update_eq_self {fs gs : Fields} (hg : AreKeyed gs) (hf : AreKeyed fs)
    (h : ∀ (name : String) (v : Value), (.text name, v) ∈ fs → get? gs name = some v) : gs.update fs = gs := by
  induction fs with
  | nil => rfl
  | cons f fs ih =>
    obtain ⟨j, v⟩ := f
    obtain ⟨k, hk⟩ := Key.exists_text (hf.texts _ List.mem_cons_self)
    obtain rfl : j = .text k := hk
    have hk : get? gs k = some v := h k v List.mem_cons_self
    rw [update_cons, hg.set_eq_self hk]
    exact ih hf.tail fun name w hw => h name w (List.mem_cons_of_mem _ hw)

end Fields

namespace Value

/-- Every object within the value has distinct texts as keys. -/
inductive IsKeyed : Value → Prop
  | atom {v : Value} (h : v.key?.isSome) : IsKeyed v
  | list {xs : List Value} (items : ∀ x ∈ xs, IsKeyed x) : IsKeyed (.list xs)
  | object {fs : Fields} (keys : fs.AreKeyed) (members : ∀ f ∈ fs, IsKeyed f.2) : IsKeyed (.object fs)

namespace IsKeyed

variable {fs : Fields}

theorem of_atoms (hk : fs.AreKeyed) (h : ∀ f ∈ fs, f.2.key?.isSome) : IsKeyed (.object fs) :=
  .object hk fun f hf => .atom (h f hf)

theorem areKeyed (h : IsKeyed (.object fs)) : fs.AreKeyed := by
  cases h with
  | atom h => cases h
  | object hk _ => exact hk

theorem member {f : Key × Value} (h : IsKeyed (.object fs)) (hf : f ∈ fs) : f.2.IsKeyed := by
  cases h with
  | atom h => cases h
  | object _ hm => exact hm f hf

theorem item {xs : List Value} {x : Value} (h : IsKeyed (.list xs)) (hx : x ∈ xs) : x.IsKeyed := by
  cases h with
  | atom h => cases h
  | list hm => exact hm x hx

end IsKeyed

mutual

/-- The value with the members of its objects in the order of their keys. -/
def sorted : Value → Value
  | .list xs => .list (sortedItems xs)
  | .object fs => .object (sortBy (fun f g => f.1.precedes g.1) (sortedMembers fs))
  | v => v

def sortedItems : List Value → List Value
  | [] => []
  | x :: xs => sorted x :: sortedItems xs

def sortedMembers : Fields → Fields
  | [] => []
  | (k, v) :: fs => (k, sorted v) :: sortedMembers fs

end

theorem sortedItems_eq_map (xs : List Value) : sortedItems xs = xs.map sorted := by
  induction xs with
  | nil => rfl
  | cons x xs ih => rw [sortedItems, ih, List.map_cons]

theorem sortedMembers_eq_map (fs : Fields) : sortedMembers fs = fs.map fun f => (f.1, f.2.sorted) := by
  induction fs with
  | nil => rfl
  | cons f fs ih => rw [sortedMembers, ih, List.map_cons]

@[simp] theorem sorted_list (xs : List Value) : (Value.list xs).sorted = .list (xs.map sorted) := by
  rw [sorted, sortedItems_eq_map]

theorem sorted_of_key? {v : Value} (h : v.key?.isSome) : v.sorted = v := by
  cases v with
  | list xs => cases h
  | object fs => cases h
  | _ => rfl

/-- Values that differ in nothing but the order in which their objects hold the members. -/
def Same (v w : Value) : Prop := v.sorted = w.sorted

namespace Same

variable {u v w : Value} {fs gs : Fields}

theorem refl (v : Value) : v.Same v := rfl

theorem symm (h : v.Same w) : w.Same v := Eq.symm h

theorem trans (h : u.Same v) (h' : v.Same w) : u.Same w := Eq.trans h h'

theorem eq_of_key? (h : v.Same w) (hv : v.key?.isSome) : w = v := by
  have he : v.sorted = w.sorted := h
  rw [sorted_of_key? hv] at he
  cases w with
  | list xs =>
    rw [sorted_list] at he
    rw [he] at hv
    cases hv
  | object gs =>
    rw [sorted] at he
    rw [he] at hv
    cases hv
  | _ => exact he.symm

theorem exists_list {xs : List Value} (h : (Value.list xs).Same w) :
    ∃ ys, w = .list ys ∧ List.Forall₂ Same xs ys := by
  have he : (Value.list xs).sorted = w.sorted := h
  rw [sorted_list] at he
  cases w with
  | list ys =>
    rw [sorted_list] at he
    have hm : xs.map sorted = ys.map sorted := Value.list.inj he
    refine ⟨ys, rfl, ?_⟩
    have hf : List.Forall₂ (· = ·) (xs.map sorted) (ys.map sorted) := by
      rw [hm, List.forall₂_eq_eq_eq]
    rw [List.forall₂_map_left_iff, List.forall₂_map_right_iff] at hf
    exact hf
  | object gs =>
    rw [sorted] at he
    cases he
  | _ => cases he

theorem list {xs ys : List Value} (h : List.Forall₂ Same xs ys) : (Value.list xs).Same (.list ys) := by
  have hm : xs.map sorted = ys.map sorted := by
    induction h with
    | nil => rfl
    | cons hx _ ih => rw [List.map_cons, List.map_cons, hx, ih]
  show (Value.list xs).sorted = (Value.list ys).sorted
  rw [sorted_list, sorted_list, hm]

theorem object (h : sortedMembers fs = sortedMembers gs) : (Value.object fs).Same (.object gs) := by
  show (Value.object fs).sorted = (Value.object gs).sorted
  rw [sorted, sorted, h]

theorem exists_object (h : (Value.object fs).Same w) :
    ∃ gs, w = .object gs ∧ (sortedMembers fs).Perm (sortedMembers gs) := by
  have he : (Value.object fs).sorted = w.sorted := h
  rw [sorted] at he
  cases w with
  | list ys =>
    rw [sorted_list] at he
    cases he
  | object gs =>
    rw [sorted] at he
    have hs := Value.object.inj he
    refine ⟨gs, rfl, ?_⟩
    have hp := sortBy_perm (fun f g : Key × Value => f.1.precedes g.1) (sortedMembers fs)
    rw [hs] at hp
    exact hp.symm.trans (sortBy_perm _ _)
  | _ => cases he

theorem perm_members (h : (Value.object fs).Same (.object gs)) : (sortedMembers fs).Perm (sortedMembers gs) := by
  obtain ⟨_, he, hp⟩ := h.exists_object
  cases he
  exact hp

theorem perm_keys (h : (Value.object fs).Same (.object gs)) : (fs.map (·.1)).Perm (gs.map (·.1)) := by
  have hp := h.perm_members.map (·.1)
  simpa [sortedMembers_eq_map, Function.comp_def] using hp

theorem exists_mem {g : Key × Value} (h : (Value.object fs).Same (.object gs)) (hg : g ∈ gs) :
    ∃ v, (g.1, v) ∈ fs ∧ v.Same g.2 := by
  have hp : (sortedMembers fs).Perm (sortedMembers gs) := h.perm_members
  rw [sortedMembers_eq_map, sortedMembers_eq_map] at hp
  have hm := hp.mem_iff.2 (List.mem_map_of_mem hg)
  obtain ⟨f, hf, he⟩ := List.mem_map.1 hm
  obtain ⟨hk, hv⟩ := Prod.mk.inj he
  exact ⟨f.2, hk ▸ hf, hv⟩

theorem areKeyed (h : (Value.object fs).Same (.object gs)) (hf : fs.AreKeyed) : gs.AreKeyed :=
  hf.of_perm h.perm_keys

theorem get? {name : String} (h : (Value.object fs).Same (.object gs)) (hf : fs.AreKeyed)
    (hv : Fields.get? fs name = some v) : ∃ w, Fields.get? gs name = some w ∧ v.Same w := by
  have hm : (Key.text name, v) ∈ fs := hf.get?_eq_some_iff.1 hv
  obtain ⟨w, hw, hs⟩ := h.symm.exists_mem hm
  exact ⟨w, (h.areKeyed hf).get?_eq_some_iff.2 hw, hs.symm⟩

theorem isKeyed (hv : v.IsKeyed) (h : v.Same w) : w.IsKeyed := by
  induction hv generalizing w with
  | atom hv => exact .atom (by rw [h.eq_of_key? hv]; exact hv)
  | list _ ih =>
    obtain ⟨ys, rfl, hf⟩ := h.exists_list
    refine .list fun y hy => ?_
    obtain ⟨x, hx, hs⟩ := exists_of_mem_forall₂ hf hy
    exact ih x hx hs
  | object hk _ ih =>
    obtain ⟨gs, rfl, -⟩ := h.exists_object
    refine .object (h.areKeyed hk) fun g hg => ?_
    obtain ⟨v, hf, hs⟩ := h.exists_mem hg
    exact ih _ hf hs

/-- A field may be set anew to what it holds. -/
theorem set {k : String} (hg : gs.AreKeyed) (hw : Fields.get? gs k = some w) (h : w.Same v) :
    (Value.object gs).Same (.object (Fields.set gs k v)) := by
  refine object ?_
  rw [hg.set_eq_map hw, sortedMembers_eq_map, sortedMembers_eq_map, List.map_map]
  refine List.map_congr_left fun f hf => ?_
  simp only [Function.comp_apply]
  split
  · rename_i hk
    rw [hg.eq_of_get? hf hk hw]
    exact Prod.ext rfl h
  · rfl

/-- So may several fields. -/
theorem update (hg : gs.AreKeyed) (hf : fs.AreKeyed)
    (h : ∀ (name : String) (v : Value), (.text name, v) ∈ fs → ∃ w, Fields.get? gs name = some w ∧ w.Same v) :
    (Value.object gs).Same (.object (gs.update fs)) := by
  induction fs generalizing gs with
  | nil => exact refl _
  | cons f fs ih =>
    obtain ⟨j, v⟩ := f
    obtain ⟨k, hk⟩ := Key.exists_text (hf.texts _ List.mem_cons_self)
    obtain rfl : j = .text k := hk
    obtain ⟨w, hw, hs⟩ := h k v List.mem_cons_self
    have hset : (Value.object gs).Same (.object (Fields.set gs k v)) := set hg hw hs
    refine hset.trans (ih hg.set hf.tail fun name u hu => ?_)
    have hne : name ≠ k := by
      rintro rfl
      have hm : Key.text name ∈ fs.map (·.1) := List.mem_map_of_mem hu
      exact (List.nodup_cons.1 hf.distinct).1 hm
    rw [hg.get?_set, if_neg hne]
    exact h name u (List.mem_cons_of_mem _ hu)

end Same

/-- Sorting the members gives the same value. -/
theorem IsKeyed.same_sorted {v : Value} (hv : v.IsKeyed) : v.Same v.sorted := by
  induction hv with
  | atom hv =>
    rw [sorted_of_key? hv]
    exact .refl _
  | @list xs _ ih =>
    rw [sorted_list]
    refine .list ?_
    rw [List.forall₂_map_right_iff]
    exact List.forall₂_same.2 ih
  | @object fs hk _ ih =>
    have hg : sortedMembers (sortedMembers fs) = sortedMembers fs := by
      rw [sortedMembers_eq_map, sortedMembers_eq_map, List.map_map]
      exact List.map_congr_left fun f hf => Prod.ext rfl (ih f hf).symm
    have hkeys : (sortedMembers fs).AreKeyed := by
      refine hk.of_perm ?_
      rw [sortedMembers_eq_map, List.map_map]
      rfl
    have hm (ms : Fields) : sortedMembers (sortBy (fun f g => f.1.precedes g.1) ms) =
        sortBy (fun f g => f.1.precedes g.1) (sortedMembers ms) := by
      rw [sortedMembers_eq_map, sortedMembers_eq_map, sortBy_map fun _ _ => rfl]
    show (Value.object fs).sorted = (Value.object fs).sorted.sorted
    rw [sorted, sorted, hm, hg, hkeys.sortBy_sortBy]

end Value

end CellFlow
