import CellFlow.Failure
import Mathlib.Data.List.Forall2

/-!
Steps that may fail, taken one after the other.
-/

set_option autoImplicit false

namespace CellFlow

variable {ε α β : Type}

theorem bind_eq_ok {x : Except ε α} {f : α → Except ε β} {b : β} :
    (x >>= f) = .ok b ↔ ∃ a, x = .ok a ∧ f a = .ok b := by
  cases x with
  | error e => simp [bind, Except.bind]
  | ok a => simp [bind, Except.bind]

theorem exists_bind_eq_ok {x : Except ε α} {f : α → Except ε β} :
    (∃ b, (x >>= f) = .ok b) ↔ ∃ a, x = .ok a ∧ ∃ b, f a = .ok b := by
  cases x with
  | error e => simp [bind, Except.bind]
  | ok a => simp [bind, Except.bind]

theorem exists_eq_ok_of_isOk {x : Except ε α} (h : x.isOk = true) : ∃ a, x = .ok a := by
  cases x with
  | error e => cases h
  | ok a => exact ⟨a, rfl⟩

@[simp] theorem ok_bind (a : α) (f : α → Except ε β) : ((.ok a : Except ε α) >>= f) = f a := rfl

@[simp] theorem pure_eq_ok (a : α) : (pure a : Except ε α) = .ok a := rfl

@[simp] theorem liftM_ok (a : α) : (liftM (.ok a : Except Fault α) : Outcome α) = .ok a := rfl

theorem liftM_eq_ok {x : Except Fault α} {a : α} : (liftM x : Outcome α) = .ok a ↔ x = .ok a := by
  cases x with
  | error e =>
    constructor
    · intro h
      cases h
    · intro h
      cases h
  | ok b => exact ⟨fun h => congrArg _ (Except.ok.inj h), fun h => congrArg _ (Except.ok.inj h)⟩

theorem mapM_eq_ok_map {f : α → Except ε β} {g : α → β} {l : List α}
    (h : ∀ a ∈ l, f a = .ok (g a)) : l.mapM f = .ok (l.map g) := by
  induction l with
  | nil => rfl
  | cons a l ih =>
    rw [List.mapM_cons, h a List.mem_cons_self, ok_bind, ih fun b hb => h b (List.mem_cons_of_mem a hb)]
    rfl

theorem exists_mapM_eq_ok {f : α → Except ε β} {l : List α} (h : ∀ a ∈ l, ∃ b, f a = .ok b) :
    ∃ m, l.mapM f = .ok m := by
  induction l with
  | nil => exact ⟨[], rfl⟩
  | cons a l ih =>
    obtain ⟨b, hb⟩ := h a List.mem_cons_self
    obtain ⟨m, hm⟩ := ih fun c hc => h c (List.mem_cons_of_mem a hc)
    exact ⟨b :: m, by rw [List.mapM_cons, hb, ok_bind, hm]; rfl⟩

/-- In a walk that does not fail, no step does. -/
theorem forall₂_of_mapM_eq_ok {f : α → Except ε β} {l : List α} {m : List β} (h : l.mapM f = .ok m) :
    List.Forall₂ (fun a b => f a = .ok b) l m := by
  induction l generalizing m with
  | nil =>
    obtain rfl : [] = m := Except.ok.inj h
    exact .nil
  | cons a l ih =>
    rw [List.mapM_cons] at h
    obtain ⟨b, hb, h⟩ := bind_eq_ok.1 h
    obtain ⟨m', hm, h⟩ := bind_eq_ok.1 h
    obtain rfl : b :: m' = m := Except.ok.inj h
    exact .cons hb (ih hm)

/-- A walk ends with what its steps give, or where the first one fails. -/
theorem mapM_cases (f : α → Except ε β) (l : List α) :
    (∃ m, l.mapM f = .ok m ∧ List.Forall₂ (fun a b => f a = .ok b) l m) ∨
    ∃ before a after e, l = before ++ a :: after ∧ (∀ b ∈ before, ∃ c, f b = .ok c) ∧ f a = .error e ∧
      l.mapM f = .error e := by
  induction l with
  | nil => exact .inl ⟨[], rfl, .nil⟩
  | cons a l ih =>
    rw [List.mapM_cons]
    cases ha : f a with
    | error e => exact .inr ⟨[], a, l, e, rfl, fun b hb => absurd hb List.not_mem_nil, ha, rfl⟩
    | ok b =>
      rcases ih with ⟨m, hm, h⟩ | ⟨before, c, after, e, rfl, hb, hc, hm⟩
      · exact .inl ⟨b :: m, by rw [ok_bind, hm]; rfl, .cons ha h⟩
      · refine .inr ⟨a :: before, c, after, e, rfl, fun d hd => ?_, hc, by rw [ok_bind, hm]; rfl⟩
        rcases List.mem_cons.1 hd with rfl | hd
        · exact ⟨b, ha⟩
        · exact hb d hd

theorem forM_eq_ok_iff {f : α → Except ε Unit} {l : List α} :
    l.forM f = .ok () ↔ ∀ a ∈ l, f a = .ok () := by
  induction l with
  | nil => exact ⟨fun _ a ha => absurd ha List.not_mem_nil, fun _ => rfl⟩
  | cons a l ih =>
    rw [List.forM, bind_eq_ok, List.forall_mem_cons, ← ih]
    exact ⟨fun ⟨_, ha, hl⟩ => ⟨ha, hl⟩, fun ⟨ha, hl⟩ => ⟨(), ha, hl⟩⟩

theorem exists_of_mem_forall₂ {r : α → β → Prop} {l : List α} {m : List β} {b : β}
    (h : List.Forall₂ r l m) (hb : b ∈ m) : ∃ a ∈ l, r a b := by
  induction h with
  | nil => cases hb
  | cons ha _ ih =>
    rcases List.mem_cons.1 hb with rfl | hb
    · exact ⟨_, List.mem_cons_self, ha⟩
    · obtain ⟨a, hm, ha⟩ := ih hb
      exact ⟨a, List.mem_cons_of_mem _ hm, ha⟩

theorem exists_mapM_eq_ok_iff {f : α → Except ε β} {l : List α} :
    (∃ m, l.mapM f = .ok m) ↔ ∀ a ∈ l, ∃ b, f a = .ok b := by
  refine ⟨fun ⟨m, hm⟩ a ha => ?_, exists_mapM_eq_ok⟩
  obtain ⟨b, -, hb⟩ := exists_of_mem_forall₂ (List.Forall₂.flip (forall₂_of_mapM_eq_ok hm)) ha
  exact ⟨b, hb⟩

theorem foldlM_eq_ok_foldl {f : β → α → Except ε β} {g : β → α → β} {l : List α} (b : β)
    (h : ∀ b, ∀ a ∈ l, f b a = .ok (g b a)) : l.foldlM f b = .ok (l.foldl g b) := by
  induction l generalizing b with
  | nil => rfl
  | cons a l ih =>
    rw [List.foldlM_cons, h b a List.mem_cons_self, ok_bind, List.foldl_cons]
    exact ih _ fun c x hx => h c x (List.mem_cons_of_mem a hx)

theorem exists_foldlM_eq_ok {f : β → α → Except ε β} {l : List α} (b : β)
    (h : ∀ b, ∀ a ∈ l, ∃ c, f b a = .ok c) : ∃ c, l.foldlM f b = .ok c := by
  induction l generalizing b with
  | nil => exact ⟨b, rfl⟩
  | cons a l ih =>
    obtain ⟨c, hc⟩ := h b a List.mem_cons_self
    obtain ⟨d, hd⟩ := ih c fun b x hx => h b x (List.mem_cons_of_mem a hx)
    exact ⟨d, by rw [List.foldlM_cons, hc, ok_bind, hd]⟩

theorem exists_of_foldlM_eq_ok {f : β → α → Except ε β} {l : List α} {b c : β}
    (h : l.foldlM f b = .ok c) : ∀ a ∈ l, ∃ before after, f before a = .ok after := by
  induction l generalizing b with
  | nil =>
    intro a ha
    cases ha
  | cons x l ih =>
    rw [List.foldlM_cons] at h
    obtain ⟨d, hd, h⟩ := bind_eq_ok.1 h
    intro a ha
    rcases List.mem_cons.1 ha with rfl | ha
    · exact ⟨b, d, hd⟩
    · exact ih h a ha

/-- What every step of a walk keeps holds at its end. -/
theorem of_foldlM_eq_ok {P : β → Prop} {f : β → α → Except ε β} {l : List α} {b c : β} (hb : P b)
    (hf : ∀ b, P b → ∀ a ∈ l, ∀ c, f b a = .ok c → P c) (h : l.foldlM f b = .ok c) : P c := by
  induction l generalizing b with
  | nil => exact Except.ok.inj h ▸ hb
  | cons a l ih =>
    rw [List.foldlM_cons] at h
    obtain ⟨d, hd, h⟩ := bind_eq_ok.1 h
    exact ih (hf b hb a List.mem_cons_self d hd) (fun b hb x hx => hf b hb x (List.mem_cons_of_mem a hx)) h

end CellFlow
