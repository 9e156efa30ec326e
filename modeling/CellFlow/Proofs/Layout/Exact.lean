import CellFlow.Layout.Stack
import CellFlow.Figure.Shape
import Mathlib

/-!
Layouts in exact arithmetic: coordinates are rational numbers, and nodes take up rectangles.
-/

set_option autoImplicit false

namespace CellFlow

def Number.exact? (x : Float) : Option ℚ :=
  if x.isFinite then
    let size : ℚ := (magnitude x).m * 2 ^ (magnitude x).q
    some (if isNegative x then -size else size)
  else none

instance : Coordinate ℚ where
  ofInt? n := some n
  ofFloat? := Number.exact?
  half x := x / 2
  less x y := decide (x < y)

namespace Coordinate

theorem less_eq_true (x y : ℚ) : less x y = true ↔ x < y := decide_eq_true_iff

/-- A walk that goes over to whatever is better ends at the best of all. -/
theorem foldl_best {β : Type} {r : β → β → Prop} {p : β → β → Bool} (hrefl : ∀ a, r a a)
    (htrans : ∀ a b c, r a b → r b c → r a c) (hp : ∀ a b, if p a b = true then r b a else r a b) (a : β)
    (l : List β) : let best := l.foldl (fun m b => if p m b then b else m) a
      best ∈ a :: l ∧ ∀ b ∈ a :: l, r best b := by
  induction l generalizing a with
  | nil => exact ⟨List.mem_singleton_self a, fun b hb => List.mem_singleton.1 hb ▸ hrefl a⟩
  | cons c l ih =>
    have hstep := hp a c
    rw [List.foldl_cons]
    split at hstep
    · rename_i hc
      rw [if_pos hc]
      obtain ⟨hm, hl⟩ := ih c
      refine ⟨List.mem_cons_of_mem a hm, List.forall_mem_cons.2 ⟨?_, hl⟩⟩
      exact htrans _ _ _ (hl c List.mem_cons_self) hstep
    · rename_i hc
      rw [if_neg hc]
      obtain ⟨hm, hl⟩ := ih a
      rw [List.forall_mem_cons] at hl
      refine ⟨?_, List.forall_mem_cons.2 ⟨hl.1, List.forall_mem_cons.2 ⟨htrans _ _ _ hl.1 hstep, hl.2⟩⟩⟩
      rcases List.mem_cons.1 hm with hm | hm
      · rw [hm]
        exact List.mem_cons_self
      · exact List.mem_cons_of_mem a (List.mem_cons_of_mem c hm)

section Ordered

variable {α : Type} [LinearOrder α] [Coordinate α]

/-- Coordinates are compared as the order says. -/
def ComparesByOrder (α : Type) [LinearOrder α] [Coordinate α] : Prop := ∀ x y : α, less x y = true ↔ x < y

theorem largest_spec (h : ComparesByOrder α) (a : α) (l : List α) :
    largest a l ∈ a :: l ∧ ∀ b ∈ a :: l, b ≤ largest a l := by
  refine foldl_best (r := fun x y => y ≤ x) le_refl (fun a b c hab hbc => hbc.trans hab) (fun a b => ?_) a l
  split
  · exact ((h a b).1 ‹_›).le
  · exact not_lt.1 ((h a b).not.1 ‹_›)

theorem smallest_spec (h : ComparesByOrder α) (a : α) (l : List α) :
    smallest a l ∈ a :: l ∧ ∀ b ∈ a :: l, smallest a l ≤ b := by
  refine foldl_best (r := fun x y => x ≤ y) (p := fun m b => less b m) le_refl (fun a b c => le_trans)
    (fun a b => ?_) a l
  split
  · exact ((h b a).1 ‹_›).le
  · exact not_lt.1 ((h b a).not.1 ‹_›)

end Ordered

theorem le_largest (a : ℚ) (l : List ℚ) : a ≤ largest a l ∧ ∀ b ∈ l, b ≤ largest a l :=
  List.forall_mem_cons.1 (largest_spec less_eq_true a l).2

end Coordinate

structure Span where
  low : ℚ
  high : ℚ
  deriving DecidableEq

namespace Span

def around (centre extent : ℚ) : Span := ⟨centre - extent / 2, centre + extent / 2⟩

/-- One of two spans ends so much before the other starts. -/
def Apart (gap : ℚ) (s t : Span) : Prop := s.high + gap ≤ t.low ∨ t.high + gap ≤ s.low

theorem Apart.symm {gap : ℚ} {s t : Span} (h : Apart gap s t) : Apart gap t s := Or.symm h

end Span

structure Rect where
  horizontal : Span
  vertical : Span
  deriving DecidableEq

namespace Rect

def around (p : Point ℚ) (z : Size ℚ) : Rect := ⟨Span.around p.x z.width, Span.around p.y z.height⟩

def along (d : Direction) (r : Rect) : Span := if d.isHorizontal then r.horizontal else r.vertical

def across (d : Direction) (r : Rect) : Span := if d.isHorizontal then r.vertical else r.horizontal

theorem along_around (d : Direction) (c : Centre ℚ) (z : Size ℚ) :
    (around (Stack.toPoint d c) z).along d = Span.around c.main (Stack.mainExtent d z) := by
  cases d <;> rfl

theorem across_around (d : Direction) (c : Centre ℚ) (z : Size ℚ) :
    (around (Stack.toPoint d c) z).across d = Span.around c.cross (Stack.crossExtent d z) := by
  cases d <;> rfl

end Rect

end CellFlow
