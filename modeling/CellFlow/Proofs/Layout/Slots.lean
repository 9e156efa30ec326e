import CellFlow.Layout.Ring
import CellFlow.Proofs.Data.Outcome
import Mathlib.Data.List.Nodup
import Mathlib.Data.List.Perm.Subperm

/-!
The slots that artifacts take on the rings of their owners. An artifact stands behind those of
the same owner that come before it; the artifacts of other owners do not count.
-/

set_option autoImplicit false

namespace CellFlow

/-- What a selection makes of an element stands behind what it makes of the elements before. -/
theorem getElem?_filterMap_of_getElem? {α β : Type} {f : α → Option β} {l : List α} {i : ℕ} {a : α} {b : β}
    (hi : l[i]? = some a) (hb : f a = some b) :
    (l.filterMap f)[(l.take i).countP fun a => (f a).isSome]? = some b := by
  induction l generalizing i with
  | nil => cases hi
  | cons c l ih =>
    cases i with
    | zero =>
      obtain rfl := Option.some.inj hi
      simp [hb]
    | succ i =>
      rw [List.getElem?_cons_succ] at hi
      rw [List.take_succ_cons, List.countP_cons, List.filterMap_cons]
      cases hc : f c with
      | none => simpa using ih hi
      | some d => simpa using ih hi

theorem exists_of_getElem?_filterMap {α β : Type} {f : α → Option β} {l : List α} {k : ℕ} {b : β}
    (hk : (l.filterMap f)[k]? = some b) :
    ∃ i a, l[i]? = some a ∧ f a = some b ∧ (l.take i).countP (fun a => (f a).isSome) = k := by
  induction l generalizing k with
  | nil => cases hk
  | cons c l ih =>
    rw [List.filterMap_cons] at hk
    cases hc : f c with
    | none =>
      rw [hc] at hk
      obtain ⟨i, a, hi, hb, hn⟩ := ih hk
      exact ⟨i + 1, a, hi, hb, by simpa [hc] using hn⟩
    | some d =>
      rw [hc] at hk
      cases k with
      | zero => exact ⟨0, c, rfl, hc.trans hk, rfl⟩
      | succ k =>
        obtain ⟨i, a, hi, hb, hn⟩ := ih (List.getElem?_cons_succ ▸ hk)
        exact ⟨i + 1, a, hi, hb, by simpa [hc] using hn⟩

theorem getElem?_filter_of_getElem? {α : Type} {p : α → Bool} {l : List α} {i : ℕ} {a : α}
    (hi : l[i]? = some a) (ha : p a = true) : (l.filter p)[(l.take i).countP p]? = some a := by
  have hg : Option.guard p a = some a := by simp [Option.guard, ha]
  have h := getElem?_filterMap_of_getElem? hi hg
  have hp : (fun a => (Option.guard p a).isSome) = p := by
    funext b
    cases hb : p b <;> simp [Option.guard, hb]
  rwa [hp, List.filterMap_eq_filter] at h

namespace Node

/-- The name of an artifact's owner: the one in its data, unless that is empty, or else the one
in its id. -/
def ownerName? (n : CellNode) : Option String :=
  match Fields.getD n.data "owner" .null with
  | .text o => if o.isEmpty then n.ownerId? else some o
  | v => if v.truthy then none else n.ownerId?

def isOf (o : String) (n : CellNode) : Bool := n.ownerName? = some o

theorem owner_eq (n : CellNode) : n.owner = .ok (if (Fields.getD n.data "owner" .null).truthy then
    Fields.getD n.data "owner" .null else (n.ownerId?.map Value.text).getD .null) := by
  rw [owner]
  split
  · rfl
  · have hk : (NodeId.toKey n.id).namedOwner? = .ok n.ownerId? := rfl
    simp only [pure_eq_ok, ok_bind, hk]
    cases n.ownerId? <;> rfl

theorem owner_of_ownerName? {n : CellNode} {o : String} (h : n.ownerName? = some o) :
    n.owner = .ok (.text o) := by
  rw [owner_eq]
  rw [ownerName?] at h
  congr 1
  split at h
  · rename_i s hs
    rw [hs]
    split at h
    · rename_i he
      simp [Value.truthy, he, h]
    · rename_i he
      simpa [Value.truthy, he] using h
  · split at h
    · cases h
    · rename_i ht
      rw [if_neg ht, h]
      rfl

theorem ownerName?_of_text {n : CellNode} {o : String} (h : Fields.getD n.data "owner" .null = .text o)
    (hne : o ≠ "") : n.ownerName? = some o := by
  have he : o.isEmpty = false := by simpa using hne
  rw [ownerName?, h]
  simp [he]

end Node

namespace Ring

variable {α : Type} [Coordinate α]

/-- The slot of an owner's ring that is free behind some artifacts. -/
def slot (before : List CellNode) (o : String) : ℕ := before.countP (Node.isOf o)

theorem slot_append_singleton (before : List CellNode) (n : CellNode) (o : String) :
    slot (before ++ [n]) o = slot before o + if n.ownerName? = some o then 1 else 0 := by
  simp [slot, List.countP_append, List.countP_singleton, Node.isOf]

variable {r : Ring α} {centres : Table String (Point α)} {counts : Table String ℕ}
  {seen before nodes : List CellNode} {n : CellNode} {o : String} {c : Point α}

def HasCentre (centres : Table String (Point α)) (n : CellNode) : Prop :=
  ∃ o, n.ownerName? = some o ∧ (centres.get? o).isSome

/-- An artifact stands at the slot of its owner's ring that is free behind the artifacts before. -/
def IsSeated (r : Ring α) (centres : Table String (Point α)) (before : List CellNode) (n : CellNode)
    (p : String × Point α) : Prop :=
  ∃ o c, n.ownerName? = some o ∧ centres.get? o = some c ∧ p = (n.id, r.pointAt c (slot before o))

/-- Artifacts are placed in their order, each of them behind those before it. -/
structure IsSeating (r : Ring α) (centres : Table String (Point α)) (seen nodes : List CellNode)
    (placed : List (String × Point α)) : Prop where
  length : placed.length = nodes.length
  seated : ∀ i n, nodes[i]? = some n →
    ∃ p, placed[i]? = some p ∧ IsSeated r centres (seen ++ nodes.take i) n p

/-- How many artifacts each owner has already. -/
def Counts (counts : Table String ℕ) (seen : List CellNode) : Prop :=
  ∀ o, (counts.get? o).getD 0 = slot seen o

theorem counts_empty : Counts .empty [] := fun _ => rfl

theorem Counts.put (h : Counts counts seen) (ho : n.ownerName? = some o) :
    Counts (counts.put o ((counts.get? o).getD 0 + 1)) (seen ++ [n]) := by
  intro q
  rw [Table.get?_put, slot_append_singleton, ho]
  by_cases hq : q = o
  · subst hq
    simp [h q]
  · have hqo : ¬ some o = some q := fun he => hq (Option.some.inj he).symm
    have hb : (q == o) = false := by simp [hq]
    rw [hb, if_neg Bool.false_ne_true, if_neg hqo, h q, Nat.add_zero]

/-- One step: the artifact gets the next slot of its owner's ring. -/
theorem placeFrom_cons (r : Ring α) (ho : n.ownerName? = some o) (hc : centres.get? o = some c)
    (counts : Table String ℕ) (nodes : List CellNode) :
    placeFrom (.ok r) centres counts (n :: nodes) =
      (placeFrom (.ok r) centres (counts.put o ((counts.get? o).getD 0 + 1)) nodes).map fun others =>
        (n.id, r.pointAt c ((counts.get? o).getD 0)) :: others := by
  have hf : ((NodeId.ofKey? (Key.text o)).bind fun id : String =>
      (centres.get? id).map fun c => (id, c)) = some (o, c) := by
    simp [NodeId.ofKey?, hc]
  rw [placeFrom, Node.owner_of_ownerName? ho]
  simp only [liftM_ok, ok_bind, Value.toKey, Value.key?, hf]
  cases placeFrom (.ok r) centres (counts.put o ((counts.get? o).getD 0 + 1)) nodes <;> rfl

/-- A run: every artifact is seated behind those before it. -/
theorem exists_placeFrom_eq_ok (hs : Counts counts seen) (h : ∀ n ∈ nodes, HasCentre centres n) :
    ∃ placed, placeFrom (.ok r) centres counts nodes = .ok placed ∧
      IsSeating r centres seen nodes placed := by
  induction nodes generalizing counts seen with
  | nil => exact ⟨[], rfl, rfl, fun i n hi => by simp at hi⟩
  | cons n nodes ih =>
    obtain ⟨o, ho, hc⟩ := h n List.mem_cons_self
    obtain ⟨c, hc⟩ := Option.isSome_iff_exists.1 hc
    obtain ⟨others, hp, hl, hi⟩ := ih (hs.put ho) fun m hm => h m (List.mem_cons_of_mem n hm)
    refine ⟨_, by rw [placeFrom_cons r ho hc, hp]; rfl, by rw [List.length_cons, hl, List.length_cons], ?_⟩
    intro i m him
    cases i with
    | zero =>
      obtain rfl := Option.some.inj him
      exact ⟨_, rfl, o, c, ho, hc, by rw [hs o, List.take_zero, List.append_nil]⟩
    | succ i =>
      obtain ⟨p, hip, hseat⟩ := hi i m him
      refine ⟨p, hip, ?_⟩
      rwa [List.append_assoc] at hseat

theorem exists_place_eq_ok (r : Ring α) (h : ∀ n ∈ nodes, HasCentre centres n) :
    ∃ placed, place (.ok r) centres nodes = .ok placed ∧ IsSeating r centres [] nodes placed :=
  exists_placeFrom_eq_ok counts_empty h

/-- Where the artifacts of an owner keep their order, each of them keeps its slot. -/
theorem slot_eq_of_filter_eq {others : List CellNode} {i j : ℕ} (hd : (nodes.map (·.id)).Nodup)
    (hf : others.filter (Node.isOf o) = nodes.filter (Node.isOf o)) (hi : others[i]? = some n)
    (hj : nodes[j]? = some n) (ho : n.ownerName? = some o) :
    slot (others.take i) o = slot (nodes.take j) o := by
  have hn : Node.isOf o n = true := decide_eq_true ho
  have hi := getElem?_filter_of_getElem? hi hn
  have hj := getElem?_filter_of_getElem? hj hn
  rw [hf] at hi
  have hlt := (List.getElem?_eq_some_iff.1 hi).1
  exact (List.getElem?_inj hlt ((List.Nodup.of_map _ hd).filter _)).1 (hi.trans hj.symm)

namespace IsSeating

variable {others : List CellNode} {placed placed' : List (String × Point α)}

theorem exists_of_mem (h : IsSeating r centres seen nodes placed) {p : String × Point α} (hp : p ∈ placed) :
    ∃ i n, nodes[i]? = some n ∧ IsSeated r centres (seen ++ nodes.take i) n p := by
  obtain ⟨i, hi⟩ := List.getElem?_of_mem hp
  have hlt : i < nodes.length := h.length ▸ (List.getElem?_eq_some_iff.1 hi).1
  obtain ⟨q, hq, hseat⟩ := h.seated i _ (List.getElem?_eq_getElem hlt)
  obtain rfl := Option.some.inj (hq.symm.trans hi)
  exact ⟨i, _, List.getElem?_eq_getElem hlt, hseat⟩

theorem map_fst (h : IsSeating r centres seen nodes placed) : placed.map (·.1) = nodes.map (·.id) := by
  refine List.ext_getElem? fun i => ?_
  rw [List.getElem?_map, List.getElem?_map]
  cases hi : nodes[i]? with
  | none =>
    rw [List.getElem?_eq_none_iff, ← h.length] at hi
    rw [List.getElem?_eq_none_iff.2 hi]
    rfl
  | some n =>
    obtain ⟨p, hp, o, c, -, -, rfl⟩ := h.seated i n hi
    rw [hp]
    rfl

/-- In another order that keeps each owner's artifacts in theirs, all artifacts stand where they stood. -/
theorem perm (h : IsSeating r centres [] nodes placed) (h' : IsSeating r centres [] others placed')
    (hd : (nodes.map (·.id)).Nodup) (hp : others.Perm nodes)
    (hf : ∀ o, others.filter (Node.isOf o) = nodes.filter (Node.isOf o)) : placed'.Perm placed := by
  have hnodup : placed'.Nodup := by
    refine List.Nodup.of_map (·.1) ?_
    rw [h'.map_fst]
    exact (hp.map _).nodup_iff.2 hd
  -- distinct ids: it is enough that every point of the one list is in the other
  have hsub : placed' ⊆ placed := by
    intro p hm
    obtain ⟨i, n, hi, o, c, ho, hc, rfl⟩ := h'.exists_of_mem hm
    obtain ⟨j, hj⟩ := List.getElem?_of_mem (hp.subset (List.mem_of_getElem? hi))
    obtain ⟨q, hq, o', c', ho', hc', rfl⟩ := h.seated j n hj
    obtain rfl := Option.some.inj (ho.symm.trans ho')
    obtain rfl := Option.some.inj (hc.symm.trans hc')
    rw [List.nil_append, slot_eq_of_filter_eq hd (hf o) hi hj ho]
    exact List.mem_of_getElem? hq
  refine (List.subperm_of_subset hnodup hsub).perm_of_length_le ?_
  exact Nat.le_of_eq (h.length.trans (hp.length_eq.symm.trans h'.length.symm))

end IsSeating

end Ring

end CellFlow
