import CellFlow.Proofs.Graph.ArtifactIds
import CellFlow.Proofs.Graph.Labels
import CellFlow.Proofs.Graph.Soundness
import CellFlow.Proofs.Layout.Exact
import CellFlow.Proofs.Layout.Slots

/-!
The numbers of artifacts: the one in the id of an artifact is the slot that the artifact takes
on the ring of its cell, and both count the outputs of the cell before its own that are artifacts.
-/

set_option autoImplicit false

namespace CellFlow

namespace Artifact

def tag? (s : ArtifactSettings) (output : Value) : Option Tag := (tagOf s output).toOption.join

theorem tag?_eq_some {s : ArtifactSettings} {output : Value} {tag : Tag} :
    tag? s output = some tag ↔ tagOf s output = .ok (some tag) := by
  rw [tag?]
  cases tagOf s output with
  | error e => simp [Except.toOption]
  | ok t => simp [Except.toOption]

/-- How many of the outputs before a position are artifacts. -/
def rank (s : ArtifactSettings) (outputs : List Value) (j : ℕ) : ℕ :=
  (outputs.take j).countP fun output => (tag? s output).isSome

theorem rank_le (s : ArtifactSettings) (outputs : List Value) (j : ℕ) : rank s outputs j ≤ j :=
  List.countP_le_length.trans (List.length_take_le j outputs)

theorem tagsOf_eq_ok {s : ArtifactSettings} {outputs : List Value} {tags : List Tag}
    (h : tagsOf s outputs = .ok tags) : tags = outputs.filterMap (tag? s) := by
  obtain ⟨found, hf, he⟩ := bind_eq_ok.1 h
  obtain rfl := Except.ok.inj he
  have hm := forall₂_of_mapM_eq_ok hf
  clear h hf he
  induction hm with
  | nil => rfl
  | @cons output t outputs found ht _ ih =>
    have htag : tag? s output = t := by rw [tag?, ht]; rfl
    rw [List.filterMap_cons, List.filterMap_cons, htag, ih]
    rfl

end Artifact

/-- The record of a node as it stands in a graph. -/
def Node.toRecord (n : CellNode) : NodeRecord := ⟨.text n.id, n.label, n.kind, .object n.data⟩

/-- What a layout of a graph places on rings. -/
theorem CellGraph.filter_not_isRanked (g : CellGraph) :
    (g.nodes.filter fun n => !n.kind.isRanked) = g.secondary := by
  refine List.filter_congr fun n _ => ?_
  cases n.kind <;> rfl

namespace BuildRules

variable {r : BuildRules} {cells : List Cell} {g : CellGraph} {c : Cell}

theorem ownerName?_artifactNode (c : Cell) (tag : Tag) (i : ℕ) :
    (artifactNode c tag i).ownerName? = some c.id := by
  have ho : Fields.getD (artifactNode c tag i).data "owner" .null = .text c.id := rfl
  exact Node.ownerName?_of_text ho (toString_int_ne_empty c.position)

theorem getElem?_artifactNodes (c : Cell) {tags : List Tag} {k : ℕ} {tag : Tag} (hk : tags[k]? = some tag) :
    (artifactNodes c tags)[k]? = some (artifactNode c tag k) := by
  simp [artifactNodes, hk]

theorem isOf_artifactNode (c : Cell) (tag : Tag) (i : ℕ) : Node.isOf c.id (artifactNode c tag i) = true :=
  decide_eq_true (ownerName?_artifactNode c tag i)

theorem tagList_eq (ht : ∃ tags, r.tags c = .ok tags) :
    r.tagList c =
      if r.artifacts.enabled.truthy then c.outputs.filterMap (Artifact.tag? r.artifacts) else [] := by
  obtain ⟨tags, ht⟩ := ht
  rw [tagList, ht]
  rw [BuildRules.tags] at ht
  split at ht
  · rename_i he
    rw [if_pos he]
    exact Artifact.tagsOf_eq_ok ht
  · rename_i he
    rw [if_neg he]
    exact (Except.ok.inj ht).symm

end BuildRules

namespace BuiltFrom

open BuildRules

variable {r : BuildRules} {cells : List Cell} {g : CellGraph} {c : Cell}

theorem secondary (h : BuiltFrom r cells g) :
    g.secondary = cells.flatMap fun c => artifactNodes c (r.tagList c) := by
  rw [CellGraph.secondary, CellGraph.ofKind, h.nodes, List.filter_flatMap]
  refine congrArg (cells.flatMap ·) (funext fun c => ?_)
  rw [cellNodes, List.filter_cons_of_neg (by simp [cellNode]), List.filter_eq_self]
  intro n hn
  obtain ⟨i, tag, -, rfl⟩ := mem_artifactNodes.1 hn
  rfl

/-- The artifacts of one cell, among those of all cells. -/
theorem filter_secondary (h : BuiltFrom r cells g) (hc : c ∈ cells) :
    g.secondary.filter (Node.isOf c.id) = artifactNodes c (r.tagList c) := by
  have hself : (artifactNodes c (r.tagList c)).filter (Node.isOf c.id) = artifactNodes c (r.tagList c) := by
    rw [List.filter_eq_self]
    intro n hn
    obtain ⟨i, tag, -, rfl⟩ := mem_artifactNodes.1 hn
    exact isOf_artifactNode c tag i
  have hnone : ∀ d, d.id ≠ c.id → (artifactNodes d (r.tagList d)).filter (Node.isOf c.id) = [] := by
    intro d hd
    rw [List.filter_eq_nil_iff]
    intro n hn
    obtain ⟨i, tag, -, rfl⟩ := mem_artifactNodes.1 hn
    rw [Node.isOf, ownerName?_artifactNode]
    simpa using hd
  obtain ⟨before, after, rfl⟩ := List.append_of_mem hc
  have hd := h.nodup_ids
  rw [List.map_append, List.map_cons, List.nodup_middle, List.nodup_cons, List.mem_append, not_or] at hd
  have hb : before.flatMap (fun d => (artifactNodes d (r.tagList d)).filter (Node.isOf c.id)) = [] :=
    List.flatMap_eq_nil_iff.2 fun d hm => hnone d fun he => hd.1.1 (he ▸ List.mem_map_of_mem hm)
  have ha : after.flatMap (fun d => (artifactNodes d (r.tagList d)).filter (Node.isOf c.id)) = [] :=
    List.flatMap_eq_nil_iff.2 fun d hm => hnone d fun he => hd.1.2 (he ▸ List.mem_map_of_mem hm)
  rw [h.secondary, List.filter_flatMap, List.flatMap_append, List.flatMap_cons, hb, ha, hself,
    List.append_nil, List.nil_append]

/-- An artifact of a cell has as many artifacts of the cell before it as its number says. -/
theorem slot_take_secondary (h : BuiltFrom r cells g) (hc : c ∈ cells) {i k : ℕ} {tag : Tag}
    (hi : g.secondary[i]? = some (artifactNode c tag k)) (hk : (r.tagList c)[k]? = some tag) :
    Ring.slot (g.secondary.take i) c.id = k := by
  have hs := getElem?_filter_of_getElem? hi (isOf_artifactNode c tag k)
  have hn := getElem?_artifactNodes c hk
  rw [h.filter_secondary hc] at hs
  have hlt := (List.getElem?_eq_some_iff.1 hs).1
  exact (List.getElem?_inj hlt (List.Nodup.of_map _ (nodup_ids_artifactNodes c _))).1 (hs.trans hn.symm)

end BuiltFrom

namespace BuildRules

/-- The artifact of an output is numbered by the outputs before its own that are artifacts, in its
id as on the ring of its cell. -/
structure IsNumbered (s : ArtifactSettings) (c : Cell) (j : ℕ) (before : List CellNode) (n : CellNode) :
    Prop where
  output : ∃ output tag, c.outputs[j]? = some output ∧ Artifact.tagOf s output = .ok (some tag) ∧
    n = artifactNode c tag (Artifact.rank s c.outputs j)
  owner : n.ownerName? = some c.id
  slot : Ring.slot before c.id = Artifact.rank s c.outputs j
  index : n.toRecord.artifactIndex? = .ok (some (Artifact.rank s c.outputs j))

end BuildRules

namespace BuiltFrom

open BuildRules

variable {r : BuildRules} {cells : List Cell} {g : CellGraph} {c : Cell}

theorem isNumbered (h : BuiltFrom r cells g) (hc : c ∈ cells) (ht : ∃ tags, r.tags c = .ok tags)
    (he : r.artifacts.enabled.truthy = true) (hl : c.outputs.length ≤ 10 ^ Number.maxDigits) {i j : ℕ}
    {output : Value} {tag : Tag} (hj : c.outputs[j]? = some output)
    (htag : Artifact.tagOf r.artifacts output = .ok (some tag))
    (hi : g.secondary[i]? = some (artifactNode c tag (Artifact.rank r.artifacts c.outputs j))) :
    IsNumbered r.artifacts c j (g.secondary.take i)
      (artifactNode c tag (Artifact.rank r.artifacts c.outputs j)) := by
  refine ⟨⟨output, tag, hj, htag, rfl⟩, ownerName?_artifactNode c tag _, ?_, ?_⟩
  · refine h.slot_take_secondary hc hi ?_
    rw [tagList_eq ht, if_pos he]
    exact getElem?_filterMap_of_getElem? hj (Artifact.tag?_eq_some.2 htag)
  · have hlt : j < c.outputs.length := (List.getElem?_eq_some_iff.1 hj).1
    have hr := Artifact.rank_le r.artifacts c.outputs j
    exact NodeRecord.artifactIndex?_of_id rfl (by rw [Int.natAbs_natCast]; omega)

/-- Every artifact in the graph comes from an output. -/
theorem exists_isNumbered (h : BuiltFrom r cells g) (ht : ∀ c ∈ cells, ∃ tags, r.tags c = .ok tags)
    (hl : ∀ c ∈ cells, c.outputs.length ≤ 10 ^ Number.maxDigits) {i : ℕ} {n : CellNode}
    (hi : g.secondary[i]? = some n) :
    ∃ c ∈ cells, ∃ j, IsNumbered r.artifacts c j (g.secondary.take i) n := by
  have hn := List.mem_of_getElem? hi
  rw [h.secondary, List.mem_flatMap] at hn
  obtain ⟨c, hc, hn⟩ := hn
  obtain ⟨k, tag, hk, rfl⟩ := mem_artifactNodes.1 hn
  rw [tagList_eq (ht c hc)] at hk
  split at hk
  · rename_i he
    obtain ⟨j, output, hj, htag, rfl⟩ := exists_of_getElem?_filterMap hk
    exact ⟨c, hc, j, h.isNumbered hc (ht c hc) he (hl c hc) hj (Artifact.tag?_eq_some.1 htag) hi⟩
  · simp at hk

/-- Every output that is an artifact is in the graph. -/
theorem exists_getElem?_secondary (h : BuiltFrom r cells g) (hc : c ∈ cells)
    (ht : ∃ tags, r.tags c = .ok tags) (he : r.artifacts.enabled.truthy = true) {j : ℕ} {output : Value}
    {tag : Tag} (hj : c.outputs[j]? = some output)
    (htag : Artifact.tagOf r.artifacts output = .ok (some tag)) :
    ∃ i : ℕ, g.secondary[i]? = some (artifactNode c tag (Artifact.rank r.artifacts c.outputs j)) := by
  have hk : (r.tagList c)[Artifact.rank r.artifacts c.outputs j]? = some tag := by
    rw [tagList_eq ht, if_pos he]
    exact getElem?_filterMap_of_getElem? hj (Artifact.tag?_eq_some.2 htag)
  have hn : artifactNode c tag (Artifact.rank r.artifacts c.outputs j) ∈ g.secondary := by
    rw [h.secondary, List.mem_flatMap]
    exact ⟨c, hc, mem_artifactNodes.2 ⟨_, tag, hk, rfl⟩⟩
  exact List.getElem?_of_mem hn

end BuiltFrom

namespace BuildRules

variable {α : Type} [Coordinate α]

/-- Artifacts stand at the slots that their owners' artifacts before them leave free, in whatever
order the artifacts of different owners come; and in the graph of some cells, those slots, the
numbers in the ids and the order of the outputs agree. -/
theorem numbersOfArtifacts_agree (ring : Ring α) (centres : Table String (Point α)) :
    (∀ nodes : List CellNode, (nodes.map (·.id)).Nodup → (∀ n ∈ nodes, Ring.HasCentre centres n) →
      ∃ placed, Ring.place (.ok ring) centres nodes = .ok placed ∧
        Ring.IsSeating ring centres [] nodes placed ∧
        ∀ others : List CellNode, others.Perm nodes →
          (∀ o, others.filter (Node.isOf o) = nodes.filter (Node.isOf o)) →
          ∃ placed', Ring.place (.ok ring) centres others = .ok placed' ∧ placed'.Perm placed) ∧
    ∀ (r : BuildRules) (cells : List Cell) (g : CellGraph), r.build cells = .ok g →
      (∀ c ∈ cells, c.outputs.length ≤ 10 ^ Number.maxDigits) →
      (g.nodes.filter fun n => !n.kind.isRanked) = g.secondary ∧
      (∀ i n, g.secondary[i]? = some n →
        ∃ c ∈ cells, ∃ j, IsNumbered r.artifacts c j (g.secondary.take i) n) ∧
      (r.artifacts.enabled.truthy = true → ∀ c ∈ cells, ∀ j output tag, c.outputs[j]? = some output →
        Artifact.tagOf r.artifacts output = .ok (some tag) →
        ∃ i n, g.secondary[i]? = some n ∧ IsNumbered r.artifacts c j (g.secondary.take i) n) := by
  constructor
  · intro nodes hd hc
    obtain ⟨placed, hp, hs⟩ := Ring.exists_place_eq_ok ring hc
    refine ⟨placed, hp, hs, fun others hperm hf => ?_⟩
    obtain ⟨placed', hp', hs'⟩ := Ring.exists_place_eq_ok ring fun n hn => hc n (hperm.subset hn)
    exact ⟨placed', hp', hs.perm hs' hd hperm hf⟩
  · intro r cells g hg hl
    have h := builtFrom hg
    have ht := (exists_build_eq_ok_iff.1 ⟨g, hg⟩).2.2
    refine ⟨g.filter_not_isRanked, fun i n hi => h.exists_isNumbered ht hl hi,
      fun he c hc j output tag hj htag => ?_⟩
    obtain ⟨i, hi⟩ := h.exists_getElem?_secondary hc (ht c hc) he hj htag
    exact ⟨i, _, hi, h.isNumbered hc (ht c hc) he (hl c hc) hj htag hi⟩

/-- Artifacts of two owners, named in their data or in their ids, in two orders; and a cell with a
printed line between a table and a display. -/
theorem numbersOfArtifacts_agree_interleaved :
    let ring : Ring ℚ := ⟨90, fun k => if k % 2 = 0 then ⟨1, 0⟩ else ⟨0, 1⟩⟩
    let centres : Table String (Point ℚ) := ⟨[("1", ⟨70, 40⟩), ("2", ⟨220, 40⟩)]⟩
    let first : CellNode := { id := "1-artifact-0", label := .null, kind := .secondary }
    let second : CellNode :=
      { id := "plot", label := .null, kind := .secondary, data := [("owner", .text "2")] }
    let third : CellNode :=
      { id := "table", label := .null, kind := .secondary, data := [("owner", .text "1")] }
    let r : BuildRules := { names := ⟨true, Names.reserved⟩ }
    let cells : List Cell := [
      { position := 1, source := .text "x = 1", outputs := [
        .object [("output_type", .text "execute_result"),
          ("data", .object [("text/html", .text "<table>")])],
        .object [("output_type", .text "stream")],
        .object [("output_type", .text "display_data")]] },
      { position := 2, source := .text "y = x",
        outputs := [.object [("output_type", .text "display_data")]] }]
    (∀ o, [second, first, third].filter (Node.isOf o) = [first, second, third].filter (Node.isOf o)) ∧
    (∃ placed placed', Ring.place (.ok ring) centres [first, second, third] = .ok placed ∧
      Ring.place (.ok ring) centres [second, first, third] = .ok placed' ∧ placed'.Perm placed ∧
      placed.map (·.2) = [⟨160, 40⟩, ⟨310, 40⟩, ⟨70, 130⟩]) ∧
    ∃ g, r.build cells = .ok g ∧
      g.secondary.map (·.id) = ["1-artifact-0", "1-artifact-1", "2-artifact-0"] ∧
      ∀ i n, g.secondary[i]? = some n →
        ∃ c ∈ cells, ∃ j, IsNumbered r.artifacts c j (g.secondary.take i) n := by
  intro ring centres first second third r cells
  have h1 : first.ownerName? = some "1" := by decide +kernel
  have h2 : second.ownerName? = some "2" := rfl
  have h3 : third.ownerName? = some "1" := rfl
  have hf : ∀ o, [second, first, third].filter (Node.isOf o) =
      [first, second, third].filter (Node.isOf o) := by
    intro o
    by_cases ho : o = "2"
    · simp [Node.isOf, h1, h2, h3, ho]
    · simp [List.filter_cons, Node.isOf, h2, Ne.symm ho]
  have hc : ∀ n ∈ [first, second, third], Ring.HasCentre centres n := by
    simp only [List.mem_cons, List.not_mem_nil, or_false, forall_eq_or_imp, forall_eq]
    exact ⟨⟨"1", h1, rfl⟩, ⟨"2", h2, rfl⟩, ⟨"1", h3, rfl⟩⟩
  obtain ⟨hplace, hbuild⟩ := numbersOfArtifacts_agree ring centres
  obtain ⟨placed, hp, hs, hothers⟩ := hplace [first, second, third] (by decide +kernel) hc
  obtain ⟨placed', hp', hperm⟩ := hothers [second, first, third] (List.Perm.swap _ _ _) hf
  have hpoints : (Ring.place (.ok ring) centres [first, second, third]).toOption.map (·.map (·.2)) =
      some [⟨160, 40⟩, ⟨310, 40⟩, ⟨70, 130⟩] := by decide +kernel
  rw [hp] at hpoints
  refine ⟨hf, ⟨placed, placed', hp, hp', hperm, Option.some.inj hpoints⟩, ?_⟩
  have hids : (r.build cells).toOption.map (fun g => g.secondary.map (·.id)) =
      some ["1-artifact-0", "1-artifact-1", "2-artifact-0"] := by decide +kernel
  have hten : 10 ≤ 10 ^ Number.maxDigits := Nat.le_self_pow (by decide) 10
  have hlen : ∀ c ∈ cells, c.outputs.length ≤ 10 ^ Number.maxDigits := by
    have h : ∀ c ∈ cells, c.outputs.length ≤ 10 := by decide
    exact fun c hc => (h c hc).trans hten
  cases h : r.build cells with
  | error e =>
    rw [h] at hids
    cases hids
  | ok g =>
    rw [h] at hids
    exact ⟨g, rfl, Option.some.inj hids, (hbuild r cells g h hlen).2.1⟩

end BuildRules

end CellFlow
