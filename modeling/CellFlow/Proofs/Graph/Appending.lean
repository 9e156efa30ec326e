import CellFlow.Proofs.Graph.Labels
import Mathlib

/-!
Appending cells does not rewrite what stands before them: the graph of some first cells is the
front part of the graph of all cells. Later cells add links that lead to themselves, and colors for
labels that have not been seen.
-/

set_option autoImplicit false

namespace CellFlow

/-- What the graph `p` of some first cells says stands unchanged at the front of a graph `g`. -/
structure CellGraph.StartsWith (g p : CellGraph) : Prop where
  nodes : p.nodes <+: g.nodes
  links : p.links <+: g.links
  /-- Old links carry the names that they carried. -/
  carried : ∀ l ∈ p.links, g.carried.get? l = p.carried.get? l
  edges : p.edges <+: g.edges
  names : p.names <+: g.names
  colors : p.colors <+: g.colors

namespace Table

variable {κ α : Type} [BEq κ]

theorem mem_putInto {k : κ} {a : α} {e : κ × α} {l : List (κ × α)} (h : e ∈ putInto k a l) :
    e ∈ l ∨ e = (k, a) := by
  induction l with
  | nil => exact .inr (List.mem_singleton.1 h)
  | cons f l ih =>
    rw [putInto] at h
    split at h
    · rcases List.mem_cons.1 h with rfl | h
      · exact .inr rfl
      · exact .inl (List.mem_cons_of_mem f h)
    · rcases List.mem_cons.1 h with rfl | h
      · exact .inl List.mem_cons_self
      · exact (ih h).imp_left (List.mem_cons_of_mem f)

variable [LawfulBEq κ]

theorem putInto_append_of_not_mem {k : κ} {l : List (κ × α)} (a : α) (m : List (κ × α))
    (h : k ∉ l.map (·.1)) : putInto k a (l ++ m) = l ++ putInto k a m := by
  induction l with
  | nil => rfl
  | cons e l ih =>
    simp only [List.map_cons, List.mem_cons, not_or] at h
    have he : (e.1 == k) = false := by simp [Ne.symm h.1]
    rw [List.cons_append, putInto, he, ih h.2]
    rfl

theorem get?_eq_of_append {t u : Table κ α} {m : List (κ × α)} (h : u.entries = t.entries ++ m) {k : κ}
    (hk : k ∈ t.keys) : u.get? k = t.get? k := by
  obtain ⟨a, ha⟩ := Option.isSome_iff_exists.1 (isSome_get?_iff.2 hk)
  have ha' : t.entries.lookup k = some a := ha
  rw [get?, h, List.lookup_append, ha', ha]
  rfl

end Table

namespace Flow

/-- The table `u` goes on from the table `t` with links to one cell. -/
def GoesOn (target : String) (t u : Table Link NameSet) : Prop :=
  ∃ new, u.entries = t.entries ++ new ∧ ∀ e ∈ new, e.1.target = target

variable {target : String} {t u : Table Link NameSet} {l : Link}

theorem goesOn_refl (target : String) (t : Table Link NameSet) : GoesOn target t t :=
  ⟨[], by simp, by simp⟩

/-- A link to the cell is none of the old links, so that what is put on it comes behind them. -/
theorem GoesOn.credit (h : GoesOn target t u) (ht : ∀ k ∈ t.keys, k.target ≠ target)
    (hl : l.target = target) (names : List String) : GoesOn target t (credit u l names) := by
  obtain ⟨new, hu, hn⟩ := h
  have hm : l ∉ t.entries.map (·.1) := fun hk => ht l hk hl
  refine ⟨Table.putInto l (((u.get? l).getD .empty).insertAll names) new, ?_, fun e he => ?_⟩
  · rw [Flow.credit, Table.put, hu, Table.putInto_append_of_not_mem _ new hm]
  · rcases Table.mem_putInto he with he | rfl
    · exact hn e he
    · exact hl

theorem GoesOn.foldl_use {f : Flow Int} (names : List String) {w : Flow Int}
    (h : GoesOn target f.carried w.carried) (hf : ∀ k ∈ f.links, k.target ≠ target) :
    GoesOn target f.carried (names.foldl (use target) w).carried := by
  induction names generalizing w with
  | nil => exact h
  | cons name names ih =>
    refine ih ?_
    rw [use, filter_isGiven]
    cases w.writers.get? name with
    | none => exact h
    | some p => exact h.credit hf rfl [name]

/-- A step keeps the links found before it, if none of them leads to its cell. -/
theorem goesOn_step {f : Flow Int} {p : Int} (n : CellNames) (hf : ∀ k ∈ f.links, k.target ≠ toString p) :
    GoesOn (toString p) f.carried (f.step p n).carried :=
  (goesOn_refl _ _).foldl_use n.used.toList hf

theorem target_of_mem_links {cells : List (Int × CellNames)} (h : l ∈ (ofCells cells).links) :
    ∃ c ∈ cells, l.target = toString c.1 := by
  obtain ⟨name, hn⟩ := mem_links_ofCells.1 h
  obtain ⟨j, i, c, d, -, hd, rfl, -⟩ := mem_findings.1 hn
  exact ⟨d, List.mem_of_getElem? hd, rfl⟩

theorem ofCells_concat (cells : List (Int × CellNames)) (c : Int × CellNames) :
    ofCells (cells ++ [c]) = (ofCells cells).step c.1 c.2 := by
  rw [ofCells, List.foldl_append]
  rfl

/-- A walk that goes on to further cells keeps what it has found. -/
theorem carried_append {cells more : List (Int × CellNames)} (hp : ((cells ++ more).map (·.1)).Nodup) :
    ∃ new, (ofCells (cells ++ more)).carried.entries = (ofCells cells).carried.entries ++ new := by
  induction more using List.reverseRecOn with
  | nil => exact ⟨[], by simp⟩
  | append_singleton more c ih =>
    rw [← List.append_assoc] at hp ⊢
    rw [List.map_append, List.nodup_append] at hp
    obtain ⟨hd, -, hc⟩ := hp
    obtain ⟨new, hnew⟩ := ih hd
    have ht : ∀ k ∈ (ofCells (cells ++ more)).links, k.target ≠ toString c.1 := by
      intro k hk he
      obtain ⟨d, hm, hd⟩ := target_of_mem_links hk
      have hdc : d.1 = c.1 := toString_int_injective (hd.symm.trans he)
      exact hc d.1 (List.mem_map_of_mem hm) c.1 (by simp) hdc
    obtain ⟨last, hlast, -⟩ := goesOn_step c.2 ht
    exact ⟨new ++ last, by rw [ofCells_concat, hlast, hnew, List.append_assoc]⟩

end Flow

theorem Key.beq_self (k : Key) : (k == k) = true := by
  cases k with
  | float x =>
    by_cases hx : x = Float.nan
    · simp [BEq.beq, isNaN, Float.isNaN_eq_decide_eq_nan, hx]
    · have h : (x == x) = true := Float.beq_self_iff.2 hx
      simp only [BEq.beq, alike] at h ⊢
      simp [h]
  | _ => simp [BEq.beq, alike]

namespace Palette

variable {palette label : Value} {colors after : Colors}

/-- Either the label is null, or it has a color already, or one is added for it at the end. -/
theorem addLabel_cases (h : addLabel palette colors label = .ok after) :
    (label = .null ∧ after = colors) ∨ ∃ k, label.key? = some k ∧ k ≠ .null ∧
      ((Fields.get? colors k).isSome ∧ after = colors ∨ ∃ color, after = colors ++ [(k, color)]) := by
  by_cases hl : label = .null
  · subst hl
    exact .inl ⟨rfl, (Except.ok.inj h).symm⟩
  · obtain ⟨k, hk⟩ := Option.isSome_iff_exists.1 (isSome_key?_of_addLabel h)
    have hn : k ≠ .null := by
      rintro rfl
      cases label <;> cases hk
      exact hl rfl
    have hadd : addLabel palette colors label = (do
        if (Fields.get? colors k).isSome then return colors
        let color ← colorAt palette colors.length
        return colors ++ [(k, color)]) := by
      cases label <;> simp [addLabel, Value.toKey, hk] at hl ⊢
    rw [hadd] at h
    refine .inr ⟨k, hk, hn, ?_⟩
    split at h
    · exact .inl ⟨‹_›, (Except.ok.inj h).symm⟩
    · obtain ⟨color, -, h⟩ := bind_eq_ok.1 h
      exact .inr ⟨color, (Except.ok.inj h).symm⟩

/-- Colors stay what they are, and a label that is not null has one afterwards. -/
theorem isPrefix_of_addLabel (h : addLabel palette colors label = .ok after) : colors <+: after := by
  obtain ⟨-, rfl⟩ | ⟨k, -, -, ⟨-, rfl⟩ | ⟨color, rfl⟩⟩ := addLabel_cases h
  · exact List.prefix_refl _
  · exact List.prefix_refl _
  · exact List.prefix_append _ _

theorem isSome_find?_of_addLabel (h : addLabel palette colors label = .ok after) (hl : label ≠ .null) :
    (after.find? label).isSome := by
  obtain ⟨hn, -⟩ | ⟨k, hk, -, ⟨hs, rfl⟩ | ⟨color, rfl⟩⟩ := addLabel_cases h
  · exact absurd hn hl
  · simpa [Colors.find?, hk] using hs
  · simp [Colors.find?, hk, Fields.get?, List.lookup_append, List.lookup_cons, Key.beq_self]

theorem find?_null_of_addLabel (h : addLabel palette colors label = .ok after)
    (hc : colors.find? .null = none) : after.find? .null = none := by
  obtain ⟨-, rfl⟩ | ⟨k, -, hn, ⟨-, rfl⟩ | ⟨color, rfl⟩⟩ := addLabel_cases h
  · exact hc
  · exact hc
  · have hb : (Key.null == k) = false := by cases k <;> simp_all [BEq.beq, Key.alike, Key.isNaN]
    have hc' : colors.lookup .null = none := hc
    simp [Colors.find?, Value.key?, Fields.get?, List.lookup_append, List.lookup_cons, hc', hb]

theorem find?_of_isPrefix (h : colors <+: after) (hs : (colors.find? label).isSome) :
    after.find? label = colors.find? label := by
  obtain ⟨more, rfl⟩ := h
  obtain ⟨color, hc⟩ := Option.isSome_iff_exists.1 hs
  obtain ⟨k, hk, hc⟩ := Option.bind_eq_some_iff.1 hc
  have hl : colors.lookup k = some color := hc
  simp [Colors.find?, hk, Fields.get?, List.lookup_append, hl]

/-- Labels that are walked through later change no color, and all labels find theirs. -/
theorem of_foldlM_addLabel {labels : List Value} (h : labels.foldlM (addLabel palette) colors = .ok after)
    (hc : colors.find? .null = none) : colors <+: after ∧ after.find? .null = none ∧
      ∀ label ∈ labels, label ≠ .null → (after.find? label).isSome := by
  induction labels generalizing colors with
  | nil =>
    obtain rfl : colors = after := Except.ok.inj h
    exact ⟨List.prefix_refl _, hc, by simp⟩
  | cons label labels ih =>
    rw [List.foldlM_cons] at h
    obtain ⟨next, hn, h⟩ := bind_eq_ok.1 h
    obtain ⟨hp, hnull, hall⟩ := ih h (find?_null_of_addLabel hn hc)
    refine ⟨(isPrefix_of_addLabel hn).trans hp, hnull, fun l hl hne => ?_⟩
    rcases List.mem_cons.1 hl with rfl | hl
    · rw [find?_of_isPrefix hp (isSome_find?_of_addLabel hn hne)]
      exact isSome_find?_of_addLabel hn hne
    · exact hall l hl hne

/-- The colors for some first cells are the first colors, and the labels of these cells find the
same colors among them as among all. -/
theorem exists_colorsFor_append {cells more : List Cell} (h : colorsFor (cells ++ more) palette = .ok after) :
    ∃ colors, colorsFor cells palette = .ok colors ∧ colors <+: after ∧
      ∀ c ∈ cells, after.find? c.label = colors.find? c.label := by
  rw [colorsFor, List.map_append, List.foldlM_append] at h
  obtain ⟨colors, hc, h⟩ := bind_eq_ok.1 h
  obtain ⟨-, hnull, hsome⟩ := of_foldlM_addLabel hc rfl
  obtain ⟨hp, hnull', -⟩ := of_foldlM_addLabel h hnull
  refine ⟨colors, hc, hp, fun c hm => ?_⟩
  by_cases hl : c.label = .null
  · rw [hl, hnull, hnull']
  · exact find?_of_isPrefix hp (hsome c.label (List.mem_map_of_mem hm) hl)

end Palette

namespace BuildRules

variable {r : BuildRules} {cells more : List Cell} {g : CellGraph}

theorem cellNodes_congr {colors colors' : Colors} {c : Cell} (h : colors.find? c.label = colors'.find? c.label) :
    r.cellNodes colors c = r.cellNodes colors' c := by
  rw [cellNodes, cellNodes, cellNode, cellNode, h]

theorem exists_build_of_append (h : r.build (cells ++ more) = .ok g) : ∃ p, r.build cells = .ok p := by
  obtain ⟨hp, ⟨colors, hc⟩, ht⟩ := exists_build_eq_ok_iff.1 ⟨g, h⟩
  obtain ⟨colors', hc', -⟩ := Palette.exists_colorsFor_append hc
  refine exists_build_eq_ok_iff.2 ⟨?_, ⟨colors', hc'⟩, fun c hm => ht c (List.mem_append_left _ hm)⟩
  rw [List.map_append] at hp
  exact hp.of_append_left

/-- The graph of some cells and further ones starts with the graph of the first cells, which can be
built whenever that of all cells can. -/
theorem build_append_startsWith (h : r.build (cells ++ more) = .ok g) :
    ∃ p, r.build cells = .ok p ∧ g.StartsWith p := by
  obtain ⟨p, hp⟩ := exists_build_of_append h
  have hb := builtFrom hp
  have hg := builtFrom h
  obtain ⟨colors, hc, hprefix, hfind⟩ := Palette.exists_colorsFor_append (colors_of_build h)
  obtain rfl : p.colors = colors := Except.ok.inj ((colors_of_build hp).symm.trans hc)
  have hd : (((cells.map r.namesAt) ++ (more.map r.namesAt)).map (·.1)).Nodup := by
    rw [← List.map_append, List.map_map]
    exact hg.positions
  obtain ⟨new, hnew⟩ := Flow.carried_append hd
  rw [← List.map_append] at hnew
  have hentries : g.carried.entries = p.carried.entries ++ new.map fun e => (e.1, e.2.toList) := by
    rw [hg.carried, hb.carried, Table.mapValues, hnew, List.map_append]
    rfl
  refine ⟨p, hp, ?_, ?_, fun l hl => Table.get?_eq_of_append hentries hl, ?_, ?_, hprefix⟩
  · rw [hb.nodes, hg.nodes, List.flatMap_append,
      List.flatMap_congr fun c hm => (cellNodes_congr (hfind c hm)).symm]
    exact List.prefix_append _ _
  · rw [CellGraph.links, CellGraph.links, Table.keys, Table.keys, hentries, List.map_append]
    exact List.prefix_append _ _
  · rw [CellGraph.edges, CellGraph.edges, hentries, List.map_append]
    exact List.prefix_append _ _
  · rw [names_of_build hp, names_of_build h, List.map_append]
    exact List.prefix_append _ _

/-- Two labelled cells, the second with a table, followed by cells that use the names of both, write
one of them again, and bring a new label and an old one. -/
theorem build_append_startsWith_rewritten :
    let r : BuildRules := { names := ⟨true, Names.reserved⟩ }
    let cells : List Cell := [
      { position := 5, source := .text "x = 1\ny = 2", label := .text "setup" },
      { position := 2, source := .text "z = x", label := .text "model",
        outputs := [.object [("output_type", .text "display_data")]] }]
    let more : List Cell := [
      { position := 9, source := .text "x = y + z", label := .text "plot" },
      { position := -1, source := .text "w = x", label := .text "setup" }]
    ∃ g, r.build (cells ++ more) = .ok g ∧
      g.links = [⟨"5", "2"⟩, ⟨"5", "9"⟩, ⟨"2", "9"⟩, ⟨"9", "-1"⟩] ∧
      ∃ p, r.build cells = .ok p ∧ g.StartsWith p := by
  intro r cells more
  have hl : (r.build (cells ++ more)).toOption.map (·.links) =
      some [⟨"5", "2"⟩, ⟨"5", "9"⟩, ⟨"2", "9"⟩, ⟨"9", "-1"⟩] := by decide +kernel
  cases h : r.build (cells ++ more) with
  | error e =>
    rw [h] at hl
    cases hl
  | ok g =>
    rw [h] at hl
    exact ⟨g, rfl, Option.some.inj hl, build_append_startsWith h⟩

end BuildRules

end CellFlow
