import CellFlow.Proofs.Page.Graphs
import CellFlow.Proofs.Session.Build

/-!
The script in the page of a build stays whole unless a group is shown whose label ends it: labels are
the one text of the user that the script holds without references in the place of its markup.
-/

set_option autoImplicit false

namespace CellFlow

open Page (ShowsLabels LabelEnds EndsScript HasBlock cut labelLength)

theorem Result.lt_not_mem_statistics (r : Result) (key : Key) :
    '<' ∉ (Fields.getD r.statistics key (.int 0)).shown.toList := by
  have hint : ∀ f ∈ r.statistics, ∃ n, f.2 = .int n := by
    simp only [statistics, List.forall_mem_cons]
    exact ⟨⟨_, rfl⟩, ⟨_, rfl⟩, ⟨_, rfl⟩, ⟨_, rfl⟩, ⟨_, rfl⟩, List.forall_mem_nil _⟩
  rw [Fields.getD]
  cases hk : List.lookup key r.statistics with
  | none => decide
  | some v =>
    obtain ⟨j, hj⟩ := Fields.exists_mem_of_get? hk
    obtain ⟨n, hn⟩ := hint _ hj
    obtain rfl : v = .int n := hn
    exact Page.lt_not_mem_toString n

/-- A group that has cells, with a label that ends the script as far as the page shows it. -/
def Group.SomeLabelEnds (groups : List Group) (cells : List Cell) : Prop :=
  ∃ c ∈ cells, ∃ g i, find? groups c.position = some (g, i) ∧ EndsScript (cut labelLength g.label).toList

namespace Session

open Telling (yields_pure)

variable {s : Session} {cells : List Cell} {groups : Value} {gs : List Group} {g : CellGraph}

theorem someLabelEnds_labelled :
    Group.SomeLabelEnds gs (labelled gs cells) ↔ Group.SomeLabelEnds gs cells := by
  unfold labelled
  split
  · rfl
  · simp only [Group.SomeLabelEnds, Group.labelCells, List.mem_map, exists_exists_and_eq_and,
      Group.position_labelCell]

theorem exists_yields_shown (h : BuiltFrom s.rules cells g) (hn : cells.length < 2 ^ 63)
    (hf : s.settings.figure.HasPlainColors) (hc : g.colors.ArePlain) (gs : List Group) (collapse : Bool) :
    ∃ q b, (s.rankedGraph g cells gs collapse).Yields (q, b) ∧ q.IsSound ∧ ShowsLabels q ∧
      ((∃ n ∈ q.nodes, LabelEnds n) ↔ collapse = true ∧ Group.SomeLabelEnds gs cells) := by
  by_cases hg : collapse = false ∨ gs = []
  · refine ⟨g, false, yields_rankedGraph_self hg, h.isSound, h.showsLabels hf hc,
      iff_of_false h.not_labelEnds ?_⟩
    rintro ⟨hcollapse, c, -, grp, i, hfind, -⟩
    obtain rfl : gs = [] := hg.resolve_left (by simp [hcollapse])
    cases hfind
  · obtain ⟨rfl, hne⟩ : collapse = true ∧ gs ≠ [] := by simpa using hg
    obtain ⟨q, hq, hs⟩ := Collapse.collapse_isSound h hn gs s.settings.figure.defaultNodeColor
    refine ⟨q, true, yields_rankedGraph_collapse hne hq, hs,
      Collapse.collapse_showsLabels h hn hf hc hf.node hq, ?_⟩
    rw [Collapse.exists_labelEnds_collapse h hq]
    exact ⟨fun he => ⟨rfl, he⟩, fun he => he.2⟩

theorem exists_page (collapse : Bool) (hl : s.instead.get? .layout = none)
    (hs : s.settings.layout.IsNumeric) (hf : s.settings.figure.HasPlainColors)
    (hg : readGroups groups = .ok gs) (h : s.graphOf cells = .ok g) (hc : ∀ c ∈ cells, c.HasTextLabel)
    (hn : cells.length < 2 ^ 63) :
    ∃ res page block, (s.build cells groups collapse).outcome = .ok res ∧
      Page.write res.chart (.object res.statistics) = .ok page ∧ HasBlock page block ∧
      (EndsScript block ↔ collapse = true ∧ Group.SomeLabelEnds gs cells) := by
  obtain ⟨q, hq⟩ := exists_graphOf_labelled hf.isList h gs
  have hbuild := (graphOf_eq_ok.1 hq).2
  have hb : BuiltFrom s.rules (labelled gs cells) q := BuildRules.builtFrom hbuild
  have hcolors : q.colors.ArePlain := Palette.arePlain_colorsFor hf (hasTextLabel_labelled hc)
    (BuildRules.colors_of_build hbuild)
  have hn' : (labelled gs cells).length < 2 ^ 63 := by
    rw [length_labelled]
    exact hn
  obtain ⟨ranked, b, hy, hsound, hshown, hends⟩ := exists_yields_shown hb hn' hf hcolors gs collapse
  have hregroup : (s.regroup ⟨labelled gs cells, gs, q, q, false⟩ collapse).Yields
      ⟨labelled gs cells, gs, q, ranked, b⟩ := hy.bind (yields_pure _)
  obtain ⟨placed, notes, hp, hres⟩ :=
    exists_yields_placed (d := ⟨labelled gs cells, gs, q, ranked, b⟩) hl hs hsound
  obtain ⟨page, block, hpage, hblock, hiff⟩ :=
    hshown.exists_write hsound hp notes (Result.lt_not_mem_statistics _)
  refine ⟨_, page, block, ((yields_draft hg hq).bind (hregroup.bind hres)).outcome, hpage, hblock, ?_⟩
  rw [hiff, hends, someLabelEnds_labelled]

/-- The page of a build has one block of data, all of its last script as long as it does not end it.
With colors that are written as they are, it does only where groups are collapsed and the label of one
that is shown ends a script in its first letters; sources and labels of cells never do. -/
theorem build_page_endsScript_iff (collapse : Bool) (hl : s.instead.get? .layout = none)
    (hs : s.settings.layout.IsNumeric) (hf : s.settings.figure.HasPlainColors)
    (hg : readGroups groups = .ok gs) (h : s.graphOf cells = .ok g) (hc : ∀ c ∈ cells, c.HasTextLabel)
    (hn : cells.length < 2 ^ 63) :
    ∃ res page, (s.build cells groups collapse).outcome = .ok res ∧
      Page.write res.chart (.object res.statistics) = .ok page ∧ (∃ block, HasBlock page block) ∧
      ∀ block, HasBlock page block →
        (EndsScript block ↔ collapse = true ∧ Group.SomeLabelEnds gs cells) ∧
        (¬ EndsScript block → Page.scripts page.toList = 2) := by
  obtain ⟨res, page, block, hres, hpage, hblock, hends⟩ := exists_page collapse hl hs hf hg h hc hn
  refine ⟨res, page, hres, hpage, ⟨block, hblock⟩, fun other hother => ?_⟩
  obtain rfl := hblock.unique hother
  exact ⟨hends, hblock.scripts_eq_two⟩

/-- A label that ends a script does no harm to cells that are shown one by one, nor does one with
other markup to a group. -/
theorem build_page_endsScript_iff_harmless :
    let s : Session := { settings := {}, folder := .null, excluded := Names.reserved, exporter := {} }
    let cells : List Cell := [
      { position := 1, source := .text "x = '</script>'", label := .text "</script>",
        outputs := [.object [("output_type", .text "display_data")]] },
      { position := 2, source := .text "y = x" }]
    let ending : Value := .list [.object [("label", .text "</script><script>"), ("cell_start", .int 1),
      ("cell_end", .int 1)]]
    let bold : Value := .list [.object [("label", .text "<b>data & scripts</b>"), ("cell_start", .int 1),
      ("cell_end", .int 2)]]
    (∃ res page, (s.build cells ending false).outcome = .ok res ∧
      Page.write res.chart (.object res.statistics) = .ok page ∧ Page.scripts page.toList = 2) ∧
    ∃ res page, (s.build cells bold true).outcome = .ok res ∧
      Page.write res.chart (.object res.statistics) = .ok page ∧ Page.scripts page.toList = 2 := by
  intro s cells ending bold
  have hending : readGroups ending = .ok [⟨"</script><script>", 1, 1, by decide⟩] := rfl
  have hbold : readGroups bold = .ok [⟨"<b>data & scripts</b>", 1, 2, by decide⟩] := rfl
  have hc : ∀ c ∈ cells, c.HasTextLabel := by
    simp only [cells, List.forall_mem_cons]
    exact ⟨.inr ⟨_, rfl⟩, .inl rfl, List.forall_mem_nil _⟩
  have hb : (s.graphOf cells).isOk = true := by decide +kernel
  obtain ⟨g, h⟩ := exists_eq_ok_of_isOk hb
  obtain ⟨res, page, hres, hpage, ⟨block, hblock⟩, hends⟩ :=
    build_page_endsScript_iff false rfl .default .default hending h hc (by decide)
  obtain ⟨res', page', hres', hpage', ⟨block', hblock'⟩, hends'⟩ :=
    build_page_endsScript_iff true rfl .default .default hbold h hc (by decide)
  refine ⟨⟨res, page, hres, hpage, (hends block hblock).2 fun he => ?_⟩,
    res', page', hres', hpage', (hends' block' hblock').2 fun he => ?_⟩
  · exact absurd ((hends block hblock).1.1 he).1 (by decide)
  · obtain ⟨c, -, grp, i, hfind, hlabel⟩ := ((hends' block' hblock').1.1 he).2
    have hm := List.mem_of_getElem? (Group.find?_eq_some_iff.1 hfind).1
    obtain rfl := List.mem_singleton.1 hm
    exact absurd hlabel (by decide)

/-- The label of a collapsed group ends the script that holds it. -/
theorem exists_build_page_endsScript :
    let s : Session := { settings := {}, folder := .null, excluded := Names.reserved, exporter := {} }
    let cells : List Cell := [{ position := 1, source := .text "x = 1" }]
    let groups : Value := .list [.object [("label", .text "</script><script>"), ("cell_start", .int 1),
      ("cell_end", .int 1)]]
    ∃ res page block, (s.build cells groups true).outcome = .ok res ∧
      Page.write res.chart (.object res.statistics) = .ok page ∧ HasBlock page block ∧ EndsScript block := by
  intro s cells groups
  have hg : readGroups groups = .ok [⟨"</script><script>", 1, 1, by decide⟩] := rfl
  have hb : (s.graphOf cells).isOk = true := by decide +kernel
  obtain ⟨g, h⟩ := exists_eq_ok_of_isOk hb
  have hc : ∀ c ∈ cells, c.HasTextLabel := fun c hc => .inl (by rw [List.mem_singleton.1 hc])
  obtain ⟨res, page, block, hres, hpage, hblock, hends⟩ :=
    exists_page true rfl .default .default hg h hc (by decide)
  have hfind : Group.find? [⟨"</script><script>", 1, 1, by decide⟩] 1 =
      some (⟨"</script><script>", 1, 1, by decide⟩, 0) := rfl
  exact ⟨res, page, block, hres, hpage, hblock,
    hends.2 ⟨rfl, _, List.mem_singleton_self _, _, _, hfind, by decide⟩⟩

end Session

end CellFlow
