import CellFlow.Proofs.Session.Build

/-!
Settings are live: whatever has been set and built in a session, the next chart is the one that a
fresh session with the settings as they stand would build. Names that are left out are the exception,
since a session takes them from the settings when it starts.
-/

set_option autoImplicit false

namespace CellFlow

/-- What is done in a session: a field of a section is set, or a chart is built. -/
inductive Act where
  | set (part : Section) (key : String) (v : Value) : Act
  | build (cells : List Cell) (groups : Value) (collapse : Bool) : Act

/-- The settings as the acts of a session leave them; a field that cannot be set stays as it is. -/
def Settings.after (c : Settings) (acts : List Act) : Settings :=
  acts.foldl (fun c act =>
    match act with
    | .set part key v => (c.set part key v).toOption.getD c
    | .build .. => c) c

/-- The same, but with the names to leave out that were given at the start. -/
def Settings.afterKeepingNames (c : Settings) (acts : List Act) : Settings :=
  let last := c.after acts
  { last with parsing := { last.parsing with extraExcludedNames := c.parsing.extraExcludedNames } }

namespace BuildRules

/-- A build that goes on from the flow of an earlier one: the flow that is kept afterwards, and the
graph with the names that this flow has on its links. -/
def buildOver (r : BuildRules) (old : Flow Int) (cells : List Cell) : Flow Int × Outcome CellGraph :=
  let positions := cells.map (·.position)
  match checkPositions [] positions with
  | .error e => (old, .error e)
  | .ok () =>
    let names := cells.map fun c => r.names.extract c.source
    let (flow, links) := Flow.rebuild old positions names
    (flow, do
      let _ ← links
      let colors ← Palette.colorsFor cells r.figure.palette
      let nodes ← r.allNodes colors (cells.zip names)
      return {
        nodes
        carried := flow.carried.mapValues NameSet.toList
        names := positions.zip names
        colors })

theorem rebuild_map (r : BuildRules) (old : Flow Int) (cells : List Cell) :
    Flow.rebuild old (cells.map (·.position)) (cells.map fun c => r.names.extract c.source) =
      (Flow.ofCells (cells.map r.namesAt), .ok (Flow.ofCells (cells.map r.namesAt)).links) := by
  simp [Flow.rebuild, Flow.build, zip_names]

/-- Nothing of an earlier flow shows in a graph. -/
theorem snd_buildOver (r : BuildRules) (old : Flow Int) (cells : List Cell) :
    (r.buildOver old cells).2 = r.build cells := by
  cases h : checkPositions [] (cells.map (·.position)) with
  | error e =>
    simp only [buildOver, build, h]
    rfl
  | ok u => simp only [buildOver, build, h, rebuild_map, ok_bind, zip_names]

end BuildRules

namespace Session

/-- A session at work keeps, beside its settings, the flow that was found last. -/
structure AtWork where
  session : Session
  flow : Flow Int

namespace AtWork

variable (w : AtWork)

def graphOf (cells : List Cell) : Flow Int × Outcome CellGraph := w.session.rules.buildOver w.flow cells

def draft (cells : List Cell) (groups : Value) : Telling Draft := do
  let groups ← Telling.ofOutcome (readGroups groups)
  Telling.tell w.session.isVerbose .banner
  let cells := labelled groups cells
  Telling.tell (w.session.isVerbose && !groups.isEmpty) (.grouped groups.length)
  let graph ← Telling.ofOutcome (w.graphOf cells).2
  Telling.tell w.session.isVerbose
    (.counted graph.primary.length graph.links.length graph.secondary.length)
  return ⟨cells, groups, graph, graph, false⟩

def build (cells : List Cell) (groups : Value) (collapse : Bool) : Telling Result := do
  let d ← w.draft cells groups
  let d ← w.session.regroup d collapse
  w.session.arrange d

/-- A field that cannot be set leaves the session as it is, and so do groups that cannot be read. -/
def step : Act → AtWork
  | .set part key v => { w with session := (w.session.set part.name key v).toOption.getD w.session }
  | .build cells groups _ =>
    match readGroups groups with
    | .ok gs => { w with flow := (w.graphOf (labelled gs cells)).1 }
    | .error _ => w

def after (acts : List Act) : AtWork := acts.foldl step w

end AtWork

/-- Two sessions that build alike: what they read when they build a chart is the same. -/
structure BuildsLike (s t : Session) : Prop where
  rules : s.rules = t.rules
  layout : s.settings.layout = t.settings.layout
  figure : s.settings.figure = t.settings.figure
  verbose : s.settings.verbose = t.settings.verbose
  instead : s.instead = t.instead

variable {s t : Session} {w : AtWork}

theorem BuildsLike.build_eq (h : BuildsLike s t) (cells : List Cell) (groups : Value) (collapse : Bool) :
    s.build cells groups collapse = t.build cells groups collapse := by
  have hv : s.isVerbose = t.isVerbose := by rw [isVerbose, isVerbose, h.verbose]
  have hr : s.require = t.require := by
    funext part
    rw [require, require, h.instead]
  have hg : s.graphOf = t.graphOf := by
    funext cells
    simp only [graphOf, checkSections, h.rules, h.instead, h.figure, hr]
  unfold build draft regroup rankedGraph arrange
  simp only [hv, hr, hg, h.layout, h.figure]

namespace AtWork

/-- What an earlier build has left behind does not show in a chart. -/
theorem build_eq (h : w.session.instead = .empty) (cells : List Cell) (groups : Value) (collapse : Bool) :
    w.build cells groups collapse = w.session.build cells groups collapse := by
  have hg : ∀ cells, (w.graphOf cells).2 = w.session.graphOf cells := by
    intro cells
    rw [graphOf, BuildRules.snd_buildOver, Session.graphOf, h]
    rfl
  unfold build draft Session.build Session.draft
  simp only [hg]
  rfl

theorem set_eq (h : s.instead = .empty) (part : Section) (key : String) (v : Value) :
    (s.set part.name key v).toOption.getD s =
      { s with settings := (s.settings.set part key v).toOption.getD s.settings } := by
  have hne : part.name.isEmpty = false := by cases part <;> decide
  have hr : s.require part = .ok () := by rw [require, h]; rfl
  rw [Session.set, hne, Section.ofName?_name]
  cases hset : s.settings.set part key v with
  | error e => simp [hr, hset]; rfl
  | ok c => simp [hr, hset]; rfl

/-- An act changes nothing of a session but its settings. -/
theorem session_step (h : w.session.instead = .empty) (act : Act) :
    (w.step act).session = { w.session with settings := w.session.settings.after [act] } := by
  cases act with
  | set part key v => exact set_eq h part key v
  | build cells groups collapse =>
    cases hg : readGroups groups with
    | error e => simp only [step, hg, Settings.after, List.foldl]
    | ok gs => simp only [step, hg, Settings.after, List.foldl]

theorem session_after (h : w.session.instead = .empty) (acts : List Act) :
    (w.after acts).session = { w.session with settings := w.session.settings.after acts } := by
  induction acts generalizing w with
  | nil => rfl
  | cons act acts ih =>
    have hs := session_step h act
    have hi : (w.step act).session.instead = .empty := by rw [hs]; exact h
    have hw : w.after (act :: acts) = (w.step act).after acts := rfl
    rw [hw, ih hi, hs]
    rfl

end AtWork

theorem instead_of_start {c : Settings} (h : start c = .ok s) : s.instead = .empty := by
  obtain ⟨names, -, h⟩ := bind_eq_ok.1 h
  cases h
  rfl

theorem settings_of_start {c : Settings} (h : start c = .ok s) : s.settings = c := by
  obtain ⟨names, -, h⟩ := bind_eq_ok.1 h
  cases h
  rfl

/-- Sessions that start with the same names to leave out leave out the same names. -/
theorem exists_start {c d : Settings} (h : start c = .ok s)
    (he : d.parsing.extraExcludedNames = c.parsing.extraExcludedNames) :
    ∃ t, start d = .ok t ∧ t.excluded = s.excluded := by
  obtain ⟨names, hn, h⟩ := bind_eq_ok.1 h
  obtain ⟨extra, hx, hn⟩ := bind_eq_ok.1 hn
  cases h
  cases hn
  refine ⟨⟨d, .text d.outputFolder.text, Names.reserved ++ extra, { verbose := d.verbose }, .empty⟩, ?_, rfl⟩
  rw [start, Names.Rules.ofSettings, he, hx]
  rfl

/-- Whatever was set and built in a session, a chart is the one that a fresh session would build
which starts with the settings as they stand, but for the names to leave out: these are the ones
with which the session started. -/
theorem build_live {c : Settings} (h : start c = .ok s) (acts : List Act) (flow : Flow Int) :
    ∃ fresh, start (c.afterKeepingNames acts) = .ok fresh ∧
      (∀ cells groups collapse, ((AtWork.mk s flow).after acts).build cells groups collapse =
        fresh.build cells groups collapse) ∧
      ((c.after acts).parsing.extraExcludedNames = c.parsing.extraExcludedNames →
        c.afterKeepingNames acts = c.after acts) := by
  obtain ⟨fresh, hf, hexcluded⟩ := exists_start h (d := c.afterKeepingNames acts) rfl
  have hi := instead_of_start h
  have hs : ((AtWork.mk s flow).after acts).session = { s with settings := c.after acts } := by
    rw [AtWork.session_after hi, settings_of_start h]
  have hlike : BuildsLike { s with settings := c.after acts } fresh := by
    refine ⟨?_, ?_, ?_, ?_, ?_⟩
    · simp only [rules, settings_of_start hf, hexcluded]
      rfl
    · rw [settings_of_start hf]
      rfl
    · rw [settings_of_start hf]
      rfl
    · rw [settings_of_start hf]
      rfl
    · rw [instead_of_start hf]
      exact hi
  refine ⟨fresh, hf, fun cells groups collapse => ?_, fun he => ?_⟩
  · rw [AtWork.build_eq (by rw [hs]; exact hi), hs, hlike.build_eq]
  · unfold Settings.afterKeepingNames
    rw [← he]

/-- The direction, the palette and magic lines are set before and after a build; names to leave out are
set, too, and do not count. -/
theorem build_live_mixed :
    let s : Session := ⟨{}, .text "flowgraph_output", Names.reserved, {}, .empty⟩
    let cells : List Cell := [{ position := 3, source := .text "x = 1", label := .text "a" },
      { position := 1, source := .text "%time x\ny = x" }]
    let acts : List Act := [.set .layout "rank_direction" (.text "LR"), .build cells .null false,
      .set .figure "palette" (.list [.text "red"]), .set .layout "direction" .null,
      .set .parsing "skip_magics" (.bool false),
      .set .parsing "extra_excluded_names" (.list [.text "x"])]
    let last : Settings := {
      parsing := { skipMagics := .bool false }
      layout := { rankDirection := .text "LR" }
      figure := { palette := .list [.text "red"] } }
    start {} = .ok s ∧ ∃ fresh, start last = .ok fresh ∧
      ((AtWork.mk s .empty).after acts).build cells .null false = fresh.build cells .null false := by
  intro s cells acts last
  have hs : start {} = .ok s := rfl
  obtain ⟨fresh, hf, hbuild, -⟩ := build_live hs acts .empty
  exact ⟨hs, fresh, hf, hbuild cells .null false⟩

/-- A name that is to be left out from some moment on still links two cells. -/
theorem not_build_live : ¬ ∀ (c : Settings) (s fresh : Session) (acts : List Act), start c = .ok s →
    start (c.after acts) = .ok fresh → ∀ cells groups collapse,
      ((AtWork.mk s .empty).after acts).build cells groups collapse = fresh.build cells groups collapse := by
  intro h
  let act : Act := .set .parsing "extra_excluded_names" (.list [.text "x"])
  let s : Session := ⟨{}, .text "flowgraph_output", Names.reserved, {}, .empty⟩
  let fresh : Session := { s with
    settings := { parsing := { extraExcludedNames := .list [.text "x"] } }
    excluded := Names.reserved ++ ["x"] }
  let cells : List Cell := [{ position := 1, source := .text "x = 1" }, { position := 2, source := .text "y = x" }]
  have hb := h {} s fresh [act] rfl rfl cells .null false
  have hlinks := congrArg (fun t : Telling Result => t.outcome.toOption.map (·.graph.links)) hb
  have hne : ((((AtWork.mk s .empty).after [act]).build cells .null false).outcome.toOption.map (·.graph.links)) ≠
      (fresh.build cells .null false).outcome.toOption.map (·.graph.links) := by decide +kernel
  exact hne hlinks

end Session

end CellFlow
