import CellFlow.CommandLine.Run
import CellFlow.Proofs.Files.Paths
import CellFlow.Proofs.Json.Characters
import CellFlow.Proofs.Notebook.Documents
import CellFlow.Proofs.Settings.Records

/-!
Settings are read back from what is written of them; and what is read from an object holds the
values that the object gives, and standard values for what it does not name.
-/

set_option autoImplicit false

namespace CellFlow.Settings

/-- Settings as they can be made: the layout passes its checks, the size of a figure is a list of
sides, and the folder is the path of a text. All other fields hold any values. -/
structure IsMade (s : Settings) : Prop where
  layout : s.layout.check = .ok ()
  figsize : ∃ sides, s.figure.figsize = .list sides
  outputFolder : ∃ text, s.outputFolder = .ofText text

/-- The fields that an object holds under a name, none where it holds no object. -/
def sectionAt (fs : Fields) (key : String) : Fields :=
  match Fields.getD fs key (.object []) with
  | .object g => g
  | _ => []

/-- Under a name, if anything, stands an object that names only fields of a record. -/
structure HasSection (fs : Fields) (key : String) (standard : Fields) : Prop where
  eq_object : Fields.getD fs key (.object []) = .object (sectionAt fs key)
  areAmong : Fields.AreAmong standard (sectionAt fs key)

/-- An object whose sections are objects without unknown names. -/
structure IsDocument (fs : Fields) : Prop where
  parsing : HasSection fs "parsing" ({} : ParsingSettings).toFields
  artifacts : HasSection fs "artifacts" ({} : ArtifactSettings).toFields
  layout : HasSection fs "layout" ({} : LayoutSettings).toFields
  figure : HasSection fs "visualization" ({} : FigureSettings).toFields

/-- Each field holds what the section gives for it, or else its standard value. -/
def HoldsSection (given standard held : Fields) : Prop :=
  ∀ name : String, Fields.get? held name = (Fields.get? given name).or (Fields.get? standard name)

/-- The sides of a figure as a section gives them, if it does. -/
def sidesOf (given : Fields) : Except Fault (Option (List Value)) :=
  match Fields.get? given "figsize" with
  | none => .ok none
  | some v => v.elements.map some

/-- As for any section, but for the size: it is held as the list of the sides that are given. -/
structure HoldsFigure (given : Fields) (figure : FigureSettings) : Prop where
  others : ∀ name : String, name ≠ "figsize" → Fields.get? figure.toFields name =
    (Fields.get? given name).or (Fields.get? ({} : FigureSettings).toFields name)
  figsize : ∃ sides, sidesOf given = .ok sides ∧
    figure.figsize = (sides.map Value.list).getD ({} : FigureSettings).figsize

/-- The folder is the path of the text that an object gives for it, or else the standard one. -/
def HoldsFolder (fs : Fields) (folder : FilePath) : Prop :=
  match Fields.get? fs "output_dir" with
  | none => folder = ({} : Settings).outputFolder
  | some v => ∃ text, v = .text text ∧ folder = .ofText text

/-- Settings hold what an object gives: the folder as a path, the size of a figure as a list, all else
as it is. What the object does not give has its standard value. -/
structure Holds (s : Settings) (fs : Fields) : Prop where
  parsing : HoldsSection (sectionAt fs "parsing") ({} : ParsingSettings).toFields s.parsing.toFields
  artifacts : HoldsSection (sectionAt fs "artifacts") ({} : ArtifactSettings).toFields s.artifacts.toFields
  layout : HoldsSection (sectionAt fs "layout") ({} : LayoutSettings).toFields s.layout.toFields
  figure : HoldsFigure (sectionAt fs "visualization") s.figure
  outputFolder : HoldsFolder fs s.outputFolder
  verbose : s.verbose = Fields.getD fs "verbose" ({} : Settings).verbose

/-- The values that an object gives are as they have to be: the layout, where it is standard but for
them, passes its checks, the size of a figure has sides, and the folder is a text if it is given. -/
structure IsAccepted (fs : Fields) : Prop where
  layout : ∃ l : LayoutSettings,
    HoldsSection (sectionAt fs "layout") ({} : LayoutSettings).toFields l.toFields ∧ l.check = .ok ()
  figsize : ∃ sides, sidesOf (sectionAt fs "visualization") = .ok sides
  outputFolder : ∀ v, Fields.get? fs "output_dir" = some v → ∃ text, v = .text text

variable {s : Settings} {fs given standard : Fields} {key : String}

/-! What the parts of an object are read as -/

section

variable {σ : Type} {set : Setter σ} {fields : σ → Fields} {r t : σ}

theorem HasSection.readSection_eq_ok_iff (h : HasSection fs key (fields r)) (hr : IsRecord set fields)
    (callee : String) : readSection callee set r (Fields.getD fs key (.object [])) = .ok t ↔
      HoldsSection (sectionAt fs key) (fields r) (fields t) := by
  rw [h.eq_object]
  exact hr.readFields_eq_ok_iff h.areAmong callee

theorem HasSection.exists_holdsSection (h : HasSection fs key (fields r)) (hr : IsRecord set fields) :
    ∃ t, HoldsSection (sectionAt fs key) (fields r) (fields t) := by
  obtain ⟨t, ht, -⟩ := hr.exists_readFields h.areAmong ""
  exact ⟨t, (hr.readFields_eq_ok_iff h.areAmong "").1 ht⟩

end

theorem layoutOfValue_eq_ok_iff {v : Value} {l : LayoutSettings} : LayoutSettings.ofValue v = .ok l ↔
    readSection "LayoutConfig" LayoutSettings.set {} v = .ok l ∧ l.check = .ok () := by
  simp only [LayoutSettings.ofValue, bind_eq_ok, liftM_eq_ok, pure_eq_ok, Except.ok.injEq]
  constructor
  · rintro ⟨_, hl, _, hc, rfl⟩
    exact ⟨hl, hc⟩
  · rintro ⟨hl, hc⟩
    exact ⟨l, hl, (), hc, rfl⟩

/-- A section where the sides of the figure, if it gives any, are put in as a list. -/
def withSides (given : Fields) : Option (List Value) → Fields
  | none => given
  | some sides => Fields.set given "figsize" (.list sides)

theorem figureFields_eq (h : HasSection fs "visualization" standard) :
    figureFields fs = (sidesOf (sectionAt fs "visualization")).map
      (withSides (sectionAt fs "visualization")) := by
  rw [figureFields, h.eq_object, Value.toFields, ok_bind, sidesOf]
  cases Fields.get? (sectionAt fs "visualization") "figsize" with
  | none => rfl
  | some v =>
    dsimp only
    cases v.elements <;> rfl

section

variable {sides : Option (List Value)} {figure : FigureSettings}

theorem get?_withSides (hg : given.AreKeyed) (h : sidesOf given = .ok sides) (name : String) :
    Fields.get? (withSides given sides) name =
      if name = "figsize" then sides.map Value.list else Fields.get? given name := by
  cases sides with
  | some sides => rw [withSides, hg.get?_set, Option.map_some]
  | none =>
    split
    · rename_i hn
      rw [sidesOf] at h
      split at h
      · rwa [hn]
      · rename_i v _
        cases hv : v.elements <;> simp [hv, Except.map] at h
    · rfl

theorem areAmong_withSides (hg : Fields.AreAmong ({} : FigureSettings).toFields given)
    (sides : Option (List Value)) : Fields.AreAmong ({} : FigureSettings).toFields (withSides given sides) := by
  cases sides with
  | none => exact hg
  | some sides =>
    refine ⟨hg.areKeyed.set, fun f hf => ?_⟩
    rcases hg.areKeyed.mem_set hf with hf | rfl
    · exact hg.known f hf
    · simp [FigureSettings.toFields]

theorem get?_figsize (figure : FigureSettings) :
    Fields.get? figure.toFields "figsize" = some figure.figsize := by
  rw [(FigureSettings.isRecord.areKeyed figure).get?_eq_some_iff]
  simp [FigureSettings.toFields]

theorem holdsSection_withSides_iff (hg : given.AreKeyed) (h : sidesOf given = .ok sides) :
    HoldsSection (withSides given sides) ({} : FigureSettings).toFields figure.toFields ↔
      HoldsFigure given figure := by
  have hsize (t : FigureSettings) : some figure.figsize = (sides.map Value.list).or (some t.figsize) ↔
      figure.figsize = (sides.map Value.list).getD t.figsize := by
    cases sides <;> simp
  constructor
  · intro hh
    refine ⟨fun name hn => ?_, sides, h, ?_⟩
    · rw [hh name, get?_withSides hg h, if_neg hn]
    · have hs := hh "figsize"
      rw [get?_withSides hg h, if_pos rfl, get?_figsize, get?_figsize, hsize] at hs
      exact hs
  · rintro ⟨hothers, sides', h', hs⟩ name
    obtain rfl : sides = sides' := Except.ok.inj (h.symm.trans h')
    rw [get?_withSides hg h]
    split
    · rename_i hn
      rw [hn, get?_figsize, get?_figsize, hsize]
      exact hs
    · exact hothers name ‹_›

/-- The figure is read as what the section gives. -/
theorem figure_eq_ok_iff (h : HasSection fs "visualization" ({} : FigureSettings).toFields) :
    (∃ given, figureFields fs = .ok given ∧ FigureSettings.ofValue (.object given) = .ok figure) ↔
      HoldsFigure (sectionAt fs "visualization") figure := by
  rw [figureFields_eq h]
  constructor
  · rintro ⟨given, hg, hf⟩
    cases hs : sidesOf (sectionAt fs "visualization") with
    | error e => simp [hs, Except.map] at hg
    | ok sides =>
      obtain rfl : withSides _ sides = given := by simpa [hs, Except.map] using hg
      exact (holdsSection_withSides_iff h.areAmong.areKeyed hs).1
        ((FigureSettings.isRecord.readFields_eq_ok_iff (areAmong_withSides h.areAmong sides) _).1 hf)
  · intro hf
    obtain ⟨sides, hs, -⟩ := hf.figsize
    refine ⟨_, by rw [hs]; rfl, ?_⟩
    exact (FigureSettings.isRecord.readFields_eq_ok_iff (areAmong_withSides h.areAmong sides) _).2
      ((holdsSection_withSides_iff h.areAmong.areKeyed hs).2 hf)

theorem exists_holdsFigure (h : HasSection fs "visualization" ({} : FigureSettings).toFields)
    (hs : sidesOf (sectionAt fs "visualization") = .ok sides) :
    ∃ figure, HoldsFigure (sectionAt fs "visualization") figure := by
  have hg := areAmong_withSides h.areAmong sides
  obtain ⟨figure, hf, -⟩ := FigureSettings.isRecord.exists_readFields hg ""
  exact ⟨figure, (holdsSection_withSides_iff h.areAmong.areKeyed hs).1
    ((FigureSettings.isRecord.readFields_eq_ok_iff hg "").1 hf)⟩

end

theorem standardFolder_eq : ({} : Settings).outputFolder = .ofText "flowgraph_output" := by decide

theorem folder_eq_ok_iff {folder : FilePath} :
    FilePath.ofValue (Fields.getD fs "output_dir" (.text "flowgraph_output")) = .ok folder ↔
      HoldsFolder fs folder := by
  have hd : Fields.getD fs "output_dir" (.text "flowgraph_output") =
      (Fields.get? fs "output_dir").getD (.text "flowgraph_output") := rfl
  rw [hd, HoldsFolder]
  cases Fields.get? fs "output_dir" with
  | none =>
    change FilePath.ofValue (.text "flowgraph_output") = .ok folder ↔ folder = ({} : Settings).outputFolder
    rw [standardFolder_eq, FilePath.ofValue, Except.ok.injEq, eq_comm]
  | some v => cases v <;> simp [FilePath.ofValue, eq_comm]

theorem exists_holdsFolder (h : ∀ v, Fields.get? fs "output_dir" = some v → ∃ text, v = .text text) :
    ∃ folder, HoldsFolder fs folder := by
  unfold HoldsFolder
  cases hv : Fields.get? fs "output_dir" with
  | none => exact ⟨_, rfl⟩
  | some v =>
    obtain ⟨text, rfl⟩ := h v hv
    exact ⟨_, text, rfl, rfl⟩

theorem HoldsFolder.exists_ofText {folder : FilePath} (h : HoldsFolder fs folder) :
    ∃ text, folder = .ofText text := by
  unfold HoldsFolder at h
  split at h
  · exact ⟨_, h.trans standardFolder_eq⟩
  · exact h.imp fun _ => And.right

theorem HoldsFolder.eq_text {folder : FilePath} (h : HoldsFolder fs folder) {v : Value}
    (hv : Fields.get? fs "output_dir" = some v) : ∃ text, v = .text text := by
  rw [HoldsFolder, hv] at h
  exact h.imp fun _ => And.left

/-- An object is read part by part. -/
theorem ofValue_eq_ok_iff : ofValue (.object fs) = .ok s ↔
    (∃ given, figureFields fs = .ok given ∧ FigureSettings.ofValue (.object given) = .ok s.figure) ∧
    ParsingSettings.ofValue (Fields.getD fs "parsing" (.object [])) = .ok s.parsing ∧
    ArtifactSettings.ofValue (Fields.getD fs "artifacts" (.object [])) = .ok s.artifacts ∧
    LayoutSettings.ofValue (Fields.getD fs "layout" (.object [])) = .ok s.layout ∧
    FilePath.ofValue (Fields.getD fs "output_dir" (.text "flowgraph_output")) = .ok s.outputFolder ∧
    s.verbose = Fields.getD fs "verbose" (.bool true) := by
  simp only [ofValue, Value.fields, liftM_ok, ok_bind, bind_eq_ok, liftM_eq_ok, pure_eq_ok, Except.ok.injEq]
  constructor
  · rintro ⟨given, hg, parsing, hp, artifacts, ha, layout, hl, figure, hf, folder, ho, rfl⟩
    exact ⟨⟨given, hg, hf⟩, hp, ha, hl, ho, rfl⟩
  · rintro ⟨⟨given, hg, hf⟩, hp, ha, hl, ho, hv⟩
    exact ⟨given, hg, _, hp, _, ha, _, hl, _, hf, _, ho, by rw [← hv]⟩

/-- What is read from an object holds what the object gives, and is read only if the layout passes. -/
theorem IsDocument.ofValue_eq_ok_iff (h : IsDocument fs) :
    ofValue (.object fs) = .ok s ↔ s.Holds fs ∧ s.layout.check = .ok () := by
  have hp := h.parsing.readSection_eq_ok_iff ParsingSettings.isRecord "ParsingConfig" (t := s.parsing)
  have ha := h.artifacts.readSection_eq_ok_iff ArtifactSettings.isRecord "ArtifactConfig" (t := s.artifacts)
  have hl := h.layout.readSection_eq_ok_iff LayoutSettings.isRecord "LayoutConfig" (t := s.layout)
  rw [Settings.ofValue_eq_ok_iff, figure_eq_ok_iff h.figure, ParsingSettings.ofValue, hp,
    ArtifactSettings.ofValue, ha, layoutOfValue_eq_ok_iff, hl, folder_eq_ok_iff]
  constructor
  · rintro ⟨hf, hp, ha, ⟨hl, hc⟩, ho, hv⟩
    exact ⟨⟨hp, ha, hl, hf, ho, hv⟩, hc⟩
  · rintro ⟨⟨hp, ha, hl, hf, ho, hv⟩, hc⟩
    exact ⟨hf, hp, ha, ⟨hl, hc⟩, ho, hv⟩

theorem Holds.isMade (h : s.Holds fs) (hc : s.layout.check = .ok ()) : s.IsMade where
  layout := hc
  figsize := by
    obtain ⟨sides, -, hs⟩ := h.figure.figsize
    cases sides with
    | none => exact ⟨_, hs⟩
    | some sides => exact ⟨sides, hs⟩
  outputFolder := h.outputFolder.exists_ofText

/-- It takes values that are as they have to be, and no more. -/
theorem IsDocument.exists_ofValue_iff (h : IsDocument fs) :
    (∃ s, ofValue (.object fs) = .ok s) ↔ IsAccepted fs := by
  simp only [h.ofValue_eq_ok_iff]
  constructor
  · rintro ⟨s, hs, hc⟩
    exact ⟨⟨s.layout, hs.layout, hc⟩, hs.figure.figsize.imp fun _ => And.left,
      fun v => hs.outputFolder.eq_text⟩
  · rintro ⟨⟨layout, hl, hc⟩, ⟨sides, hs⟩, ht⟩
    obtain ⟨parsing, hp⟩ := h.parsing.exists_holdsSection ParsingSettings.isRecord
    obtain ⟨artifacts, ha⟩ := h.artifacts.exists_holdsSection ArtifactSettings.isRecord
    obtain ⟨figure, hf⟩ := exists_holdsFigure h.figure hs
    obtain ⟨folder, ho⟩ := exists_holdsFolder ht
    exact ⟨⟨parsing, artifacts, layout, figure, folder, Fields.getD fs "verbose" (.bool true)⟩,
      ⟨hp, ha, hl, hf, ho, rfl⟩, hc⟩

/-! What is written of settings -/

/-- Settings as an object, where the size of the figure is a list. -/
def toFields (s : Settings) : Fields :=
  [("parsing", s.parsing.toValue), ("artifacts", s.artifacts.toValue), ("layout", s.layout.toValue),
    ("visualization", .object s.figure.toFields), ("output_dir", .text s.outputFolder.text),
    ("verbose", s.verbose)]

theorem IsMade.toValue_eq (h : s.IsMade) : s.toValue = .ok (.object s.toFields) := by
  obtain ⟨sides, hs⟩ := h.figsize
  rw [toValue, FigureSettings.toValue_eq hs, ok_bind]
  rfl

theorem isDocument_toFields (s : Settings) : IsDocument s.toFields where
  parsing := ⟨rfl, ParsingSettings.isRecord.areAmong {} s.parsing⟩
  artifacts := ⟨rfl, ArtifactSettings.isRecord.areAmong {} s.artifacts⟩
  layout := ⟨rfl, LayoutSettings.isRecord.areAmong {} s.layout⟩
  figure := ⟨rfl, FigureSettings.isRecord.areAmong {} s.figure⟩

/-- A section that names all fields leaves none to its standard value. -/
theorem holdsSection_fields {σ : Type} {set : Setter σ} {fields : σ → Fields} (h : IsRecord set fields)
    (r t : σ) : HoldsSection (fields t) (fields r) (fields t) :=
  (h.readFields_eq_ok_iff (h.areAmong r t) "").1 (h.readFields_fields "" r t)

/-- Settings hold what is written of them. -/
theorem IsMade.holds_toFields (h : s.IsMade) : s.Holds s.toFields where
  parsing := holdsSection_fields ParsingSettings.isRecord {} s.parsing
  artifacts := holdsSection_fields ArtifactSettings.isRecord {} s.artifacts
  layout := holdsSection_fields LayoutSettings.isRecord {} s.layout
  figure := by
    obtain ⟨sides, hs⟩ := h.figsize
    refine ⟨fun name _ => holdsSection_fields FigureSettings.isRecord {} s.figure name, some sides, ?_, hs⟩
    change sidesOf s.figure.toFields = _
    rw [sidesOf, get?_figsize, hs]
    rfl
  outputFolder := by
    obtain ⟨text, ht⟩ := h.outputFolder
    exact ⟨s.outputFolder.text, rfl, by rw [ht, FilePath.ofText_text_ofText]⟩
  verbose := rfl

/-- What is written of settings is read as the same settings. -/
theorem IsMade.ofValue_toFields (h : s.IsMade) : ofValue (.object s.toFields) = .ok s :=
  (isDocument_toFields s).ofValue_eq_ok_iff.2 ⟨h.holds_toFields, h.layout⟩

theorem settingsIn_write {v : Value} (hv : ofValue v = .ok s)
    (hr : Json.read (Json.write savedLayout v) = .ok v) (name : String) :
    CommandLine.settingsIn name (.ok (Json.write savedLayout v).toUTF8) = .ok s := by
  have hl : savedLayout.IsPlain := by
    rintro _ ⟨⟩
    exact List.all_eq_true.1 rfl
  have hread : CommandLine.readJson (.ok (Json.write savedLayout v).toUTF8) = .ok v := by
    rw [CommandLine.readJson, ok_bind,
      Notebook.decodeLines_toUTF8 (Json.carriageReturn_not_mem_write hl v), ok_bind, hr]
    rfl
  rw [CommandLine.settingsIn, hread, ok_bind, hv]

/-- Settings survive saving: what is written of them is read back as they are, from the object and,
as far as the reader of documents gives it back, from the file. An object without unknown names is
read where its values are accepted, and as the settings that hold what it gives and standard values
for the rest; these survive too. -/
theorem survive_saving : (∀ s : Settings, s.IsMade → ∃ v, s.toValue = .ok v ∧ ofValue v = .ok s ∧
      s.text = .ok (Json.write savedLayout v) ∧ (Json.read (Json.write savedLayout v) = .ok v →
        ∀ name, CommandLine.settingsIn name (.ok (Json.write savedLayout v).toUTF8) = .ok s)) ∧
    ∀ fs, IsDocument fs → ((∃ s, ofValue (.object fs) = .ok s) ↔ IsAccepted fs) ∧
      ∀ s, ofValue (.object fs) = .ok s → s.Holds fs ∧ ∃ v, s.toValue = .ok v ∧ ofValue v = .ok s := by
  constructor
  · intro s hs
    refine ⟨_, hs.toValue_eq, hs.ofValue_toFields, ?_, settingsIn_write hs.ofValue_toFields⟩
    rw [text, hs.toValue_eq, ok_bind]
    rfl
  · intro fs h
    refine ⟨h.exists_ofValue_iff, fun s hs => ?_⟩
    obtain ⟨hh, hc⟩ := h.ofValue_eq_ok_iff.1 hs
    have hm : s.IsMade := hh.isMade hc
    exact ⟨hh, _, hm.toValue_eq, hm.ofValue_toFields⟩

theorem survive_saving_turned :
    let s : Settings := {
      layout := { rankDirection := .text "LR", artifactRadius := .int 120 }
      figure := { dpi := .int 200, figsize := .list [.int 8, .int 6] }
      outputFolder := .ofText "//out/./charts/"
      verbose := .bool false }
    let fs : Fields := [("layout", .object [("artifact_radius", .int 120)]),
      ("visualization", .object [("figsize", .list [.int 8, .int 6])])]
    (∃ v, s.toValue = .ok v ∧
      CommandLine.settingsIn "s.json" (.ok (Json.write savedLayout v).toUTF8) = .ok s) ∧
      ∃ r, ofValue (.object fs) = .ok r ∧ r.Holds fs := by
  intro s fs
  have hs : s.IsMade := ⟨rfl, ⟨_, rfl⟩, ⟨_, rfl⟩⟩
  have hlist (xs : List Value) (h : xs.all (·.key?.isSome) = true) : (Value.list xs).IsKeyed :=
    .list fun x hx => .atom (List.all_eq_true.1 h x hx)
  have hk : (Value.object s.toFields).IsKeyed := by
    refine .object ⟨by simp [toFields, Key.kind], by simp [toFields]⟩ ?_
    simp only [toFields, List.forall_mem_cons]
    refine ⟨.object (ParsingSettings.isRecord.areKeyed _) ?_,
      .object (ArtifactSettings.isRecord.areKeyed _) ?_,
      .of_atoms (LayoutSettings.isRecord.areKeyed _) (List.all_eq_true.1 rfl),
      .object (FigureSettings.isRecord.areKeyed _) ?_, .atom rfl, .atom rfl, by simp⟩
    · simp only [ParsingSettings.toFields, List.forall_mem_cons]
      exact ⟨.atom rfl, hlist _ rfl, by simp⟩
    · simp only [ArtifactSettings.toFields, List.forall_mem_cons]
      exact ⟨.atom rfl, hlist _ rfl, hlist _ rfl, .atom rfl, .atom rfl, by simp⟩
    · simp only [FigureSettings.toFields, List.forall_mem_cons]
      exact ⟨.atom rfl, .atom rfl, .atom rfl, hlist _ rfl, hlist _ rfl, .atom rfl, .atom rfl, by simp⟩
  have hb : savedLayout.IsBlank := by
    rintro _ ⟨⟩
    exact List.all_eq_true.1 rfl
  have hnone (standard : Fields) : Fields.AreAmong standard [] := ⟨⟨by simp, by simp⟩, by simp⟩
  have hone (standard : Fields) (name : String) (v : Value) (h : Key.text name ∈ standard.map (·.1)) :
      Fields.AreAmong standard [(.text name, v)] := ⟨⟨by simp [Key.kind], by simp⟩, by simpa using h⟩
  have hf : IsDocument fs := ⟨⟨rfl, hnone _⟩, ⟨rfl, hnone _⟩,
    ⟨rfl, hone _ _ _ (by simp [LayoutSettings.toFields])⟩,
    ⟨rfl, hone _ _ _ (by simp [FigureSettings.toFields])⟩⟩
  have ha : IsAccepted fs := ⟨⟨{ artifactRadius := .int 120 },
    (hf.layout.readSection_eq_ok_iff LayoutSettings.isRecord "LayoutConfig").1 rfl, rfl⟩, ⟨_, rfl⟩,
    fun v hv => by cases hv⟩
  constructor
  · obtain ⟨v, hv, -, -, hread⟩ := survive_saving.1 s hs
    obtain rfl : Value.object s.toFields = v := Except.ok.inj (hs.toValue_eq.symm.trans hv)
    exact ⟨_, hv, hread (Json.read_write hb rfl hk (by decide +kernel)) "s.json"⟩
  · obtain ⟨r, hr⟩ := (survive_saving.2 fs hf).1.2 ha
    exact ⟨r, hr, ((survive_saving.2 fs hf).2 r hr).1⟩

end CellFlow.Settings
