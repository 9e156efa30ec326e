import CellFlow.Notebook.Load
import CellFlow.Proofs.Json.RoundTrip

/-!
Documents from memory and from files, for any reader of documents. What the reader gives is turned
into cells on both ways alike; what it fails with is reported in different ways, and what goes wrong
behind it is not reported at all.
-/

set_option autoImplicit false

namespace CellFlow.Notebook

/-- Cells are numbered on from a position, one after the other. -/
def AreNumberedFrom (position : Int) (cells : List Cell) : Prop :=
  cells.map Cell.position = (List.range cells.length).map fun i : Nat => position + i

theorem AreNumberedFrom.cons {c : Cell} {cells : List Cell} (h : AreNumberedFrom (c.position + 1) cells) :
    AreNumberedFrom c.position (c :: cells) := by
  rw [AreNumberedFrom, List.map_cons, List.length_cons, List.range_succ_eq_map, List.map_cons, List.map_map, h]
  refine congrArg₂ _ (by simp) (List.map_congr_left fun i _ => ?_)
  simp only [Function.comp_apply]
  omega

namespace Document

def form? : Value → Option Value
  | .object fs => Fields.get? fs "cell_type"
  | _ => none

def isCodeCell (v : Value) : Bool := (form? v).any Tidy.isCode

/-- A code cell of a document as a cell: its source, outputs and count. -/
def Holds (v : Value) (c : Cell) : Prop :=
  ∃ fs, v = .object fs ∧ Fields.get? fs "source" = some c.source ∧
    (Fields.getD fs "outputs" (.list [])).elements = .ok c.outputs ∧
    c.executionCount = Fields.getD fs "execution_count" .null ∧ c.label = .null

/-- The cells of a document: its code cells in their order, numbered from one on. -/
structure AreCellsOf (values : List Value) (cells : List Cell) : Prop where
  holds : List.Forall₂ Holds (values.filter isCodeCell) cells
  numbered : AreNumberedFrom 1 cells

/-- A part of a document that has a form, and if it is code, all that a cell needs. -/
def IsLoadable (v : Value) : Prop :=
  (form? v).isSome = true ∧ (isCodeCell v = true → ∃ c, Holds v c)

/-- Failures of attributes and types. -/
def IsShapeFault (f : Fault) : Prop := f.category = .attribute ∨ f.category = .type

section Cells

variable {v : Value} {values : List Value}

theorem member_form (v : Value) : (∃ form, form? v = some form ∧ v.member "cell_type" = .ok form) ∨
    form? v = none ∧ ∃ f, v.member "cell_type" = .error f ∧ f.category = .attribute := by
  cases v with
  | object fs =>
    rw [form?, Value.member]
    cases Fields.get? fs "cell_type" with
    | none => exact .inr ⟨rfl, _, rfl, rfl⟩
    | some form => exact .inl ⟨form, rfl, rfl⟩
  | null => exact .inr ⟨rfl, _, rfl, rfl⟩
  | bool b => exact .inr ⟨rfl, _, rfl, rfl⟩
  | int n => exact .inr ⟨rfl, _, rfl, rfl⟩
  | float x => exact .inr ⟨rfl, _, rfl, rfl⟩
  | text s => exact .inr ⟨rfl, _, rfl, rfl⟩
  | list xs => exact .inr ⟨rfl, _, rfl, rfl⟩

/-- The code cells are picked out when every part has a form. -/
theorem codeCells_cases (values : List Value) :
    (codeCells values = .ok (values.filter isCodeCell) ∧ ∀ v ∈ values, (form? v).isSome = true) ∨
    ∃ f, codeCells values = .error f ∧ f.category = .attribute ∧ ∃ v ∈ values, form? v = none := by
  induction values with
  | nil => exact .inl ⟨rfl, fun v hv => absurd hv List.not_mem_nil⟩
  | cons v values ih =>
    rw [codeCells]
    rcases member_form v with ⟨form, hform, hm⟩ | ⟨hform, f, hm, hf⟩
    · rw [hm, ok_bind]
      rcases ih with ⟨hc, hall⟩ | ⟨f, hc, hf, w, hw, hnone⟩
      · refine .inl ⟨?_, List.forall_mem_cons.2 ⟨by rw [hform]; rfl, hall⟩⟩
        rw [hc, ok_bind, List.filter_cons, isCodeCell, hform, Option.any_some]
        rfl
      · exact .inr ⟨f, by rw [hc]; rfl, hf, w, List.mem_cons_of_mem v hw, hnone⟩
    · exact .inr ⟨f, by rw [hm]; rfl, hf, v, List.mem_cons_self, hform⟩

theorem elements_cases (v : Value) : (∃ xs, v.elements = .ok xs) ∨ ∃ f, v.elements = .error f ∧ f.category = .type := by
  cases v with
  | list xs => exact .inl ⟨xs, rfl⟩
  | text s => exact .inl ⟨_, rfl⟩
  | object fs => exact .inl ⟨_, rfl⟩
  | null => exact .inr ⟨_, rfl, rfl⟩
  | bool b => exact .inr ⟨_, rfl, rfl⟩
  | int n => exact .inr ⟨_, rfl, rfl⟩
  | float x => exact .inr ⟨_, rfl, rfl⟩

theorem readCell_cases (position : Int) (hv : (form? v).isSome = true) :
    (∃ c, readCell position v = .ok c ∧ Holds v c ∧ c.position = position) ∨
    ∃ f, readCell position v = .error f ∧ IsShapeFault f ∧ ¬ ∃ c, Holds v c := by
  cases v with
  | object fs =>
    simp only [readCell, Value.fields, Value.member, ok_bind]
    rcases elements_cases (Fields.getD fs "outputs" (.list [])) with ⟨xs, hxs⟩ | ⟨f, hxs, hf⟩
    · rw [hxs, ok_bind]
      cases hs : Fields.get? fs "source" with
      | none =>
        refine .inr ⟨_, rfl, .inl rfl, ?_⟩
        rintro ⟨c, gs, he, hsource, -⟩
        cases he
        cases hs.symm.trans hsource
      | some source => exact .inl ⟨_, rfl, ⟨fs, rfl, hs, hxs, rfl, rfl⟩, rfl⟩
    · refine .inr ⟨f, by rw [hxs]; rfl, .inr hf, ?_⟩
      rintro ⟨c, gs, he, -, hout, -⟩
      cases he
      cases hxs.symm.trans hout
  | null => cases hv
  | bool b => cases hv
  | int n => cases hv
  | float x => cases hv
  | text s => cases hv
  | list xs => cases hv

theorem readCells_cases (position : Int) (hv : ∀ v ∈ values, (form? v).isSome = true) :
    (∃ cells, readCells position values = .ok cells ∧ List.Forall₂ Holds values cells ∧
      AreNumberedFrom position cells) ∨
    ∃ f, readCells position values = .error f ∧ IsShapeFault f ∧ ∃ v ∈ values, ¬ ∃ c, Holds v c := by
  induction values generalizing position with
  | nil => exact .inl ⟨[], rfl, .nil, rfl⟩
  | cons v values ih =>
    rw [List.forall_mem_cons] at hv
    rw [readCells]
    rcases readCell_cases position hv.1 with ⟨c, hc, hholds, hp⟩ | ⟨f, hc, hf, hno⟩
    · rw [hc, ok_bind]
      rcases ih (position + 1) hv.2 with ⟨cells, hcells, hall, hnumbered⟩ | ⟨f, hcells, hf, w, hw, hno⟩
      · refine .inl ⟨c :: cells, by rw [hcells]; rfl, .cons hholds hall, ?_⟩
        subst hp
        exact hnumbered.cons
      · exact .inr ⟨f, by rw [hcells]; rfl, hf, w, List.mem_cons_of_mem v hw, hno⟩
    · exact .inr ⟨f, by rw [hc]; rfl, hf, v, List.mem_cons_self, hno⟩

/-- A document comes to its cells when all of its parts can be loaded, and to a fault of shape
otherwise. -/
theorem cells_cases (values : List Value) :
    (∃ cells, Document.cells values = .ok cells ∧ AreCellsOf values cells ∧ ∀ v ∈ values, IsLoadable v) ∨
    ∃ f, Document.cells values = .error f ∧ IsShapeFault f ∧ ¬ ∀ v ∈ values, IsLoadable v := by
  rw [Document.cells]
  rcases codeCells_cases values with ⟨hc, hall⟩ | ⟨f, hc, hf, v, hv, hnone⟩
  · rw [hc, ok_bind]
    have hforms : ∀ v ∈ values.filter isCodeCell, (form? v).isSome = true :=
      fun v hv => hall v (List.mem_of_mem_filter hv)
    rcases readCells_cases 1 hforms with ⟨cells, hr, hholds, hps⟩ | ⟨f, hr, hf, v, hv, hno⟩
    · refine .inl ⟨cells, hr, ⟨hholds, hps⟩, fun v hv => ⟨hall v hv, fun hcode => ?_⟩⟩
      obtain ⟨c, -, h⟩ := exists_of_mem_forall₂ hholds.flip (List.mem_filter.2 ⟨hv, hcode⟩)
      exact ⟨c, h⟩
    · exact .inr ⟨f, hr, hf, fun h => hno ((h v (List.mem_of_mem_filter hv)).2 (List.of_mem_filter hv))⟩
  · refine .inr ⟨f, by rw [hc]; rfl, .inl hf, fun h => ?_⟩
    have hsome := (h v hv).1
    rw [hnone] at hsome
    cases hsome

end Cells

end Document

/-- What loading a file of a desk comes to. -/
def loadedFrom (reader : Reader) (desk : Desk) (path : FilePath) (verbose : Bool) : Outcome (List Cell) :=
  ((loadBy reader path verbose : Action (StateM Desk) (List Cell)).run.run desk).1

/-- The file at the path is named like a document, and its text reads as this one. -/
structure HoldsDocument (desk : Desk) (path : FilePath) (document : Value) : Prop where
  form : Form.ofPath? path = some .document
  exists_text : ∃ bytes text, desk.files.read path = .ok bytes ∧ decodeLines bytes = .ok text ∧
    Json.read text = .ok document

section Desks

variable {α β : Type} {act : Action (StateM Desk) α} {f : α → Action (StateM Desk) β} {a : α}
  {desk desk' : Desk}

theorem run_bind_of_ok (h : act.run.run desk = (.ok a, desk')) :
    (act >>= f).run.run desk = (f a).run.run desk' := by
  rw [ExceptT.run_bind, StateT.run_bind, h]
  rfl

theorem run_lift {step : StateM Desk α} (h : step.run desk = (a, desk')) :
    (ExceptT.lift step : Action (StateM Desk) α).run.run desk = (.ok a, desk') := by
  rw [ExceptT.run_lift, StateT.run_map, h]
  rfl

theorem run_sayIf (wanted : Bool) (s : String) (desk : Desk) :
    ∃ desk', (Action.sayIf wanted s : Action (StateM Desk) Unit).run.run desk = (.ok (), desk') := by
  cases wanted with
  | true => exact ⟨_, rfl⟩
  | false => exact ⟨desk, rfl⟩

end Desks

section Loading

variable {reader : Reader} {desk : Desk} {path : FilePath} {document : Value}

theorem isThere_of_read {t : FileTree} {bytes : ByteArray} (h : t.read path = .ok bytes) :
    t.isThere path = .ok true := by
  obtain ⟨entry, he, -⟩ := bind_eq_ok.1 h
  rw [FileTree.isThere, he]

/-- A file that is there is read as its name says. -/
theorem loadedFrom_of_read {form : Form} {bytes : ByteArray} (hform : Form.ofPath? path = some form)
    (hread : desk.files.read path = .ok bytes) (verbose : Bool) :
    loadedFrom reader desk path verbose = read reader form path.text (.ok bytes) := by
  have hthere : (Action.ofRefusal path.text (Host.isThere path) : Action (StateM Desk) Bool).run.run desk =
      (.ok true, desk) := by
    have hs : (Host.isThere path : StateM Desk _).run desk = (.ok true, desk) :=
      congrArg (·, desk) (isThere_of_read hread)
    rw [Action.ofRefusal, run_bind_of_ok (run_lift hs)]
    rfl
  have hfile : (fileAt path : StateM Desk _).run desk = (.ok bytes, desk) := by
    have hs : (Host.read path : StateM Desk _).run desk = (.ok bytes, desk) :=
      congrArg (·, desk) hread
    rw [fileAt, StateT.run_bind, hs]
    rfl
  rw [loadedFrom, loadBy, run_bind_of_ok hthere]
  simp only [Bool.not_true, Bool.false_eq_true, if_false, hform]
  rw [run_bind_of_ok (run_lift hfile)]
  cases hcells : read reader form path.text (.ok bytes) with
  | error f => rfl
  | ok cells =>
    obtain ⟨desk', hsay⟩ := run_sayIf verbose (notice cells.length path.text) desk
    have hgiven : (Action.ofOutcome (.ok cells) : Action (StateM Desk) (List Cell)).run.run desk =
        (.ok cells, desk) := rfl
    rw [run_bind_of_ok hgiven, run_bind_of_ok hsay]
    rfl

theorem readDocument_eq {bytes : ByteArray} {text : String} (ht : decodeLines bytes = .ok text)
    (hd : Json.read text = .ok document) : readDocument reader path.text (.ok bytes) =
      reporting path.text isDocumentFailure (reader document) >>= fun values => liftM (Document.cells values) := by
  have hdoc : Document.ofText text = .ok document := by rw [Document.ofText, hd]
  simp only [readDocument, ht, hdoc, ok_bind]

theorem loadedFrom_eq (h : HoldsDocument desk path document) (verbose : Bool) :
    loadedFrom reader desk path verbose =
      reporting path.text isDocumentFailure (reader document) >>= fun values => liftM (Document.cells values) := by
  obtain ⟨hform, bytes, text, hread, ht, hd⟩ := h
  rw [loadedFrom_of_read hform hread, read, readDocument_eq ht hd]

/-- A failure that says that a notebook cannot be read. -/
def IsUnreadable (o : Outcome (List Cell)) : Prop :=
  ∃ path reason, o = .error (.unreadableNotebook path reason)

/-- Loading comes to the same cells from memory and from a file, which are those of the document, or
says both times that it cannot be read. -/
def LoadsAlike (reader : Reader) (document : Value) (memory file : Outcome (List Cell)) : Prop :=
  (∃ values cells, reader document = .ok values ∧ memory = .ok cells ∧ file = .ok cells ∧
    Document.AreCellsOf values cells) ∨ IsUnreadable memory ∧ IsUnreadable file

theorem loads_of_ok {values : List Value} (h : HoldsDocument desk path document) (hv : reader document = .ok values)
    (verbose : Bool) : ofDocumentBy reader document = liftM (Document.cells values) ∧
      loadedFrom reader desk path verbose = liftM (Document.cells values) := by
  rw [loadedFrom_eq h, ofDocumentBy, hv]
  exact ⟨rfl, rfl⟩

theorem loads_of_error {f : Failure} (h : HoldsDocument desk path document) (hf : reader document = .error f)
    (verbose : Bool) : ofDocumentBy reader document =
      .error (if isMemoryFailure f then .unreadableNotebook documentName f.message else f) ∧
      loadedFrom reader desk path verbose =
        .error (if isDocumentFailure f then .unreadableNotebook path.text f.message else f) := by
  rw [loadedFrom_eq h, ofDocumentBy, hf]
  exact ⟨rfl, rfl⟩

theorem loadsAlike_of_ok {values : List Value} (hv : reader document = .ok values) :
    LoadsAlike reader document (liftM (Document.cells values)) (liftM (Document.cells values)) ↔
      ∀ v ∈ values, Document.IsLoadable v := by
  rcases Document.cells_cases values with ⟨cells, hc, hcells, hall⟩ | ⟨f, hc, -, hall⟩
  · rw [hc]
    exact ⟨fun _ => hall, fun _ => .inl ⟨values, cells, hv, rfl, rfl, hcells⟩⟩
  · rw [hc]
    refine ⟨fun h => ?_, fun h => absurd h hall⟩
    rcases h with ⟨_, _, _, hm, -⟩ | ⟨⟨_, _, hm⟩, -⟩
    · cases hm
    · cases hm

/-- What both ways report is what says of the document that it is no notebook. -/
theorem isReaderFailure_iff {f : Failure} :
    isReaderFailure f = true ↔ isMemoryFailure f = true ∧ isDocumentFailure f = true := by
  rw [isMemoryFailure, Bool.or_eq_true, decide_eq_true_eq]
  by_cases hf : ∃ why path, f = .refused why path
  · obtain ⟨why, path, rfl⟩ := hf
    have hkind : why.kindName ≠ "TypeError" := by cases why <;> decide
    simp [Failure.kindName, hkind, isDocumentFailure]
  · have hd : isDocumentFailure f = isReaderFailure f := by
      unfold isDocumentFailure
      split
      · exact absurd ⟨_, _, rfl⟩ hf
      · rfl
    rw [hd]
    exact ⟨fun h => ⟨.inl h, h⟩, And.right⟩

theorem loadsAlike_of_error {f g g' : Failure} (hf : reader document = .error f)
    (hg : g = if isMemoryFailure f then .unreadableNotebook documentName f.message else f)
    (hg' : g' = if isDocumentFailure f then .unreadableNotebook path.text f.message else f) :
    LoadsAlike reader document (.error g) (.error g') ↔
      isReaderFailure f = true ∨ ∃ path reason, f = .unreadableNotebook path reason := by
  constructor
  · rintro (⟨values, _, hv, -⟩ | ⟨⟨p, reason, he⟩, q, why, he'⟩)
    · cases hf.symm.trans hv
    · rw [Except.error.injEq] at he he'
      by_cases hm : isMemoryFailure f = true
      · by_cases hd : isDocumentFailure f = true
        · exact .inl (isReaderFailure_iff.2 ⟨hm, hd⟩)
        · rw [if_neg hd] at hg'
          exact .inr ⟨q, why, hg' ▸ he'⟩
      · rw [if_neg hm] at hg
        exact .inr ⟨p, reason, hg ▸ he⟩
  · rintro (h | ⟨p, reason, rfl⟩)
    · obtain ⟨hm, hd⟩ := isReaderFailure_iff.1 h
      rw [hg, hg', if_pos hm, if_pos hd]
      exact .inr ⟨⟨_, _, rfl⟩, _, _, rfl⟩
    · rw [hg, hg']
      exact .inr ⟨⟨p, reason, rfl⟩, p, reason, rfl⟩

/-- Both ways go on alike with what the reader gives, so they fail alike where a part of it has not
the shape of a cell; when the reader itself fails, each way reports failures of its own kinds. So they
load alike exactly when the reader fails in a way that both report, or all that it gives can be loaded. -/
theorem loadsAlike_iff (reader : Reader) (verbose : Bool) (h : HoldsDocument desk path document) :
    (∀ values, reader document = .ok values →
      ofDocumentBy reader document = loadedFrom reader desk path verbose ∧
      ((∃ cells, ofDocumentBy reader document = .ok cells ∧ Document.AreCellsOf values cells) ∨
        ∃ f, ofDocumentBy reader document = .error (.fault f) ∧ Document.IsShapeFault f)) ∧
    (∀ f, reader document = .error f →
      ofDocumentBy reader document =
        .error (if isMemoryFailure f then .unreadableNotebook documentName f.message else f) ∧
      loadedFrom reader desk path verbose =
        .error (if isDocumentFailure f then .unreadableNotebook path.text f.message else f)) ∧
    (LoadsAlike reader document (ofDocumentBy reader document) (loadedFrom reader desk path verbose) ↔
      (∀ f, reader document = .error f → isReaderFailure f = true ∨
        ∃ path reason, f = .unreadableNotebook path reason) ∧
      ∀ values, reader document = .ok values → ∀ v ∈ values, Document.IsLoadable v) := by
  refine ⟨fun values hv => ?_, fun f hf => loads_of_error h hf verbose, ?_⟩
  · obtain ⟨hm, hl⟩ := loads_of_ok h hv verbose
    rw [hm, hl]
    refine ⟨rfl, ?_⟩
    rcases Document.cells_cases values with ⟨cells, hc, hcells, -⟩ | ⟨f, hc, hf, -⟩
    · exact .inl ⟨cells, by rw [hc]; rfl, hcells⟩
    · exact .inr ⟨f, by rw [hc]; rfl, hf⟩
  · cases hr : reader document with
    | ok values =>
      obtain ⟨hm, hl⟩ := loads_of_ok h hr verbose
      rw [hm, hl, loadsAlike_of_ok hr]
      constructor
      · intro hall
        refine ⟨fun f hf => (nomatch hf), fun values' hv => ?_⟩
        rwa [← Except.ok.inj hv]
      · exact fun hall => hall.2 values rfl
    | error f =>
      obtain ⟨hm, hl⟩ := loads_of_error h hr verbose
      rw [hm, hl, loadsAlike_of_error hr rfl rfl]
      constructor
      · intro hd
        refine ⟨fun f' hf => ?_, fun values hv => (nomatch hv)⟩
        rwa [← Except.error.inj hf]
      · exact fun hall => hall.1 f rfl

end Loading

theorem fromUTF8?_toUTF8 (s : String) : String.fromUTF8? s.toUTF8 = some s := by
  rw [String.fromUTF8?, String.toUTF8_eq_toByteArray, dif_pos s.isValidUTF8]
  rfl

theorem plainLines_of_not_mem {s : List Char} (h : '\r' ∉ s) : Text.plainLines s = s := by
  fun_induction Text.plainLines s with
  | case1 => rfl
  | case2 s ih => exact absurd List.mem_cons_self h
  | case3 c s _ ih =>
    rw [List.mem_cons, not_or] at h
    rw [if_neg (Ne.symm h.1), ih h.2]

theorem decodeLines_toUTF8 {s : String} (h : '\r' ∉ s.toList) : decodeLines s.toUTF8 = .ok s := by
  rw [decodeLines, decode, fromUTF8?_toUTF8]
  change Except.ok (String.ofList (Text.plainLines s.toList)) = .ok s
  rw [plainLines_of_not_mem h, String.ofList_toList]

/-- A desk with one file on it. -/
def deskWith (name text : String) : Desk := { files := ⟨Table.empty.put [name] (.file (.text text))⟩ }

/-- A document is held by the file it is written to. -/
theorem holdsDocument_write {document : Value} (hk : document.IsKeyed)
    (hf : Json.fits Json.maxDepth document = true)
    (hr : '\r' ∉ (Json.write Json.oneLine document).toList) :
    HoldsDocument (deskWith "n.ipynb" (Json.write Json.oneLine document)) (.ofText "n.ipynb") document := by
  have hb : Json.oneLine.IsBlank := fun _ h => nomatch h
  exact ⟨by decide, _, _, rfl, decodeLines_toUTF8 hr, Json.read_write hb rfl hk hf⟩

theorem loadsAlike_iff_first :
    let document : Value := .object [("nbformat", .int 1),
      ("cells", .list [.object [("cell_type", .text "code"), ("code", .text "a = 1")]])]
    let desk := deskWith "n.ipynb" (Json.write Json.oneLine document)
    HoldsDocument desk (.ofText "n.ipynb") document ∧
      LoadsAlike Document.currentCells document (ofDocument document)
        (loadedFrom Document.currentCells desk (.ofText "n.ipynb") true) := by
  intro document desk
  have hcell : (Value.object [("cell_type", .text "code"), ("code", .text "a = 1")]).IsKeyed :=
    .of_atoms ⟨by simp [Key.kind], by simp⟩ (by simp [Value.key?])
  have hk : document.IsKeyed := .object ⟨by simp [Key.kind], by simp⟩ fun f hf => by
    simp only [List.mem_cons, List.not_mem_nil, or_false] at hf
    rcases hf with rfl | rfl
    · exact .atom rfl
    · exact .list fun v hv => by rwa [List.mem_singleton.1 hv]
  have h : HoldsDocument desk (.ofText "n.ipynb") document :=
    holdsDocument_write hk (by decide +kernel) (by decide +kernel)
  have hr : Document.currentCells document = .ok [Legacy.codeCell (.text "a = 1") .null] := by rfl
  refine ⟨h, (loadsAlike_iff Document.currentCells true h).2.2.2 ⟨fun f hf => ?_, fun values hv => ?_⟩⟩
  · cases hr.symm.trans hf
  · obtain rfl := Except.ok.inj (hr.symm.trans hv)
    intro v hv
    obtain rfl := List.mem_singleton.1 hv
    exact ⟨rfl, fun _ => ⟨{ position := 1, source := .text "a = 1" }, _, rfl, rfl, rfl, rfl, rfl⟩⟩

/-- A version that cannot be a key makes a document in memory no notebook, and stops the loading of
a file. -/
theorem not_loadsAlike : ¬ ∀ (desk : Desk) (path : FilePath) (document : Value),
    HoldsDocument desk path document → LoadsAlike Document.currentCells document (ofDocument document)
      (loadedFrom Document.currentCells desk path false) := by
  intro hall
  have hk : (Value.object [("nbformat", .list [])]).IsKeyed :=
    .object ⟨by simp [Key.kind], by simp⟩ fun f hf => by
      obtain rfl := List.mem_singleton.1 hf
      exact .list fun v hv => nomatch hv
  have h := holdsDocument_write hk (by decide +kernel) (by decide +kernel)
  have hr : Document.currentCells (.object [("nbformat", .list [])]) = .error (.fault (.notAKey .list)) := by rfl
  obtain ⟨-, hfile⟩ := loads_of_error h hr false
  rcases hall _ _ _ h with ⟨values, _, hv, -⟩ | ⟨-, _, _, hu⟩
  · cases hr.symm.trans hv
  · cases hfile.symm.trans hu

end CellFlow.Notebook
