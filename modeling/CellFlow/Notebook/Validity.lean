import CellFlow.Data.Access

/-!
Which notebook documents keep to the rules of their format. A document that breaks a rule is
read all the same, but the first broken rule is looked into: where it is that a cell has none
of the known forms, the form is taken for a text.
-/

set_option autoImplicit false

namespace CellFlow.Notebook.Validity

abbrev Test := Value → Bool

def isText : Test
  | .text _ => true
  | _ => false

def isObject : Test
  | .object _ => true
  | _ => false

def isBool : Test
  | .bool _ => true
  | _ => false

def isListOf (test : Test) : Test
  | .list xs => xs.all test
  | _ => false

def isAtLeast (n : Int) : Test
  | .int k => n ≤ k
  | _ => false

def orNull (test : Test) : Test
  | .null => true
  | v => test v

def isOneOf (names : List String) : Test
  | .text s => names.contains s
  | _ => false

def isLines : Test := fun v => isText v || isListOf isText v

/-- The rules for an object: fields that must be there, tests for fields that may be there, and
whether there may be others. -/
structure Shape where
  needed : List String := []
  tests : List (String × Test) := []
  isOpen : Bool := false

namespace Shape

def knows (s : Shape) (key : Key) : Bool := s.tests.any fun t => key == .text t.1

def hasNoStranger (s : Shape) (fs : Fields) : Bool := s.isOpen || fs.all fun f => s.knows f.1

def hasNeeded (s : Shape) (fs : Fields) : Bool := s.needed.all fun key => (Fields.get? fs key).isSome

def passes (fs : Fields) (t : String × Test) : Bool := ((Fields.get? fs t.1).map t.2).getD true

def holds (s : Shape) : Test
  | .object fs => s.hasNoStranger fs && s.hasNeeded fs && s.tests.all (passes fs)
  | _ => false

end Shape

structure Revision where
  hasIds : Bool
  hasAttachments : Bool
  hasFreeDocuments : Bool
  /-- A later revision than is known: unknown fields and forms are let pass. -/
  isFuture : Bool
  deriving DecidableEq, Repr

def latestRevision : Int := 5

def Revision.ofNumber (n : Int) : Revision :=
  ⟨5 ≤ n, 1 ≤ n, 2 ≤ n, latestRevision < n⟩

/-! Parts of cells -/

def isPrintable (cs : List Char) : Bool := !cs.isEmpty && !cs.contains '\n'

def isName : Test
  | .text s =>
    match s.toList.reverse with
    | '\n' :: cs => isPrintable cs
    | cs => isPrintable cs
  | _ => false

def isTag : Test
  | .text s => !s.isEmpty && !s.toList.contains ','
  | _ => false

def hasNoRepeat : List Value → Bool
  | [] => true
  | v :: vs => !vs.any v.alike && hasNoRepeat vs

def isTags : Test
  | .list xs => xs.all isTag && hasNoRepeat xs
  | _ => false

def isIdChar (c : Char) : Bool := c.isAlphanum || c = '-' || c = '_'

def isId : Test
  | .text s => !s.isEmpty && s.length ≤ 64 && s.toList.all isIdChar
  | _ => false

def metadata (own : List (String × Test)) : Test :=
  Shape.holds { tests := own ++ [("name", isName), ("tags", isTags)], isOpen := true }

def allValues (test : Test) : Test
  | .object fs => fs.all fun f => test f.2
  | _ => false

def codeMetadata : Test :=
  metadata [("jupyter", isObject), ("execution", allValues isText), ("collapsed", isBool),
    ("scrolled", fun v => isBool v || v.alike (.text "auto"))]

def isDocumentName (r : Revision) (name : String) : Bool :=
  name = "application/json" ||
    (r.hasFreeDocuments && "application/".toList.isPrefixOf name.toList &&
      "+json".toList.isSuffixOf name.toList)

def isDatum (r : Revision) (f : Key × Value) : Bool :=
  if isDocumentName r f.1.shown then r.hasFreeDocuments || isObject f.2 else isLines f.2

def isData (r : Revision) : Test
  | .object fs => fs.all (isDatum r)
  | _ => false

/-! Outputs -/

def executeResult (r : Revision) : Shape where
  needed := ["output_type", "data", "metadata", "execution_count"]
  tests := [("output_type", isOneOf ["execute_result"]), ("execution_count", orNull (isAtLeast 0)),
    ("data", isData r), ("metadata", isObject)]
  isOpen := r.isFuture

def displayData (r : Revision) : Shape where
  needed := ["output_type", "data", "metadata"]
  tests := [("output_type", isOneOf ["display_data"]), ("data", isData r), ("metadata", isObject)]
  isOpen := r.isFuture

def stream (r : Revision) : Shape where
  needed := ["output_type", "name", "text"]
  tests := [("output_type", isOneOf ["stream"]), ("name", isText), ("text", isLines)]
  isOpen := r.isFuture

def errorOutput (r : Revision) : Shape where
  needed := ["output_type", "ename", "evalue", "traceback"]
  tests := [("output_type", isOneOf ["error"]), ("ename", isText), ("evalue", isText),
    ("traceback", isListOf isText)]
  isOpen := r.isFuture

def unknownOutput : Shape where
  needed := ["output_type"]
  tests := [("output_type", fun v => !isOneOf ["execute_result", "display_data", "stream", "error"] v)]
  isOpen := true

def isOutput (r : Revision) : Test := fun v =>
  (executeResult r).holds v || (displayData r).holds v || (stream r).holds v ||
    (errorOutput r).holds v || (r.isFuture && unknownOutput.holds v)

/-! Cells -/

def cell (r : Revision) (form : String) (metadata : Test) (needed : List String)
    (own : List (String × Test)) : Shape where
  needed := (if r.hasIds then ["id"] else []) ++ ["cell_type", "metadata", "source"] ++ needed
  tests := (if r.hasIds then [("id", isId)] else []) ++
    [("cell_type", isOneOf [form]), ("metadata", metadata), ("source", isLines)] ++ own
  isOpen := r.isFuture

def attachments (r : Revision) : List (String × Test) :=
  if r.hasAttachments then [("attachments", allValues (isData r))] else []

def rawCell (r : Revision) : Shape :=
  cell r "raw" (metadata [("format", isText), ("jupyter", isObject)]) [] (attachments r)

def proseCell (r : Revision) : Shape :=
  cell r "markdown" (metadata [("jupyter", isObject)]) [] (attachments r)

def codeCell (r : Revision) : Shape :=
  cell r "code" codeMetadata ["outputs", "execution_count"]
    [("outputs", isListOf (isOutput r)), ("execution_count", orNull (isAtLeast 0))]

def unknownCell : Shape where
  needed := ["cell_type", "metadata"]
  tests := [("cell_type", fun v => !isOneOf ["markdown", "code", "raw"] v), ("metadata", metadata [])]
  isOpen := true

def isCell (r : Revision) : Test := fun v =>
  (rawCell r).holds v || (proseCell r).holds v || (codeCell r).holds v ||
    (r.isFuture && unknownCell.holds v)

/-! Whole documents -/

def isKernel : Test :=
  Shape.holds { needed := ["name", "display_name"], isOpen := true,
                tests := [("name", isText), ("display_name", isText)] }

def isLanguage : Test :=
  Shape.holds { needed := ["name"], isOpen := true,
                tests := [("name", isText), ("codemirror_mode", fun v => isText v || isObject v),
                  ("file_extension", isText), ("mimetype", isText), ("pygments_lexer", isText)] }

def documentMetadata : Test :=
  Shape.holds { isOpen := true,
                tests := [("kernelspec", isKernel), ("language_info", isLanguage),
                  ("orig_nbformat", isAtLeast 1), ("title", isText),
                  ("authors", isListOf (Shape.holds { isOpen := true, tests := [("name", isText)] }))] }

def document (r : Revision) : Shape where
  needed := ["metadata", "nbformat_minor", "nbformat", "cells"]
  tests := [("metadata", documentMetadata), ("nbformat_minor", isAtLeast 0), ("nbformat", isAtLeast 4),
    ("cells", fun _ => true)]
  isOpen := r.isFuture

def checkForm (v : Value) : Except Fault Unit :=
  match v with
  | .object fs =>
    match Fields.get? fs "cell_type" with
    | none | some (.text _) => .ok ()
    | some (.list _) => .error (.joinsOnly .list .text)
    | some (.object _) => .error (.operands "+" "NotebookNode" Kind.text.name)
    | some form => .error (.operands "+" form.kind.name Kind.text.name)
  | _ => .ok ()

/-- The form of the first cell that breaks the rules must be a text. -/
def checkFirst (test : Test) : List Value → Except Fault Unit
  | [] => .ok ()
  | v :: vs => if test v then checkFirst test vs else checkForm v

/-- The document in some revision of the current format. Only the first broken rule counts, and
the rules for the document come before those for its cells. -/
def check (revision : Int) (frame : Fields) (cells : List Value) : Except Fault Unit :=
  let r := Revision.ofNumber revision
  if revision < 0 || !(document r).holds (.object frame) then .ok ()
  else checkFirst (isCell r) cells

/-! The third format -/

namespace Third

def dataFields : List (String × Test) :=
  ["text", "latex", "png", "jpeg", "svg", "html", "javascript", "json", "pdf"].map fun key => (key, isLines)

def isKindChar (c : Char) : Bool := c.isAlphanum || c = '-' || c = '+' || c = '.'

def isKindName (name : String) : Bool :=
  match name.toList.span Char.isAlphanum with
  | (_ :: _, '/' :: c :: cs) => (c :: cs).all isKindChar
  | _ => false

def isDisplay (form : String) (needed : List String) (own : List (String × Test)) : Test
  | .object fs =>
    let named := fs.filter fun f => isKindName f.1.shown
    let others := fs.filter fun f => !isKindName f.1.shown
    named.all (fun f => isLines f.2) &&
      Shape.holds { needed := "output_type" :: needed,
                    tests := [("output_type", isOneOf [form]), ("metadata", isObject)] ++ own ++ dataFields }
        (.object others)
  | _ => false

def stream : Shape where
  needed := ["output_type", "stream", "text"]
  tests := [("output_type", isOneOf ["stream"]), ("stream", isText), ("text", isLines)]

def errorOutput : Shape where
  needed := ["output_type", "ename", "evalue", "traceback"]
  tests := [("output_type", isOneOf ["pyerr"]), ("ename", isText), ("evalue", isText),
    ("traceback", isListOf isText)]

def isOutput : Test := fun v =>
  isDisplay "pyout" ["prompt_number"] [("prompt_number", isAtLeast 0)] v ||
    isDisplay "display_data" [] [] v || stream.holds v || errorOutput.holds v

def cell (forms needed : List String) (own : List (String × Test)) : Shape where
  needed := "cell_type" :: needed
  tests := [("cell_type", isOneOf forms), ("metadata", metadata [])] ++ own

def source : String × Test := ("source", isLines)

def isCell : Test := fun v =>
  (cell ["raw"] ["source"] [source]).holds v || (cell ["markdown", "html"] ["source"] [source]).holds v ||
    (cell ["heading"] ["source", "level"] [source, ("level", isAtLeast 1)]).holds v ||
    (cell ["code"] ["language", "outputs"] [("language", isText), ("collapsed", isBool),
      ("input", isLines), ("outputs", isListOf isOutput), ("prompt_number", orNull (isAtLeast 0))]).holds v

def documentMetadata : Test :=
  Shape.holds {
    tests := [("kernel_info", Shape.holds {
        needed := ["name", "language"], isOpen := true,
        tests := [("name", isText), ("language", isText), ("codemirror_config", isObject)] }),
      ("signature", isText)]
    isOpen := true }

def document : Shape where
  needed := ["metadata", "nbformat_minor", "nbformat", "worksheets"]
  tests := [("metadata", documentMetadata), ("orig_nbformat", orNull (isAtLeast 1)),
    ("orig_nbformat_minor", isAtLeast 0)]
  isOpen := true

def worksheet : Shape where
  needed := ["cells"]
  tests := [("cells", fun _ => true), ("metadata", isObject)]

/-- The worksheets, each given by its fields and its cells. A worksheet that breaks the rules
ends the search, since its own rules come before those for its cells. -/
def checkSheets : List (Fields × List Value) → Except Fault Unit
  | [] => .ok ()
  | (fs, cells) :: sheets =>
    if !worksheet.holds (.object fs) then .ok ()
    else if cells.all isCell then checkSheets sheets
    else checkFirst isCell cells

def check (frame : Fields) (sheets : List (Fields × List Value)) : Except Fault Unit :=
  if document.holds (.object frame) then checkSheets sheets else .ok ()

end Third

end CellFlow.Notebook.Validity
