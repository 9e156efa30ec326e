import CellFlow.Data.Fault
import CellFlow.Files.Refusal
import CellFlow.Json.Reader

/-!
Why a run of the program can fail. Each cause carries what its message names; the kind
under which it is reported and the details attached to it follow from the cause.
-/

set_option autoImplicit false

namespace CellFlow

inductive ColorFault where
  | form
  | digits
  | gray
  | components
  | range
  deriving DecidableEq, Repr

def ColorFault.message (v : Value) : ColorFault → String
  | .form => s!"Invalid RGBA argument: {v.literal}"
  | .digits => s!"Invalid hex color specifier: {v.literal}"
  | .gray => s!"Invalid string grayscale value {v.literal}. Value must be within 0-1 range"
  | .components => "RGBA sequence should have length 3 or 4"
  | .range => "RGBA values should be within 0-1 range"

inductive Failure where
  | fault (f : Fault) : Failure
  | notAMember (v : Value) (family : String) : Failure
  | unsupportedAlignment (v : Value) : Failure
  | slotsNotPositive : Failure
  | sweepsNegative : Failure
  | duplicatePosition (position : Int) : Failure
  | duplicateNode (id : String) : Failure
  | positionCount (positions results : Nat) : Failure
  | backwardGroup (label : String) (first last : Int) : Failure
  | invalidGroup (record : Value) (cause : Failure) : Failure
  | unknownNode (id : Value) (context : Fields) : Failure
  | nullNode : Failure
  | noNotebook (path reason : String) : Failure
  | unreadableNotebook (path reason : String) : Failure
  | unreadableSettings (path reason : String) : Failure
  | unreadableGroups (path reason : String) : Failure
  | json (e : Json.ReadError) : Failure
  | tooDeep (nest : Json.Nest) : Failure
  | refused (why : Refusal) (path : String) : Failure
  | notUnicode : Failure
  | badColor (v : Value) (why : ColorFault) : Failure
  | badFigureSize (shown : String) : Failure
  | badFigureForm (shown : String) : Failure
  | badFigureUnit (v : Value) : Failure
  | unevenSides (lengths : List Nat) : Failure
  | noSides : Failure
  | badLimits : Failure
  | flatFigure : Failure
  | farCorner : Failure
  | startlessArrow : Failure
  | flatAxes : Failure
  | endlessAxis : Failure
  | noResolution : Failure
  | tooManyDots (width height : Int) : Failure
  | unknownAttribute (owner name : String) : Failure
  | unknownVersion (v : Value) : Failure
  | invalidDocument (reason : String) : Failure
  | partialVersion : Failure
  | formlessCell : Failure
  deriving Repr

namespace Failure

instance : Coe Fault Failure := ⟨.fault⟩

def ofRead : Json.ReadFailure → Failure
  | .malformed e => .json e
  | .tooManyDigits n => .fault (.tooManyDigits n)
  | .tooDeep nest => .tooDeep nest

def kindName : Failure → String
  | .fault f => f.category.name
  | .notAMember .. | .unsupportedAlignment _ | .slotsNotPositive | .sweepsNegative => "ValueError"
  | .duplicatePosition _ | .duplicateNode _ | .positionCount .. | .backwardGroup .. => "ValueError"
  | .nullNode | .badColor .. | .badLimits | .unknownVersion _ => "ValueError"
  | .badFigureSize _ | .badFigureForm _ | .badFigureUnit _ => "ValueError"
  | .unevenSides _ | .noSides | .flatAxes | .endlessAxis => "ValueError"
  | .flatFigure | .farCorner => "LinAlgError"
  | .startlessArrow => "StopIteration"
  | .noResolution | .tooManyDots .. => "ValueError"
  | .invalidGroup .. | .unreadableSettings .. | .unreadableGroups .. => "FlowGraphError"
  | .unknownNode .. => "UnknownNodeReference"
  | .noNotebook .. | .unreadableNotebook .. => "SourceRetrievalFailure"
  | .json _ => "JSONDecodeError"
  | .tooDeep _ => "RecursionError"
  | .refused why _ => why.kindName
  | .notUnicode => "UnicodeDecodeError"
  | .unknownAttribute .. => "AttributeError"
  | .invalidDocument _ => "ValidationError"
  | .partialVersion => "AssertionError"
  | .formlessCell => "UnboundLocalError"

def shownLengths : List Nat → String
  | [n] => s!"({n},)"
  | ns => "(" ++ ", ".intercalate (ns.map toString) ++ ")"

def message : Failure → String
  | .fault f => f.message
  | .notAMember v family => s!"{v.literal} is not a valid {family}"
  | .unsupportedAlignment v => s!"Unsupported alignment: {v.shown}"
  | .slotsNotPositive => "artifact_slots must be positive"
  | .sweepsNegative => "crossing_sweeps must not be negative"
  | .duplicatePosition n => s!"Duplicate cell position: {n}"
  | .duplicateNode id => s!"Duplicate node id: {id}"
  | .positionCount n k => s!"Got {n} positions for {k} extraction results"
  | .backwardGroup label first last =>
    s!"Group {Text.quoted label} ends ({last}) before it starts ({first})"
  | .invalidGroup record cause => s!"Invalid group record {record.literal}: {cause.message}"
  | .unknownNode id _ => s!"Unknown node reference: {id.literal}"
  | .nullNode => "None cannot be a node"
  | .noNotebook path reason => s!"Could not load notebook {path}: {reason}"
  | .unreadableNotebook path reason => s!"Could not load notebook {path}: {reason}"
  | .unreadableSettings path reason => s!"Could not load config file {path}: {reason}"
  | .unreadableGroups path reason => s!"Could not read groups file {path}: {reason}"
  | .json e => e.message
  | .tooDeep nest => nest.message
  | .refused why path => if why.isForeign then s!"{why.text}: {Text.quoted path}" else why.text
  | .notUnicode => "'utf-8' codec can't decode the file"
  | .badColor v why => why.message v
  | .badFigureSize shown => s!"figure size must be positive finite not {shown}"
  | .badFigureForm shown =>
    s!"Invalid figsize format, expected (x, y) or (x, y, unit) but got {shown}"
  | .badFigureUnit v =>
    s!"Invalid unit {v.literal} in 'figsize'; supported units are 'in', 'cm', 'px'"
  | .unevenSides lengths =>
    "setting an array element with a sequence. The requested array has an inhomogeneous shape " ++
      s!"after {lengths.length} dimensions. " ++
      s!"The detected shape was {shownLengths lengths} + inhomogeneous part."
  | .noSides => "figsize=(None, None) is invalid; at least one of width or height must be provided"
  | .badLimits => "Axis limits cannot be NaN or Inf"
  | .flatFigure => "Singular matrix"
  | .farCorner => "Array must not contain infs or NaNs"
  | .startlessArrow => ""
  | .flatAxes => "'box_aspect' and 'fig_aspect' must be positive"
  | .endlessAxis => "arange: cannot compute length"
  | .noResolution => "dpi must be positive"
  | .tooManyDots width height =>
    s!"Image size of {width}x{height} pixels is too large. It must be less than 2^23 in each direction."
  | .unknownAttribute owner name => s!"'{owner}' object has no attribute '{name}'"
  | .unknownVersion v => s!"Unsupported nbformat version {v.shown}"
  | .invalidDocument reason => reason
  | .partialVersion => ""
  | .formlessCell =>
    "cannot access local variable 'newcell' where it is not associated with a value"

def context : Failure → Fields
  | .invalidGroup record _ => [("record", record)]
  | .unknownNode _ context => context
  | _ => []

/-- Failures over a value that is of the right kind but not acceptable. -/
def isValueFailure (f : Failure) : Bool :=
  f.kindName ∈ ["ValueError", "JSONDecodeError", "UnicodeDecodeError", "LinAlgError"]

/-- Failures of the program's own: its input does not describe a notebook graph. -/
def isOwn : Failure → Bool
  | .invalidGroup .. | .unreadableSettings .. | .unreadableGroups .. => true
  | .unknownNode .. | .noNotebook .. | .unreadableNotebook .. => true
  | _ => false

end Failure

/-- What a step of the program gives: a result or the cause of its failure. -/
abbrev Outcome (α : Type) := Except Failure α

def Outcome.ofFault {α : Type} : Except Fault α → Outcome α
  | .ok a => .ok a
  | .error f => .error (.fault f)

instance : MonadLift (Except Fault) (Except Failure) := ⟨Outcome.ofFault⟩

end CellFlow
