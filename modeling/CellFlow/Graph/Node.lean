import CellFlow.Failure
import CellFlow.Data.Access
import CellFlow.Text.Search

/-!
Nodes of a cell graph before they are placed: one for each cell, one for each artifact of
a cell, and one for each group that stands for its cells.
-/

set_option autoImplicit false

namespace CellFlow

inductive NodeKind where
  | primary | secondary | group
  deriving DecidableEq, Repr

namespace NodeKind

def all : List NodeKind := [.primary, .secondary, .group]

def code : NodeKind → String
  | .primary => "primary"
  | .secondary => "secondary"
  | .group => "group"

/-- Artifacts are placed around their owners, all other nodes in ranks. -/
def isRanked : NodeKind → Bool
  | .secondary => false
  | .primary | .group => true

def ofCode? (s : String) : Option NodeKind := all.find? fun k => k.code == s

def ofValue (v : Value) : Outcome NodeKind :=
  match v with
  | .text s =>
    match ofCode? s with
    | some k => .ok k
    | none => .error (.notAMember v "NodeKind")
  | _ => .error (.notAMember v "NodeKind")

theorem ofCode?_code (k : NodeKind) : ofCode? k.code = some k := by
  cases k <;> decide

end NodeKind

def artifactMark : String := "-artifact-"

def numberedId (owner number : String) : String := owner ++ artifactMark ++ number

def artifactId (owner : String) (index : Int) : String := numberedId owner (toString index)

/-- The id for any index at all: an integer of too many digits has no text. -/
def writeArtifactId (owner : String) (index : Int) : Except Fault String :=
  if index.natAbs < Nat.pow 10 Number.maxDigits then .ok (artifactId owner index) else .error .tooLongInteger

/-- The owner in the id of an artifact, and the text of its number: the first mark ends the
owner, and the last one starts the number. -/
def splitArtifactId? (id : String) : Option (String × String) := do
  let (owner, _) ← Text.splitFirst? artifactMark.toList id.toList
  let (_, number) ← Text.splitLast? artifactMark.toList id.toList
  return (String.ofList owner, String.ofList number)

/-- What nodes are told apart by. The nodes of cells, and of what belongs to them, have texts as
ids; other nodes may have any keys. -/
class NodeId (ι : Type) where
  toKey : ι → Key
  ofKey? : Key → Option ι

instance : NodeId String where
  toKey := .text
  ofKey?
    | .text s => some s
    | _ => none

instance : NodeId Key where
  toKey k := k
  ofKey? := some

def NodeId.toValue {ι : Type} [NodeId ι] (id : ι) : Value := (NodeId.toKey id).toValue

structure Node (ι : Type) where
  id : ι
  label : Value
  kind : NodeKind := .primary
  data : Fields := []
  deriving Inhabited, Repr

abbrev CellNode := Node String

def Node.ownerId? (n : CellNode) : Option String := (splitArtifactId? n.id).map (·.1)

def Key.namedOwner? : Key → Except Fault (Option String)
  | .text s => .ok ((splitArtifactId? s).map (·.1))
  | k => .error (.notContainer k.kind)

/-- The owner of an artifact: the one in its data, or else the one in its id. -/
def Node.owner {ι : Type} [NodeId ι] (n : Node ι) : Except Fault Value := do
  let given := Fields.getD n.data "owner" .null
  if given.truthy then return given
  match ← (NodeId.toKey n.id).namedOwner? with
  | some s => return .text s
  | none => return .null

structure PlainEdge (ι : Type) where
  source : ι
  target : ι
  data : Fields := []
  deriving Inhabited, Repr

structure NodeRecord where
  id : Value
  label : Value
  kind : NodeKind := .primary
  data : Value := .object []
  deriving Inhabited, Repr

namespace NodeRecord

def callee : String := "PreliminaryNode.__init__()"

def ofArguments (given : Fields) : Outcome NodeRecord := do
  let names ← given.mapM fun f => f.1.toArgumentName
  match names.find? fun name => name ∉ ["id", "label", "kind", "data"] with
    | some name => throw (.fault (.unknownArgument callee name))
    | none => pure ()
  let missing := ["id", "label"].filter fun (name : String) => (Fields.get? given name).isNone
  if !missing.isEmpty then throw (.fault (.missingArguments callee missing))
  let kind ← match Fields.getD given "kind" (.text "primary") with
    | .text s => NodeKind.ofValue (.text s)
    | v => throw (.fault (.noAttribute v.kind "takes_part_in_ranking"))
  return {
    id := Fields.getD given "id" .null
    label := Fields.getD given "label" .null
    kind
    data := Fields.getD given "data" (.object []) }

/-- The owner in the id of an artifact, and the text of its number. An id must be text to be
split; one that is a list or an object need not be split when the mark is not in it. -/
def splitId? (r : NodeRecord) : Except Fault (Option (String × String)) := do
  if ← r.id.holds (.text artifactMark) then
    match r.id with
    | .text s => return splitArtifactId? s
    | v => throw (.noAttribute v.kind "split")
  else return none

def ownerId? (r : NodeRecord) : Except Fault (Option String) := do
  return (← r.splitId?).map (·.1)

def artifactIndex? (r : NodeRecord) : Except Fault (Option Int) := do
  match ← r.splitId? with
  | none => return none
  | some (_, number) => return some (← (Value.text number).toInteger)

def toNode (r : NodeRecord) : Except Fault (Node Key) := do
  return { id := ← r.id.toKey, label := r.label, kind := r.kind, data := ← r.data.fields }

end NodeRecord

end CellFlow
