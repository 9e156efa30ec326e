import CellFlow.Number.Literal
import CellFlow.Text.Quoted

/-!
Words of a command line: switches, what belongs to them, and operands. A long switch may be
cut short as long as only one switch starts that way. A switch takes its value from behind
an equals sign or from the next word; short switches without a value can share a word, and
a short switch with a value can have it in the same word. After two bare dashes every word
is an operand.
-/

set_option autoImplicit false

namespace CellFlow.CommandLine

inductive Use where
  | flag : Use
  | text (choices : List String) : Use
  | number : Use
  | help : Use
  | version : Use
  deriving DecidableEq, Repr

def Use.takesValue : Use → Bool
  | .text _ | .number => true
  | _ => false

structure Switch where
  names : List String
  use : Use
  deriving DecidableEq, Repr

inductive Operand where
  | one (name : String) : Operand
  | command (name : String) (choices : List String) : Operand
  deriving DecidableEq, Repr

/-- A program or one of its commands, and what its command line may hold. -/
structure Form where
  program : String
  switches : List Switch
  operand : Operand
  deriving DecidableEq, Repr

inductive Stop where
  | help (program : String) : Stop
  | version : Stop
  | wrong (program complaint : String) : Stop
  deriving DecidableEq, Repr

inductive Given where
  | present : Given
  /-- Two bare dashes, which stand for no text at all. -/
  | nothing : Given
  | text (s : String) : Given
  | number (n : Int) : Given
  deriving DecidableEq, Repr

structure Candidate where
  switch : Switch
  name : String
  attached : Option (List Char)
  deriving DecidableEq, Repr

inductive Word where
  | plain (s : String) : Word
  | divider : Word
  | switch (raw : String) (c : Candidate) : Word
  | unknown (raw : String) : Word
  deriving DecidableEq, Repr

namespace Word

def raw : Word → String
  | .plain s => s
  | .divider => "--"
  | .switch raw .. => raw
  | .unknown raw => raw

def isSwitch : Word → Bool
  | .switch .. => true
  | .unknown _ => true
  | _ => false

end Word

def listed (choices : List String) : String := ", ".intercalate (choices.map Text.quoted)

def notAChoice (name s : String) (choices : List String) : String :=
  s!"argument {name}: invalid choice: {Text.quoted s} (choose from {listed choices})"

namespace Switch

def title (s : Switch) : String := "/".intercalate s.names

def isCalled (s : Switch) (name : String) : Bool := s.names.contains name

end Switch

def splitEquals (s : List Char) : Option (List Char × List Char) :=
  match s.span (· != '=') with
  | (before, _ :: behind) => some (before, behind)
  | _ => none

def isDigit (c : Char) : Bool := (Text.digitValue? c).isSome

def isNegativeNumber : List Char → Bool
  | '-' :: s =>
    match s.span isDigit with
    | (_ :: _, []) => true
    | (_, '.' :: t) => !t.isEmpty && t.all isDigit
    | _ => false
  | _ => false

namespace Form

def complain {α : Type} (f : Form) (complaint : String) : Except Stop α :=
  .error (.wrong f.program complaint)

def find? (f : Form) (name : String) : Option Switch := f.switches.find? (·.isCalled name)

def named (f : Form) : List (String × Switch) :=
  f.switches.flatMap fun s => s.names.map fun name => (name, s)

def longCandidates (f : Form) (word : List Char) : List Candidate :=
  let (stem, attached) : List Char × Option (List Char) := match splitEquals word with
    | some (stem, text) => (stem, some text)
    | none => (word, none)
  (f.named.filter fun e => stem.isPrefixOf e.1.toList).map fun e => ⟨e.2, e.1, attached⟩

/-- The switches that a word with one dash may stand for: short ones with more in the same
word, and any that start that way. -/
def shortCandidates (f : Form) (word : List Char) : List Candidate :=
  f.named.filterMap fun e =>
    if e.1.toList = word.take 2 then some ⟨e.2, e.1, some (word.drop 2)⟩
    else if word.isPrefixOf e.1.toList then some ⟨e.2, e.1, none⟩
    else none

def candidates (f : Form) (word : List Char) : List Candidate :=
  match word with
  | '-' :: '-' :: _ => f.longCandidates word
  | _ => f.shortCandidates word

def beforeEquals? (f : Form) (word : List Char) : Option Candidate := do
  let (before, text) ← splitEquals word
  let name := String.ofList before
  let s ← f.find? name
  return ⟨s, name, some text⟩

def readDashed (f : Form) (raw : String) : Except Stop Word :=
  match f.beforeEquals? raw.toList with
  | some c => .ok (.switch raw c)
  | none =>
    match f.candidates raw.toList with
    | [c] => .ok (.switch raw c)
    | [] =>
      if isNegativeNumber raw.toList || raw.toList.contains ' ' then .ok (.plain raw)
      else .ok (.unknown raw)
    | cs => f.complain
      (s!"ambiguous option: {raw} could match " ++ ", ".intercalate (cs.map Candidate.name))

def readWord (f : Form) (raw : String) : Except Stop Word :=
  match raw.toList with
  | '-' :: _ :: _ =>
    match f.find? raw with
    | some s => .ok (.switch raw ⟨s, raw, none⟩)
    | none => f.readDashed raw
  | _ => .ok (.plain raw)

def readWords (f : Form) : List String → Except Stop (List Word)
  | [] => .ok []
  | raw :: raws =>
    if raw = "--" then .ok (.divider :: raws.map .plain)
    else do
      let w ← f.readWord raw
      return w :: (← f.readWords raws)

end Form

end CellFlow.CommandLine
