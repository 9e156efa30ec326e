import CellFlow.Data.Order

/-!
Writing values as JSON text in the basic character set: other characters are written as
escapes of their 16-bit units. Keys that are no texts are written as texts.
-/

set_option autoImplicit false

namespace CellFlow.Json

def numbers : Number.Spelling := ⟨"NaN", "Infinity"⟩

def unitEscape (n : Nat) : List Char := '\\' :: 'u' :: Text.hexDigits 4 n

def writeChar (c : Char) : List Char :=
  if c = '"' ∨ c = '\\' then ['\\', c]
  else if c = '\n' then ['\\', 'n']
  else if c = '\r' then ['\\', 'r']
  else if c = '\t' then ['\\', 't']
  else if c = '\x08' then ['\\', 'b']
  else if c = '\x0c' then ['\\', 'f']
  else if 0x20 ≤ c.toNat ∧ c.toNat < 0x7F then [c]
  else if c.toNat < 0x10000 then unitEscape c.toNat
  else
    let n := c.toNat - 0x10000
    unitEscape (0xD800 + n / 0x400) ++ unitEscape (0xDC00 + n % 0x400)

def writeText (s : String) : String :=
  String.ofList ('"' :: (s.toList.flatMap writeChar ++ ['"']))

/-- How values are laid out: on one line, or one part a line with an indent for each level. -/
structure Layout where
  indent : Option String
  sortKeys : Bool
  deriving DecidableEq, Repr

def oneLine : Layout := ⟨none, false⟩

def Layout.lineBreak (l : Layout) (level : Nat) : String :=
  match l.indent with
  | none => ""
  | some s => "\n" ++ String.join (List.replicate level s)

def Layout.separator (l : Layout) (level : Nat) : String :=
  match l.indent with
  | none => ", "
  | some _ => "," ++ l.lineBreak level

def keyText : Key → String
  | .null => "null"
  | .bool true => "true"
  | .bool false => "false"
  | .int n => toString n
  | .float x => numbers.text x
  | .text s => s

def Layout.enclose (l : Layout) (level : Nat) (opening closing : String) (parts : List String) :
    String :=
  if parts.isEmpty then opening ++ closing
  else
    opening ++ l.lineBreak (level + 1) ++ (l.separator (level + 1)).intercalate parts ++
      l.lineBreak level ++ closing

def Layout.members (l : Layout) (ms : List (Key × String)) : List String :=
  let ms := if l.sortKeys then sortBy (fun a b => a.1.precedes b.1) ms else ms
  ms.map (·.2)

mutual

def writeAt (l : Layout) (level : Nat) : Value → String
  | .null => "null"
  | .bool true => "true"
  | .bool false => "false"
  | .int n => toString n
  | .float x => numbers.text x
  | .text s => writeText s
  | .list xs => l.enclose level "[" "]" (writeItems l (level + 1) xs)
  | .object fs => l.enclose level "\x7b" "\x7d" (l.members (writeMembers l (level + 1) fs))

def writeItems (l : Layout) (level : Nat) : List Value → List String
  | [] => []
  | x :: xs => writeAt l level x :: writeItems l level xs

def writeMembers (l : Layout) (level : Nat) : Fields → List (Key × String)
  | [] => []
  | (k, v) :: fs => (k, writeText (keyText k) ++ ": " ++ writeAt l level v) :: writeMembers l level fs

end

def write (l : Layout) (v : Value) : String := writeAt l 0 v

mutual

def checkSortable : Value → Except Fault Unit
  | .list xs => checkItems xs
  | .object fs => do
    Key.checkSortable (fs.map (·.1))
    checkMembers fs
  | _ => .ok ()

def checkItems : List Value → Except Fault Unit
  | [] => .ok ()
  | x :: xs => do
    checkSortable x
    checkItems xs

def checkMembers : Fields → Except Fault Unit
  | [] => .ok ()
  | (_, v) :: fs => do
    checkSortable v
    checkMembers fs

end

def writeChecked (l : Layout) (v : Value) : Except Fault String := do
  if l.sortKeys then checkSortable v
  return write l v

end CellFlow.Json
