import CellFlow.CommandLine.Words
import CellFlow.Data.Access

/-!
Reading a command line from left to right: switches act in their order, the operand is
taken from the first words that are no switches, and what is left over is kept.
-/

set_option autoImplicit false

namespace CellFlow.CommandLine

structure Reading where
  given : List (String × Given) := []
  operand : Option (List String) := none
  extra : List String := []
  deriving DecidableEq, Repr

namespace Reading

def get? (r : Reading) (title : String) : Option Given := (r.given.reverse.lookup title)

def has (r : Reading) (title : String) : Bool := (r.get? title).isSome

def text? (r : Reading) (title : String) : Option String :=
  match r.get? title with
  | some (.text s) => if s.isEmpty then none else some s
  | _ => none

def number? (r : Reading) (title : String) : Option Int :=
  match r.get? title with
  | some (.number n) => if n = 0 then none else some n
  | _ => none

end Reading

namespace Form

def complainAbout {α : Type} (f : Form) (s : Switch) (complaint : String) : Except Stop α :=
  f.complain s!"argument {s.title}: {complaint}"

def readGiven (f : Form) (s : Switch) (text : String) : Except Stop Given :=
  match s.use with
  | .text choices =>
    if choices.isEmpty || choices.contains text then .ok (.text text)
    else f.complain (notAChoice s.title text choices)
  | .number =>
    match (Value.text text).toInteger with
    | .ok n => .ok (.number n)
    | .error _ => f.complainAbout s s!"invalid int value: {Text.quoted text}"
  | _ => .ok .present

def act (f : Form) (r : Reading) (s : Switch) : Except Stop Reading :=
  match s.use with
  | .help => .error (.help f.program)
  | .version => .error .version
  | _ => .ok { r with given := r.given ++ [(s.title, .present)] }

def actWith (f : Form) (r : Reading) (s : Switch) (text : String) : Except Stop Reading := do
  let g ← if text = "--" then pure .nothing else f.readGiven s text
  return { r with given := r.given ++ [(s.title, g)] }

structure Unfolded where
  before : List Switch
  last : Switch
  value : Option String
  deriving DecidableEq, Repr

def isShortName (name : String) : Bool :=
  match name.toList with
  | '-' :: '-' :: _ => false
  | _ => true

def unfold (f : Form) (s : Switch) (isShort : Bool) (text : List Char) : Except Stop Unfolded :=
  let ignored : Except Stop Unfolded :=
    f.complainAbout s s!"ignored explicit argument {Text.quoted (String.ofList text)}"
  if s.use.takesValue then .ok ⟨[], s, some (String.ofList text)⟩
  else match text with
    | [] => ignored
    | c :: rest =>
      match isShort, f.find? (String.ofList ['-', c]) with
      | true, some next =>
        if rest.isEmpty then .ok ⟨[s], next, none⟩
        else (f.unfold next true rest).map fun u => { u with before := s :: u.before }
      | _, _ => ignored

def unfoldWord (f : Form) (c : Candidate) : Except Stop Unfolded :=
  match c.attached with
  | none => .ok ⟨[], c.switch, none⟩
  | some text => f.unfold c.switch (isShortName c.name) text

/-- A switch with all that shares its word; a value may be in the next word, which must be
no switch. Nothing is done before it is clear that the value is there. -/
def takeSwitch (f : Form) (r : Reading) (c : Candidate) (words : List Word) :
    Except Stop (Reading × List Word) := do
  let u ← f.unfoldWord c
  match u.value with
  | some text => return (← f.actWith (← u.before.foldlM f.act r) u.last text, words)
  | none =>
    if u.last.use.takesValue then
      match words with
      | .plain text :: rest => return (← f.actWith (← u.before.foldlM f.act r) u.last text, rest)
      | _ => f.complainAbout u.last "expected one argument"
    else return (← f.act (← u.before.foldlM f.act r) u.last, words)

def pastDivider : List Word → List Word
  | .divider :: words => words
  | words => words

def takeOperand? : Operand → List Word → Option (List String × List Word)
  | .one _, words =>
    match pastDivider words with
    | .plain s :: rest => some ([s], pastDivider rest)
    | _ => none
  | .command _ _, words =>
    match pastDivider words with
    | .plain _ :: _ => some (words.map Word.raw, [])
    | _ => none

def withOperand (f : Form) (r : Reading) (words : List Word) : Option (Reading × List Word) :=
  match r.operand, takeOperand? f.operand words with
  | none, some (operand, rest) => some ({ r with operand := some operand }, rest)
  | _, _ => none

def readAll (f : Form) : Nat → Reading → List Word → Except Stop Reading
  | 0, r, _ => .ok r
  | n + 1, r, words =>
    if words.any Word.isSwitch then
      match words with
      | .switch _ c :: rest => do
        let (r, rest) ← f.takeSwitch r c rest
        f.readAll n r rest
      | .unknown raw :: rest => f.readAll n { r with extra := r.extra ++ [raw] } rest
      | w :: rest =>
        match f.withOperand r words with
        | some (r, rest) => f.readAll n r rest
        | none => f.readAll n { r with extra := r.extra ++ [w.raw] } rest
      | [] => .ok r
    else
      match f.withOperand r words with
      | some (r, rest) => .ok { r with extra := r.extra ++ rest.map Word.raw }
      | none => .ok { r with extra := r.extra ++ words.map Word.raw }

def read (f : Form) (words : List String) : Except Stop Reading := do
  let words ← f.readWords words
  let r ← f.readAll (words.length + 1) {} words
  match f.operand, r.operand with
  | .one name, none => f.complain s!"the following arguments are required: {name}"
  | _, _ => return r

end Form

end CellFlow.CommandLine
