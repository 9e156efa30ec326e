import CellFlow.Failure

/-!
The direction in which ranks are stacked.
-/

set_option autoImplicit false

namespace CellFlow

inductive Direction where
  | topToBottom | bottomToTop | leftToRight | rightToLeft
  deriving DecidableEq, Repr

namespace Direction

def all : List Direction := [.topToBottom, .bottomToTop, .leftToRight, .rightToLeft]

def code : Direction → String
  | .topToBottom => "TB"
  | .bottomToTop => "BT"
  | .leftToRight => "LR"
  | .rightToLeft => "RL"

def isHorizontal : Direction → Bool
  | .leftToRight | .rightToLeft => true
  | .topToBottom | .bottomToTop => false

def isReversed : Direction → Bool
  | .bottomToTop | .rightToLeft => true
  | .topToBottom | .leftToRight => false

def ofCode? (s : String) : Option Direction := all.find? fun d => d.code == s

def ofValue (v : Value) : Outcome Direction :=
  match v with
  | .text s =>
    match ofCode? s with
    | some d => .ok d
    | none => .error (.notAMember v "RankDirection")
  | _ => .error (.notAMember v "RankDirection")

theorem ofCode?_code (d : Direction) : ofCode? d.code = some d := by
  cases d <;> decide

end Direction

end CellFlow
