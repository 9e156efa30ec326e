import CellFlow.Data.Value

/-!
What can go wrong when a value is taken for something that it is not.
-/

set_option autoImplicit false

namespace CellFlow

inductive Category where
  | type | value | key | attribute | overflow | zeroDivision
  deriving DecidableEq, Repr

def Category.name : Category → String
  | .type => "TypeError"
  | .value => "ValueError"
  | .key => "KeyError"
  | .attribute => "AttributeError"
  | .overflow => "OverflowError"
  | .zeroDivision => "ZeroDivisionError"

inductive Fault where
  | notIterable (k : Kind) : Fault
  | notSubscriptable (k : Kind) : Fault
  | fieldOfText : Fault
  | fieldOfList : Fault
  | missingField (key : Value) : Fault
  | notAKey (k : Kind) : Fault
  | noAttribute (k : Kind) (name : String) : Fault
  | absentAttribute (name : String) : Fault
  | notInteger (k : Kind) : Fault
  | notReal (k : Kind) : Fault
  | malformedInteger (s : String) : Fault
  | tooManyDigits (digits : Nat) : Fault
  | tooLongInteger : Fault
  | malformedReal (s : String) : Fault
  | integerOfInfinity : Fault
  | integerOfNaN : Fault
  | beyondDoubles : Fault
  | notIndex (k : Kind) : Fault
  | noLength (k : Kind) : Fault
  | operands (op left right : String) : Fault
  | joinsOnly (left right : Kind) : Fault
  | repeatCount (counter : String) : Fault
  | notRepeatable (counter : String) : Fault
  | notOrdered (op left right : String) : Fault
  | notContainer (k : Kind) : Fault
  | memberOfText (k : Kind) : Fault
  | joinItem (index : Nat) (k : Kind) : Fault
  | joinTarget : Fault
  | notSlice : Fault
  | pairLength (index length : Nat) : Fault
  | notPair (index : Nat) : Fault
  | notArguments (callee : String) (k : Kind) : Fault
  | unknownArgument (callee name : String) : Fault
  | missingArguments (callee : String) (names : List String) : Fault
  | repeatedArgument (callee name : String) : Fault
  | notArgumentName : Fault
  | notPath (k : Kind) : Fault
  | divisionByZero (real : Bool) : Fault
  | removedKey : Fault
  | notDocumentText (k : Kind) : Fault
  | notAssignable (k : Kind) : Fault
  | notCounted : Fault
  | notFiniteOrNot : Fault
  | powerBeyondDoubles : Fault
  deriving Repr

namespace Fault

def category : Fault → Category
  | .missingField _ => .key
  | .noAttribute .. | .absentAttribute _ => .attribute
  | .malformedInteger _ | .tooManyDigits _ | .malformedReal _ | .integerOfNaN => .value
  | .tooLongInteger => .value
  | .pairLength .. => .value
  | .integerOfInfinity | .beyondDoubles | .powerBeyondDoubles => .overflow
  | .divisionByZero _ => .zeroDivision
  | _ => .type

def enumerate : List String → String
  | [] => ""
  | [a] => a
  | [a, b] => a ++ " and " ++ b
  | names => ", ".intercalate names.dropLast ++ ", and " ++ names.getLastD ""

def message : Fault → String
  | .notIterable k => s!"'{k.name}' object is not iterable"
  | .notSubscriptable k => s!"'{k.name}' object is not subscriptable"
  | .fieldOfText => "string indices must be integers, not 'str'"
  | .fieldOfList => "list indices must be integers or slices, not str"
  | .missingField key => key.literal
  | .notAKey k => s!"unhashable type: '{k.name}'"
  | .noAttribute k name => s!"'{k.name}' object has no attribute '{name}'"
  | .absentAttribute name => name
  | .notInteger k =>
    s!"int() argument must be a string, a bytes-like object or a real number, not '{k.name}'"
  | .notReal k => s!"float() argument must be a string or a real number, not '{k.name}'"
  | .malformedInteger s =>
    "invalid literal for int() with base 10: " ++ String.ofList ((Text.quoted s).toList.take 200)
  | .tooManyDigits n =>
    s!"Exceeds the limit (4300 digits) for integer string conversion: value has {n} digits; " ++
      "use sys.set_int_max_str_digits() to increase the limit"
  | .tooLongInteger =>
    "Exceeds the limit (4300 digits) for integer string conversion; " ++
      "use sys.set_int_max_str_digits() to increase the limit"
  | .malformedReal s => "could not convert string to float: " ++ Text.quoted s
  | .integerOfInfinity => "cannot convert float infinity to integer"
  | .integerOfNaN => "cannot convert float NaN to integer"
  | .beyondDoubles => "int too large to convert to float"
  | .notIndex k => s!"'{k.name}' object cannot be interpreted as an integer"
  | .noLength k => s!"object of type '{k.name}' has no len()"
  | .operands op left right => s!"unsupported operand type(s) for {op}: '{left}' and '{right}'"
  | .joinsOnly left right => s!"can only concatenate {left.name} (not \"{right.name}\") to {left.name}"
  | .repeatCount counter => s!"'{counter}' object cannot be interpreted as an integer"
  | .notRepeatable counter => s!"can't multiply sequence by non-int of type '{counter}'"
  | .notOrdered op left right =>
    s!"'{op}' not supported between instances of '{left}' and '{right}'"
  | .notContainer k => s!"argument of type '{k.name}' is not iterable"
  | .memberOfText k => s!"'in <string>' requires string as left operand, not {k.name}"
  | .joinItem i k => s!"sequence item {i}: expected str instance, {k.name} found"
  | .joinTarget => "can only join an iterable"
  | .notSlice => "unhashable type: 'slice'"
  | .pairLength i n => s!"dictionary update sequence element #{i} has length {n}; 2 is required"
  | .notPair i => s!"cannot convert dictionary update sequence element #{i} to a sequence"
  | .notArguments callee k => s!"{callee} argument after ** must be a mapping, not {k.name}"
  | .unknownArgument callee name => s!"{callee} got an unexpected keyword argument '{name}'"
  | .missingArguments callee names =>
    let plural := if names.length = 1 then "argument" else "arguments"
    s!"{callee} missing {names.length} required positional {plural}: " ++
      enumerate (names.map Text.quoted)
  | .repeatedArgument callee name => s!"{callee} got multiple values for keyword argument '{name}'"
  | .notArgumentName => "keywords must be strings"
  | .notPath k => s!"expected str, bytes or os.PathLike object, not {k.name}"
  | .divisionByZero real => if real then "float division by zero" else "division by zero"
  | .removedKey => "pop expected at most 1 argument, got 2"
  | .notDocumentText k => s!"the JSON object must be str, bytes or bytearray, not {k.name}"
  | .notAssignable k => s!"'{k.name}' object does not support item assignment"
  | .notCounted => "__init__(): incompatible constructor arguments"
  | .notFiniteOrNot =>
    "ufunc 'isfinite' not supported for the input types, and the inputs could not be safely " ++
      "coerced to any supported types according to the casting rule ''safe''"
  | .powerBeyondDoubles => "(34, 'Numerical result out of range')"

end Fault

end CellFlow
