import CellFlow.Text.Printable

/-!
Quoted text: single quotes, or double quotes when the text holds a single quote and no
double one. A backslash stands before the quote, a backslash and the letters of the
line controls; other characters that are not printable are written by their code point.
-/

set_option autoImplicit false

namespace CellFlow.Text

def hexDigits (width n : Nat) : List Char :=
  (List.range width).reverse.map fun i => Nat.digitChar (n / Nat.pow 16 i % 16)

def escapeChar (quote c : Char) : List Char :=
  if c = quote ∨ c = '\\' then ['\\', c]
  else if c = '\n' then ['\\', 'n']
  else if c = '\r' then ['\\', 'r']
  else if c = '\t' then ['\\', 't']
  else if isPrintable c then [c]
  else if c.toNat < 0x100 then '\\' :: 'x' :: hexDigits 2 c.toNat
  else if c.toNat < 0x10000 then '\\' :: 'u' :: hexDigits 4 c.toNat
  else '\\' :: 'U' :: hexDigits 8 c.toNat

def quoteOf (s : List Char) : Char :=
  if s.contains '\'' && !s.contains '"' then '"' else '\''

def quoted (s : String) : String :=
  let q := quoteOf s.toList
  String.ofList (q :: (s.toList.flatMap (escapeChar q) ++ [q]))

end CellFlow.Text
