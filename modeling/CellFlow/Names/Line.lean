import CellFlow.Text.Blank
import CellFlow.Text.Search
import CellFlow.Text.Word

/-!
The shapes of a line of code: a magic or shell line, an assignment to one name or to several,
an augmented assignment, or the head of a function.
-/

set_option autoImplicit false

namespace CellFlow.Names

open CellFlow.Text

def skipBlanks (s : List Char) : List Char := s.dropWhile isBlank

def takeName? : List Char → Option (List Char × List Char)
  | [] => none
  | c :: s =>
    if isNameStart c then some (c :: s.takeWhile isNameChar, s.dropWhile isNameChar) else none

/-- A line for the notebook's shell: a magic, with one or two percent signs before a
letter, or a command behind an exclamation mark that is no inequality. -/
def isMagic (line : List Char) : Bool :=
  match skipBlanks line with
  | '%' :: '%' :: c :: _ => isNameStart c
  | '%' :: c :: _ => isNameStart c
  | '!' :: '=' :: _ => false
  | '!' :: _ => true
  | _ => false

/-- The text of the further targets, each behind a comma, and the text behind them. -/
def takeMore : Nat → List Char → List Char × List Char
  | 0, s => ([], s)
  | n + 1, s =>
    match skipBlanks s with
    | ',' :: r =>
      match takeName? (skipBlanks r) with
      | some (name, rest) =>
        let (more, rest) := takeMore n rest
        (s.takeWhile isBlank ++ ',' :: (r.takeWhile isBlank ++ (name ++ more)), rest)
      | none => ([], s)
    | _ => ([], s)

def takeEquals? (s : List Char) : Option (List Char) :=
  match skipBlanks s with
  | '=' :: '=' :: _ => none
  | '=' :: r => some r
  | _ => none

def isName : List Char → Bool
  | [] => false
  | c :: s => isNameStart c && s.all isNameChar

/-- The names among the targets of an assignment, which commas separate. -/
def namesIn (targets : List Char) : List (List Char) := ((splitOn ',' targets).map trim).filter isName

def operators : List (List Char) :=
  [['*', '*'], ['/', '/'], ['>', '>'], ['<', '<'], ['+'], ['-'], ['*'], ['/'], ['%'], ['&'],
   ['|'], ['^'], ['@']]

def takeOperator? (s : List Char) : Option (List Char) :=
  operators.findSome? fun op =>
    if (op ++ ['=']).isPrefixOf s then some (s.drop (op.length + 1)) else none

def takeWord? (word s : List Char) : Option (List Char) :=
  if word.isPrefixOf s then
    match s.drop word.length with
    | c :: r => if isBlank c then some (skipBlanks r) else none
    | [] => none
  else none

structure Reading where
  targets : List (List Char)
  rest : List Char
  deriving DecidableEq, Repr

inductive LineShape where
  | plain | multiple | augmented | definition
  deriving DecidableEq, Repr

def LineShape.all : List LineShape := [.plain, .multiple, .augmented, .definition]

def LineShape.read? (line : List Char) : LineShape → Option Reading
  | .plain => do
    let (target, r) ← takeName? (skipBlanks line)
    let rest ← takeEquals? r
    return ⟨namesIn target, rest⟩
  | .multiple => do
    let (first, r) ← takeName? (skipBlanks line)
    let (more, r) := takeMore r.length r
    let rest ← takeEquals? r
    return ⟨namesIn (first ++ more), rest⟩
  | .augmented => do
    let (target, r) ← takeName? (skipBlanks line)
    let rest ← takeOperator? (skipBlanks r)
    return ⟨namesIn target, rest⟩
  | .definition => do
    let s := skipBlanks line
    let s := (takeWord? "async".toList s).getD s
    let r ← takeWord? "def".toList s
    let (name, r) ← takeName? r
    match skipBlanks r with
    | '(' :: _ => return ⟨[name], line⟩
    | _ => none

/-- The first of the shapes that fits the line; a line of no shape is read as a whole. -/
def readBy (shapes : List LineShape) (line : List Char) : Reading :=
  (shapes.findSome? fun shape => shape.read? line).getD ⟨[], line⟩

def readLine (line : List Char) : Reading := readBy LineShape.all line

/-- The names at word boundaries: each starts where the character before it, if any, is no
word character. `current` holds the name under way in reverse. -/
def wordsFrom (afterWord : Bool) (current : List Char) : List Char → List (List Char)
  | [] => if current.isEmpty then [] else [current.reverse]
  | c :: s =>
    if current.isEmpty then
      if !afterWord && isNameStart c then wordsFrom true [c] s
      else wordsFrom (isWord c) [] s
    else if isNameChar c then wordsFrom true (c :: current) s
    else current.reverse :: wordsFrom (isWord c) [] s

def wordsIn (s : List Char) : List (List Char) := wordsFrom false [] s

end CellFlow.Names
