/-!
Records of fields with commas between them, one record a line. A field in quotes may hold
commas and line ends, and writes a quote twice; what follows its closing quote is added to
it as it is. A line ends with a line feed, a carriage return, or both.
-/

set_option autoImplicit false

namespace CellFlow.Text

abbrev FieldRow := List String

namespace Records

inductive Place where
  | recordStart
  | lineEnd
  | fieldStart
  | plain
  | quoted
  /-- Behind a quote in a quoted field: it closes the field unless another one follows. -/
  | closing
  deriving DecidableEq, Repr

/-- What a character does to the records read so far. -/
inductive Effect where
  | nothing | add | endField | endRecord | emptyRecord
  deriving DecidableEq, Repr

def stepPlain (c : Char) : Place × Effect :=
  if c = ',' then (.fieldStart, .endField)
  else if c = '\n' then (.recordStart, .endRecord)
  else if c = '\r' then (.lineEnd, .endRecord)
  else (.plain, .add)

def stepField (c : Char) : Place × Effect := if c = '"' then (.quoted, .nothing) else stepPlain c

/-- A line with nothing on it is a record without fields. -/
def stepRecord (c : Char) : Place × Effect :=
  if c = '\n' then (.recordStart, .emptyRecord)
  else if c = '\r' then (.lineEnd, .emptyRecord)
  else stepField c

def step : Place → Char → Place × Effect
  | .recordStart, c => stepRecord c
  | .lineEnd, c => if c = '\n' then (.recordStart, .nothing) else stepRecord c
  | .fieldStart, c => stepField c
  | .plain, c => stepPlain c
  | .quoted, c => if c = '"' then (.closing, .nothing) else (.quoted, .add)
  | .closing, c => if c = '"' then (.quoted, .add) else stepPlain c

structure Reader where
  place : Place := .recordStart
  field : List Char := []
  fields : FieldRow := []
  rows : List FieldRow := []
  deriving DecidableEq, Repr

namespace Reader

def endField (r : Reader) : Reader :=
  { r with field := [], fields := String.ofList r.field.reverse :: r.fields }

def endRow (r : Reader) : Reader := { r with fields := [], rows := r.fields.reverse :: r.rows }

def apply (r : Reader) (c : Char) : Effect → Reader
  | .nothing => r
  | .add => { r with field := c :: r.field }
  | .endField => r.endField
  | .endRecord => r.endField.endRow
  | .emptyRecord => r.endRow

def feed (r : Reader) (c : Char) : Reader :=
  let (place, effect) := step r.place c
  { r.apply c effect with place }

/-- All records at the end of the text: one that has begun ends there. -/
def close (r : Reader) : List FieldRow :=
  match r.place with
  | .recordStart | .lineEnd => r.rows.reverse
  | _ => r.endField.endRow.rows.reverse

end Reader

def read (s : List Char) : List FieldRow := (s.foldl Reader.feed {}).close

def maxField : Nat := 131072

def isTooLong (row : FieldRow) : Bool := row.any fun field => maxField < field.length

def quote (field : List Char) : List Char :=
  '"' :: field.flatMap (fun c => if c = '"' then ['"', '"'] else [c]) ++ ['"']

theorem feed_quoted (r : Reader) (field : List Char) (h : r.place = .quoted) :
    (field.flatMap fun c => if c = '"' then ['"', '"'] else [c]).foldl Reader.feed r =
      { r with field := field.reverse ++ r.field } := by
  induction field generalizing r with
  | nil => rfl
  | cons c s ih =>
    rw [List.flatMap_cons, List.foldl_append]
    by_cases hc : c = '"'
    · subst hc
      have h2 : ['"', '"'].foldl Reader.feed r = { r with field := '"' :: r.field } := by
        simp [Reader.feed, h, step, Reader.apply]
      simp only [if_true, h2]
      rw [ih { r with field := '"' :: r.field } h]
      simp
    · have h2 : [c].foldl Reader.feed r = { r with field := c :: r.field } := by
        simp [Reader.feed, h, step, hc, Reader.apply]
      simp only [hc, if_false, h2]
      rw [ih { r with field := c :: r.field } h]
      simp

/-- A quoted field reads back as it was, whatever it holds. -/
theorem read_quote (field : List Char) : read (quote field) = [[String.ofList field]] := by
  unfold read quote
  rw [List.cons_append, List.foldl_cons, List.foldl_append]
  have h1 : Reader.feed {} '"' = { place := .quoted } := by decide
  rw [h1, feed_quoted _ _ rfl]
  simp [Reader.feed, step, Reader.apply, Reader.close, Reader.endField, Reader.endRow]

end Records

end CellFlow.Text
