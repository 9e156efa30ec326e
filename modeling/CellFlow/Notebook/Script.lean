import CellFlow.Cell
import CellFlow.Text.Blank
import CellFlow.Text.LetterCase
import CellFlow.Text.Search

/-!
Scripts in percent format: markers cut the text into sections, and each section with any
text in it is a cell. A marker starts a line with a number sign and, behind blanks, two
percent signs; it takes the rest of its line. Blanks in a marker may be line ends, so a
marker can take more than one line.
-/

set_option autoImplicit false

namespace CellFlow.Notebook.Script

/-- A section behind a marker: the tag of the marker in brackets, empty when there is none,
and the text up to the next marker. -/
structure Section where
  tag : List Char
  body : List Char
  deriving DecidableEq, Repr

structure Parts where
  preamble : List Char
  sections : List Section
  deriving DecidableEq, Repr

def isInLine (c : Char) : Bool := c != '\n'

def readTag (s : List Char) : List Char × List Char :=
  match s.dropWhile Text.isBlank with
  | '[' :: t =>
    match Text.splitFirst? [']'] t with
    | some (tag, rest) => if tag.all isInLine then (tag, rest) else ([], s)
    | none => ([], s)
  | _ => ([], s)

def readMarker? : List Char → Option (List Char × List Char)
  | '#' :: s =>
    match s.dropWhile Text.isBlank with
    | '%' :: '%' :: t => some ((readTag t).1, (readTag t).2.dropWhile isInLine)
    | _ => none
  | _ => none

theorem length_dropWhile_le (p : Char → Bool) (s : List Char) : (s.dropWhile p).length ≤ s.length :=
  (List.dropWhile_sublist p).length_le

theorem length_readTag (s : List Char) : (readTag s).2.length ≤ s.length := by
  unfold readTag
  split
  · rename_i t ht
    split
    · rename_i tag rest h
      have hs := Text.append_of_splitFirst? h
      have := length_dropWhile_le Text.isBlank s
      rw [ht, hs] at this
      split
      · simp_all
        omega
      · simp_all
    · exact Nat.le_refl _
  · exact Nat.le_refl _

theorem length_readMarker? {s : List Char} {m : List Char × List Char} (h : readMarker? s = some m) :
    m.2.length < s.length := by
  unfold readMarker? at h
  split at h
  · rename_i s
    split at h
    · rename_i t ht
      injection h with h
      subst h
      have h1 := length_dropWhile_le isInLine (readTag t).2
      have h2 := length_readTag t
      have h3 := length_dropWhile_le Text.isBlank s
      rw [ht] at h3
      simp only [List.length_cons] at h3 ⊢
      omega
    · cases h
  · cases h

def markerAt? (lineStart : Bool) (s : List Char) : Option (List Char × List Char) :=
  if lineStart then readMarker? s else none

theorem length_markerAt? {lineStart : Bool} {s : List Char} {m : List Char × List Char}
    (h : markerAt? lineStart s = some m) : m.2.length < s.length := by
  unfold markerAt? at h
  split at h
  · exact length_readMarker? h
  · cases h

/-- Cuts a text at its markers; the flag tells whether the text starts a line. -/
def cut (lineStart : Bool) (s : List Char) : Parts :=
  match s with
  | [] => ⟨[], []⟩
  | c :: t =>
    match h : markerAt? lineStart (c :: t) with
    | some (tag, rest) =>
      have := length_markerAt? h
      let p := cut false rest
      ⟨[], ⟨tag, p.preamble⟩ :: p.sections⟩
    | none =>
      let p := cut (c == '\n') t
      ⟨c :: p.preamble, p.sections⟩
termination_by s.length
decreasing_by
  · assumption
  · simp

def parts (content : String) : Parts := cut true content.toList

/-- Sections of prose are no cells. -/
def Section.isProse (s : Section) : Bool :=
  Text.lowered (Text.trimmed (String.ofList s.tag)) = "markdown"

def sources (p : Parts) : List String :=
  let bodies := p.preamble :: (p.sections.filter (!·.isProse)).map (·.body)
  ((bodies.map Text.trim).filter (!·.isEmpty)).map String.ofList

def number (sources : List String) : List Cell :=
  sources.zipIdx.map fun (source, i) => { position := i + 1, source := .text source }

def cells (content : String) : List Cell := number (sources (parts content))

end CellFlow.Notebook.Script
