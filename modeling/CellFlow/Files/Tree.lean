import CellFlow.Data.Table
import CellFlow.Figure.Draw
import CellFlow.Files.Path
import CellFlow.Files.Refusal

/-!
Trees of files and folders, held in memory. A path is followed part by part from the top
folder, and each part but the last must lead to a folder. Making a file needs the folder
that it is in; making folders makes those on the way, too. There is nothing outside the
top folder.
-/

set_option autoImplicit false

namespace CellFlow

inductive Content where
  | bytes (b : ByteArray) : Content
  | text (s : String) : Content
  | picture (f : Figure) (resolution : Float) : Content

def pictureSignature : ByteArray := ⟨#[0x89, 0x50, 0x4E, 0x47, 0x0D, 0x0A, 0x1A, 0x0A]⟩

def Content.toBytes : Content → ByteArray
  | .bytes b => b
  | .text s => s.toUTF8
  | .picture .. => pictureSignature

inductive Entry where
  | folder : Entry
  | file (content : Content) : Entry

structure FileTree where
  entries : Table (List String) Entry := .empty

namespace FileTree

def entry? (t : FileTree) : List String → Option Entry
  | [] => some .folder
  | place => t.entries.get? place

def isFolder (t : FileTree) (place : List String) : Bool :=
  match t.entry? place with
  | some .folder => true
  | _ => false

def maxPart : Nat := 255

/-- Follows parts from a place on. Nothing need be at the place where the last part leads. -/
def follow (t : FileTree) (place : List String) : List String → Except Refusal (List String)
  | [] => .ok place
  | part :: parts =>
    match t.entry? place with
    | none => .error .noSuchFile
    | some (.file _) => .error .notFolder
    | some .folder =>
      if maxPart < part.utf8ByteSize then .error .nameTooLong
      else if part = ".." then
        if place.isEmpty then .error .noSuchFile else t.follow place.dropLast parts
      else t.follow (place ++ [part]) parts

def pathLimit : Nat := 4096

/-- The place that a path leads to. There is no root above the top folder. -/
def place (t : FileTree) (p : FilePath) : Except Refusal (List String) :=
  if p.text.toList.contains '\x00' then .error .zeroCharacter
  else if pathLimit ≤ p.text.utf8ByteSize then .error .nameTooLong
  else if p.root.isEmpty then t.follow [] p.parts else .error .noSuchFile

def look (t : FileTree) (p : FilePath) : Except Refusal Entry := do
  match t.entry? (← t.place p) with
  | some e => .ok e
  | none => .error .noSuchFile

def isThere (t : FileTree) (p : FilePath) : Except Refusal Bool :=
  match t.look p with
  | .ok _ => .ok true
  | .error .nameTooLong => .error .nameTooLong
  | .error _ => .ok false

def read (t : FileTree) (p : FilePath) : Except Refusal ByteArray := do
  match ← t.look p with
  | .file content => .ok content.toBytes
  | .folder => .error .isFolder

def write (t : FileTree) (p : FilePath) (content : Content) : Except Refusal FileTree := do
  let place ← t.place p
  if t.isFolder place then .error .isFolder
  else .ok ⟨t.entries.put place (.file content)⟩

def makeFolder (t : FileTree) (p : FilePath) : Except Refusal FileTree := do
  let place ← t.place p
  match t.entry? place with
  | some _ => .error .fileExists
  | none => .ok ⟨t.entries.put place .folder⟩

def settle (t : FileTree) (p : FilePath) (made : Except Refusal FileTree) : Except Refusal FileTree :=
  match made with
  | .ok t => .ok t
  | .error why =>
    match t.look p with
    | .ok .folder => .ok t
    | _ => .error why

/-- Makes the folder of a path and those on the way to it. The parts come in reverse. -/
def makeFoldersAt (t : FileTree) (root : String) : List String → Except Refusal FileTree
  | [] => t.settle ⟨root, []⟩ (t.makeFolder ⟨root, []⟩)
  | part :: parts =>
    let p : FilePath := ⟨root, (part :: parts).reverse⟩
    match t.makeFolder p with
    | .error .noSuchFile => do
      let t ← t.makeFoldersAt root parts
      t.settle p (t.makeFolder p)
    | made => t.settle p made

def makeFolders (t : FileTree) (p : FilePath) : Except Refusal FileTree :=
  t.makeFoldersAt p.root p.parts.reverse

/-- What is read from a file is what was written to it. -/
theorem read_write {t u : FileTree} {p : FilePath} {content : Content} {place : List String}
    (hp : t.place p = .ok place) (hw : t.write p content = .ok u) (hu : u.place p = .ok place) :
    u.read p = .ok content.toBytes := by
  simp only [write, hp, bind, Except.bind] at hw
  split at hw
  · cases hw
  · rename_i hf
    injection hw with hw
    subst hw
    cases place with
    | nil => exact absurd rfl hf
    | cons a l => simp [read, look, hu, bind, Except.bind, entry?]

end FileTree

end CellFlow
