import CellFlow.Export
import CellFlow.Graph.Build

/-!
Sessions: settings under which notebooks are turned into charts. Settings may change while
a session lasts, and a change counts from then on. Two things are taken from the settings
when the session starts and stay as they are: the names that are left out, and whether
exports are confirmed. A section of the settings may be put aside by a value of any kind; the
parts of the program that hold the section go on with it, and all others then miss its fields.
-/

set_option autoImplicit false

namespace CellFlow

inductive Section where
  | parsing | artifacts | layout | figure
  deriving DecidableEq, Repr

namespace Section

def all : List Section := [.parsing, .artifacts, .layout, .figure]

def name : Section → String
  | .parsing => "parsing"
  | .artifacts => "artifacts"
  | .layout => "layout"
  | .figure => "visualization"

def ofName? (s : String) : Option Section := all.find? fun p => p.name == s

theorem ofName?_name (p : Section) : ofName? p.name = some p := by
  cases p <;> decide

end Section

/-- Sets one field of a section. What no section has changes nothing, but the direction of a
layout is no field that can be set. -/
def Settings.set (c : Settings) (part : Section) (key : String) (v : Value) : Outcome Settings :=
  match part with
  | .parsing => .ok { c with parsing := (c.parsing.set key v).getD c.parsing }
  | .artifacts => .ok { c with artifacts := (c.artifacts.set key v).getD c.artifacts }
  | .layout =>
    if key = "direction" then .error (.unknownAttribute "LayoutConfig" key)
    else .ok { c with layout := (c.layout.set key v).getD c.layout }
  | .figure => .ok { c with figure := (c.figure.set key v).getD c.figure }

structure Session where
  settings : Settings
  folder : Value
  excluded : List String
  exporter : Exporter
  /-- What stands in the place of sections that have been put aside. -/
  instead : Table Section Value := .empty
  deriving Repr

namespace Session

def start (s : Settings) : Except Fault Session := do
  let names ← Names.Rules.ofSettings s.parsing
  return {
    settings := s
    folder := .text s.outputFolder.text
    excluded := names.excluded
    exporter := { verbose := s.verbose } }

def rules (s : Session) : BuildRules where
  names := ⟨s.settings.parsing.skipMagics.truthy, s.excluded⟩
  artifacts := s.settings.artifacts
  figure := s.settings.figure

def isVerbose (s : Session) : Bool := s.settings.verbose.truthy

/-- A section whose fields are asked for must be in its place. -/
def require (s : Session) (part : Section) : Outcome Unit :=
  match s.instead.get? part with
  | some v => .error (.fault (.noAttribute v.kind part.name))
  | none => .ok ()

def setGeneral (s : Session) (key : String) (v : Value) : Session :=
  match Section.ofName? key with
  | some part => { s with instead := s.instead.put part v }
  | none =>
    match key with
    | "output_dir" => { s with folder := v }
    | "verbose" => { s with settings := { s.settings with verbose := v } }
    | _ => s

/-- Sets a field of a section, named by the section and the field, or a field that belongs to
no section, when no section is named. -/
def set (s : Session) (part key : String) (v : Value) : Outcome Session := do
  if part.isEmpty then return s.setGeneral key v
  match Section.ofName? part with
  | none => throw (.unknownAttribute "Config" part)
  | some part =>
    s.require part
    return { s with settings := ← s.settings.set part key v }

/-- A session that starts with the settings as they are now. What stands in the place of the
section for names is asked for the names to leave out, unless it is null, zero or empty. -/
def renew (s : Session) : Outcome Session := do
  let parsing ← match s.instead.get? .parsing with
    | none => pure s.settings.parsing
    | some v => if v.truthy then throw (.fault (.noAttribute v.kind "extra_excluded_names")) else pure {}
  let fresh ← start { s.settings with parsing }
  return { fresh with folder := s.folder, instead := s.instead }

end Session

end CellFlow
