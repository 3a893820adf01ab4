import NotionSchema.Schema.Basic
import NotionSchema.Schema.Error
import NotionSchema.Schema.LineForm
import NotionSchema.Text.Line

namespace NotionSchema

open Text

structure SkippedLine where
  model : String
  line : Nat
  text : String
deriving DecidableEq, Repr

structure OpenModel where
  name : String
  databaseId : String
  headerLine : Nat
  fields : List Field
deriving DecidableEq, Repr

def OpenModel.unterminated (m : OpenModel) : ParseError := .unterminatedModel m.name m.headerLine

def OpenModel.close (m : OpenModel) : Model := ⟨m.name, m.databaseId, m.fields⟩

inductive Place where
  | betweenModels
  | afterHeader (model : OpenModel)
  | inBody (model : OpenModel)
deriving DecidableEq, Repr

namespace Schema

/-- What the lines so far amount to. `names` holds the names of all headers met, the last first. -/
structure Progress where
  models : List Model
  skipped : List SkippedLine
  names : List String
  place : Place
deriving DecidableEq, Repr

abbrev Reading := ExceptT ParseError Logged

def Progress.start : Progress := ⟨[], [], [], .betweenModels⟩

/-- The model that a header line opens, or what is wrong with the line. -/
def openModel (names : List String) (line : Line) (name rest : List Char) :
    Except ParseError OpenModel :=
  match LineForm.databaseId? rest with
  | none => .error (.missingDatabaseId line.number (String.ofList line.text))
  | some id =>
    if names.contains (String.ofList name) then
      .error (.duplicateModel (String.ofList name) line.number)
    else .ok ⟨String.ofList name, String.ofList id, line.number, []⟩

def Progress.betweenModels (p : Progress) (line : Line) : Except ParseError Progress :=
  match LineForm.readHeader line.text with
  | none => .ok p
  | some (name, rest) => do
    let m ← openModel p.names line name rest
    return { p with
      names := m.name :: p.names
      place := if LineForm.opensBody rest then .inBody m else .afterHeader m }

def Progress.inBody (p : Progress) (m : OpenModel) (line : Line) : Reading Progress :=
  if line.text = ['\x7d'] then
    return { p with models := p.models ++ [m.close], place := .betweenModels }
  else if LineForm.isBoundHeader line.text then throw m.unterminated
  else
    match LineForm.readField line.text with
    | none =>
      return { p with skipped := p.skipped ++ [⟨m.name, line.number, String.ofList line.text⟩] }
    | some f => do
      let f ← Field.declare f.name f.typeToken f.optional f.attributes
      return { p with place := .inBody { m with fields := m.fields ++ [f] } }

def Progress.step (p : Progress) (line : Line) : Reading Progress :=
  match p.place with
  | .betweenModels => liftExcept (p.betweenModels line)
  | .afterHeader m =>
    if line.text = ['\x7b'] then return { p with place := .inBody m } else throw m.unterminated
  | .inBody m => p.inBody m line
where
  liftExcept (x : Except ParseError Progress) : Reading Progress := ExceptT.mk (pure x)

def Progress.finish (p : Progress) : Except ParseError (Schema × List SkippedLine) :=
  match p.place with
  | .afterHeader m => .error m.unterminated
  | .inBody m => .error m.unterminated
  | .betweenModels => if p.models.isEmpty then .error .noModels else .ok (⟨p.models⟩, p.skipped)

def readLines (p : Progress) : List Line → Reading Progress
  | [] => return p
  | line :: rest => do readLines (← p.step line) rest

/-- The schema and the lines of its bodies that are no fields. Types that no rule knows are
reported as the fields are met, also when a later line is refused. -/
def parseWithSkipped (text : String) : Logged (Except ParseError (Schema × List SkippedLine)) :=
  (do
    let p ← readLines .start (significantLines text)
    ExceptT.mk (pure p.finish) : Reading _).run

def skippedWarning (s : SkippedLine) : LogEvent :=
  .warn ("Skipping unparseable field line: `" ++ s.text ++ "`")
    [("line", .count s.line), ("model", .text s.model)]

/-- The schema alone. Each skipped line is reported at the end. -/
def parse (text : String) : Logged (Except ParseError Schema) := do
  match ← parseWithSkipped text with
  | .error e => return .error e
  | .ok (schema, skipped) =>
    Logged.emitAll (skipped.map skippedWarning)
    return .ok schema

end Schema

end NotionSchema
