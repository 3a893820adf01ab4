import NotionSchema.Client
import NotionSchema.CommandLine.Arguments
import NotionSchema.CommandLine.EnvFile
import NotionSchema.CommandLine.Files
import NotionSchema.CommandLine.Message
import NotionSchema.Schema.Encoding
import NotionSchema.Validation.Encoding

namespace NotionSchema.CommandLine

structure Surroundings (σ : Type) where
  files : FileReader
  environment : Environment
  transport : Transport σ

structure Output where
  exitCode : Nat
  out : String
  err : String
deriving DecidableEq, Repr

inductive Failure where
  | unreadable (path : String) (cause : FileError)
  | malformed (cause : ParseError)
  | configuration (cause : ConfigurationError)
  | invalid (cause : SyncError)
deriving DecidableEq, Repr

def Failure.message : Failure → String
  | .unreadable path cause => "failed to read schema file '" ++ path ++ "': " ++ cause.message
  | .malformed cause => cause.message
  | .configuration cause => cause.message
  | .invalid cause => cause.message

namespace Output

def success (out : List String) (err : List String) : Output := ⟨0, linesText out, linesText err⟩

def failure (err : List String) (e : Failure) : Output :=
  ⟨1, "", linesText (err ++ ["error: " ++ e.message])⟩

end Output

def loadSchema (files : FileReader) (path : String) :
    Except Failure (Schema × List SkippedLine) := do
  let text ← (files.readText path).mapError (.unreadable path)
  (Schema.parseWithSkipped text).value.mapError .malformed

def skippedLines (locale : Locale) (skipped : List SkippedLine) : List String :=
  skipped.map fun s => (Message.skipped s.line s.text).text locale

def fieldLine (f : Field) : String :=
  "  " ++ f.name ++ ": " ++ f.typeToken ++ (if f.optional then "?" else "") ++ " -> " ++
    f.propertyType.tag ++ " '" ++ f.remoteName ++ "'"

def modelLines (m : Model) : List String :=
  (m.name ++ " (" ++ m.databaseId ++ ")") :: m.fields.map fieldLine

def fieldCount (s : Schema) : Nat := (s.models.flatMap (·.fields)).length

def schemaLines (locale : Locale) (s : Schema) : List String :=
  s.models.flatMap modelLines ++ [(Message.parsed s.size (fieldCount s)).text locale]

def schemaJson (s : Schema) (skipped : List SkippedLine) : Json :=
  .object
    [("models", .array (s.models.map Model.toJson)),
      ("skipped", .array (skipped.map SkippedLine.toJson))]

def runParse (files : FileReader) (r : Request) (locale : Locale) : Output :=
  match loadSchema files r.path with
  | .error e => .failure [] e
  | .ok (schema, skipped) =>
    if r.json then .success [(schemaJson schema skipped).pretty] []
    else .success (schemaLines locale schema) (skippedLines locale skipped)

def modelReportLines (locale : Locale) (m : ModelReport) : List String :=
  (Message.modelMatches m.model m.title).text locale ::
    m.extra.map fun property => (Message.undeclared property).text locale

def reportLines (locale : Locale) (r : SyncReport) : List String :=
  r.models.flatMap (modelReportLines locale) ++ [(Message.allValid r.models.length).text locale]

variable {σ : Type}

def checkSchema (t : Transport σ) (c : Configuration) (json : Bool) (schema : Schema)
    (skipped : List SkippedLine) : Task σ Output :=
  let err := skippedLines c.locale skipped
  match Client.ofConfiguration c with
  | .error e => return .failure err (.configuration e)
  | .ok client => do
    match ← schema.validate (client.service t) with
    | .error e => return .failure err (.invalid e)
    | .ok report =>
      return .success (if json then [report.toJson.pretty] else reportLines c.locale report) err

def runCheck (files : FileReader) (t : Transport σ) (r : Request) (c : Configuration) :
    Task σ Output :=
  match loadSchema files r.path with
  | .error e => return .failure [] e
  | .ok (schema, skipped) => checkSchema t c r.json schema skipped

/-- The variables that are set, and those that a file in the working directory adds. -/
def Surroundings.allVariables (s : Surroundings σ) : Environment :=
  match s.files ".env" with
  | .ok bytes => EnvFile.load s.environment bytes
  | .error _ => s.environment

def runRequest (s : Surroundings σ) (r : Request) : Task σ Output :=
  match (Configuration.ofEnvironment s.allVariables).value with
  | .error e => return .failure [] (.configuration e)
  | .ok c =>
    match r.command with
    | .parse => return runParse s.files r c.locale
    | .check => runCheck s.files s.transport r c

def run (s : Surroundings σ) (arguments : List String) : Task σ (Except Usage Output) :=
  match readArguments arguments with
  | .error u => return .error u
  | .ok r => do return .ok (← runRequest s r)

end NotionSchema.CommandLine
