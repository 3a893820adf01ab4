import NotionSchema.CommandLine.Program

namespace NotionSchema.CommandLine

def readVariables : IO Environment := do
  let names :=
    Environment.tokenVariables ++ ["NOTION_BASE_URL", "NOTION_VERSION", "NORM_LOCALE", "NORM_DEBUG"]
  let entries ← names.mapM fun name => do
    return (← IO.getEnv name).map fun value => (name, value)
  return Table.ofList (entries.filterMap id)

/-- Codes of the system may be given with a minus sign. -/
def isCode (n code : UInt32) : Bool := code == n || code == 0 - n

def fileError (e : IO.Error) : FileError :=
  match e with
  | .inappropriateType _ code _ => if isCode 20 code then .notDirectory else .isDirectory
  | .permissionDenied .. => .denied
  | .invalidArgument .. => .nameTooLong
  | _ => .notFound

def readFile (path : String) : IO (Except FileError (List UInt8)) := do
  try
    return .ok (← IO.FS.readBinFile path).toList
  catch e => return .error (fileError e)

def readFiles (arguments : List String) : IO FileReader := do
  let entries ← readFile ".env"
  match readArguments arguments with
  | .error _ => return fun _ => entries
  | .ok request =>
    let schema ← readFile request.path
    return fun path => if path = request.path then schema else entries

def runOnMachine (arguments : List String) : IO UInt32 := do
  let surroundings : Surroundings Unit :=
    ⟨← readFiles arguments, ← readVariables, .offline⟩
  match (run surroundings arguments ⟨(), 0, []⟩).1 with
  | .error usage =>
    IO.print usageText
    return usage.exitCode.toUInt32
  | .ok output =>
    IO.print output.out
    IO.eprint output.err
    return output.exitCode.toUInt32

end NotionSchema.CommandLine

def main (arguments : List String) : IO UInt32 := NotionSchema.CommandLine.runOnMachine arguments
