namespace NotionSchema.CommandLine

def linesText (lines : List String) : String := String.join (lines.map (· ++ "\n"))

inductive Command where
  | parse
  | check
deriving DecidableEq, Repr

structure Request where
  command : Command
  path : String
  json : Bool
deriving DecidableEq, Repr

inductive Usage where
  | information
  | mistake
deriving DecidableEq, Repr

def Usage.exitCode : Usage → Nat
  | information => 0
  | mistake => 2

def usageText : String :=
  linesText
    ["Usage: norm [OPTIONS] <COMMAND>",
      "",
      "Commands:",
      "  parse [--json] <SCHEMA>  Show the models of a schema",
      "  check [--json] <SCHEMA>  Validate a schema against the databases that it names",
      "  help                     Show this text",
      "",
      "Options:",
      "  -v, --verbose  Log more",
      "  --json-logs    Log as JSON",
      "  -h, --help     Show this text",
      "  -V, --version  Show the version"]

def Command.ofName? : String → Option Command
  | "parse" => some .parse
  | "check" => some .check
  | _ => none

/-- Letters after one hyphen: `v` for more log, `h` for help and, before the command, `V`. -/
def readLetters (versioned : Bool) : List Char → Except Usage Unit
  | [] => .ok ()
  | 'v' :: rest => readLetters versioned rest
  | 'h' :: _ => .error .information
  | 'V' :: _ => .error (if versioned then .information else .mistake)
  | _ :: _ => .error .mistake

def letters? (argument : String) : Option (List Char) :=
  match argument.toList with
  | ['-'] => none
  | '-' :: '-' :: _ => none
  | '-' :: rest => some rest
  | _ => none

def isLong (argument : String) : Bool :=
  match argument.toList with
  | '-' :: '-' :: _ => true
  | _ => false

structure Partial where
  path : Option String
  json : Bool
  jsonLogs : Bool
deriving DecidableEq, Repr

def Partial.addPath (p : Partial) (argument : String) : Except Usage Partial :=
  if argument.isEmpty || p.path.isSome then .error .mistake
  else .ok { p with path := some argument }

def Partial.finish (p : Partial) (command : Command) : Except Usage Request :=
  match p.path with
  | some path => .ok ⟨command, path, p.json⟩
  | none => .error .mistake

/-- Long options, none of which may be repeated but `--verbose`. -/
def Partial.addLong (p : Partial) (argument : String) : Except Usage Partial :=
  if argument = "--verbose" then .ok p
  else if argument = "--help" then .error .information
  else if argument = "--json" && !p.json then .ok { p with json := true }
  else if argument = "--json-logs" && !p.jsonLogs then .ok { p with jsonLogs := true }
  else .error .mistake

/-- After two hyphens alone, every argument is a path. -/
def readAfterCommand (command : Command) (p : Partial) : List String → Except Usage Request
  | [] => p.finish command
  | argument :: rest =>
    if argument = "--" then do (← rest.foldlM Partial.addPath p).finish command
    else if isLong argument then
      match p.addLong argument with
      | .ok p => readAfterCommand command p rest
      | .error u => .error u
    else
      match letters? argument with
      | some letters =>
        match readLetters false letters with
        | .ok () => readAfterCommand command p rest
        | .error u => .error u
      | none =>
        match p.addPath argument with
        | .ok p => readAfterCommand command p rest
        | .error u => .error u

def readHelp : List String → Usage
  | [] => .information
  | [word] =>
    if (Command.ofName? word).isSome || word == "help" then .information else .mistake
  | _ => .mistake

def readBeforeCommand (jsonLogs : Bool) : List String → Except Usage Request
  | [] => .error .mistake
  | argument :: rest =>
    match Command.ofName? argument with
    | some command => readAfterCommand command ⟨none, false, false⟩ rest
    | none =>
      if argument = "help" then .error (readHelp rest)
      else if argument = "--verbose" then readBeforeCommand jsonLogs rest
      else if argument = "--json-logs" && !jsonLogs then readBeforeCommand true rest
      else if argument = "--help" || argument = "--version" then .error .information
      else
        match letters? argument with
        | some letters =>
          match readLetters true letters with
          | .ok () => readBeforeCommand jsonLogs rest
          | .error u => .error u
        | none => .error .mistake

def readArguments (arguments : List String) : Except Usage Request :=
  readBeforeCommand false arguments

end NotionSchema.CommandLine
