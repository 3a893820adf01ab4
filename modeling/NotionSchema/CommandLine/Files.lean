import NotionSchema.Table
import NotionSchema.Text.Utf8

namespace NotionSchema

inductive FileError where
  | notFound
  | isDirectory
  | notDirectory
  | nameTooLong
  | denied
  | invalidName
  | notText
deriving DecidableEq, Repr

def FileError.message : FileError → String
  | .notFound => "No such file or directory (os error 2)"
  | .isDirectory => "Is a directory (os error 21)"
  | .notDirectory => "Not a directory (os error 20)"
  | .nameTooLong => "File name too long (os error 36)"
  | .denied => "Permission denied (os error 13)"
  | .invalidName => "file name contained an unexpected NUL byte"
  | .notText => "stream did not contain valid UTF-8"

abbrev FileReader := String → Except FileError (List UInt8)

def FileReader.readText (read : FileReader) (path : String) : Except FileError String := do
  match Text.decodeUtf8? (← read path) with
  | some text => return text
  | none => throw .notText

structure Directory where
  files : Table (List UInt8)
deriving DecidableEq, Repr

namespace Directory

def isStay (name : String) : Bool := name.isEmpty || name == "."

/-- Outside the directory there are only the directories that it lies in. -/
def walk (d : Directory) : List String → Except FileError (List UInt8)
  | [] => .error .isDirectory
  | name :: rest =>
    if isStay name then d.walk rest
    else if name = ".." then
      if rest.all fun next => isStay next || next == ".." then .error .isDirectory
      else .error .notFound
    else if 255 < name.utf8ByteSize then .error .nameTooLong
    else
      match d.files.get? name with
      | none => .error .notFound
      | some bytes => if rest.isEmpty then .ok bytes else .error .notDirectory

def components (path : String) : List String := (path.toList.splitOn '/').map String.ofList

def reader (d : Directory) : FileReader := fun path =>
  if path.toList.contains '\x00' then .error .invalidName
  else if 4095 < path.utf8ByteSize then .error .nameTooLong
  else if path.toList.head? = some '/' then
    if (components path).all isStay then .error .isDirectory else .error .notFound
  else d.walk (components path)

end Directory

end NotionSchema
