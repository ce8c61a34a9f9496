import Chip8.Text.Parts
import Chip8.Text.Utf8

/-!
Files by path. A path is made of bytes, whatever text they come from. A `Folder` holds the contents of
files; paths start from it and may name the files of folders inside it. Of what lies outside only one
empty file is known.
-/

namespace Chip8

/-- Why a file cannot be read. -/
inductive FileError where
  | notFound (path : String)
  | isFolder (path : String)
  /-- A path that goes on after a file. -/
  | notAFolder (path : String)
  | nameTooLong (path : String)
  | denied (path : String)
  /-- A number of an open file that is not open for reading. -/
  | notOpen
  | negativeNumber
  | nullCharacter
  /-- A path with surrogates that no bytes stand for. -/
  | notEncodable (cause : EncodingError)
  /-- A value that cannot name a file, by its kind. -/
  | notAPath (kind : String)
  deriving DecidableEq, Repr

/-- A path is shown as it was given, in quotes. -/
def FileError.message : FileError → String
  | notFound path => s!"[Errno 2] No such file or directory: {path}"
  | isFolder path => s!"[Errno 21] Is a directory: {path}"
  | notAFolder path => s!"[Errno 20] Not a directory: {path}"
  | nameTooLong path => s!"[Errno 36] File name too long: {path}"
  | denied path => s!"[Errno 13] Permission denied: {path}"
  | notOpen => "[Errno 9] Bad file descriptor"
  | negativeNumber => "negative file descriptor"
  | nullCharacter => "embedded null byte"
  | notEncodable cause => cause.message
  | notAPath kind => s!"expected str, bytes or os.PathLike object, not {kind}"

/-- The bytes that name a file, and their form in a message. -/
structure Path where
  bytes : List UInt8
  quoted : String
  deriving DecidableEq, Repr

/-- The path of a text. -/
def Path.ofText (text : Text) : Except FileError Path := do
  let bytes ← (encodePath text).mapError .notEncodable
  return { bytes := bytes, quoted := Chip8.quoted text }

structure Folder where
  /-- Paths with their contents. -/
  files : List (List UInt8 × List UInt8) := []

/-- The slash between the parts of a path. -/
def slash : UInt8 := 0x2F

/-- The part that stands for the folder itself. -/
def here : List UInt8 := [0x2E]

/-- The part that stands for the folder around. -/
def above : List UInt8 := [0x2E, 0x2E]

/-- Cuts a path at its slashes. -/
def pathParts (path : List UInt8) : List (List UInt8) := partsAt slash path

/-- A place that a path leads to. -/
inductive Place where
  /-- A folder, by its own path. -/
  | folder (path : List (List UInt8))
  | file (content : List UInt8)
  | outside
  deriving DecidableEq, Repr

namespace Folder

/-- The contents of the file at a place. -/
def content? (folder : Folder) (path : List (List UInt8)) : Option (List UInt8) :=
  (folder.files.find? fun file => pathParts file.1 == path).map (·.2)

/-- Whether files lie below a place. -/
def isFolder (folder : Folder) (path : List (List UInt8)) : Bool :=
  folder.files.any fun file =>
    let parts := pathParts file.1
    decide (path.length < parts.length) && parts.take path.length == path

/-- Goes one part further. The result tells whether the place is there and the part may follow it. -/
def enter (folder : Folder) (path : Path) (place : Place) (part : List UInt8) :
    Except FileError Place :=
  match place with
  | .file _ => .error (.notAFolder path.quoted)
  | .outside =>
      if part.isEmpty || part == here || part == above then .ok .outside
      else .error (.notFound path.quoted)
  | .folder inner =>
      if part.isEmpty || part == here then .ok (.folder inner)
      else if part = above then
        if inner.isEmpty then .ok .outside else .ok (.folder inner.dropLast)
      else if 255 < part.length then .error (.nameTooLong path.quoted)
      else
        let next := inner ++ [part]
        match folder.content? next with
        | some content => .ok (.file content)
        | none =>
            if folder.isFolder next then .ok (.folder next) else .error (.notFound path.quoted)

/-- The path of the empty file that is there wherever a folder lies. -/
def nullDevice : List UInt8 := "/dev/null".toUTF8.toList

/-- The contents of the file that a path names. -/
def read (folder : Folder) (path : Path) : Except FileError (List UInt8) := do
  if path.bytes.contains 0 then throw .nullCharacter
  if path.bytes = nullDevice then return []
  if path.bytes.isEmpty then throw (.notFound path.quoted)
  if 4095 < path.bytes.length then throw (.nameTooLong path.quoted)
  let start := if path.bytes.head? = some slash then Place.outside else .folder []
  match ← (pathParts path.bytes).foldlM (folder.enter path) start with
  | .file content => return content
  | .folder _ | .outside => throw (.isFolder path.quoted)

end Folder

end Chip8
