import HttpCourier.Bytes.Basic
import HttpCourier.Text.Quoted
import HttpCourier.Text.Ranges

/-!
# Files

`Files` are the files below a directory, by their paths. `Files.read` reads one; the walk along a
path finds a file, a directory or nothing.
-/

namespace HttpCourier

open Text

/-- Files by their paths. -/
abbrev Files := List (String × Bytes)

/-- Why a file cannot be read. -/
inductive FileError where
  | notFound (path : String)
  | isDirectory (path : String)
  | notDirectory (path : String)
  /-- The path, or a name in it, is too long. -/
  | tooLong (path : String)
  /-- The path has a NUL character. -/
  | nulInPath
  deriving DecidableEq, Repr

namespace FileError

/-- The name of the kind of an error. -/
def label : FileError → String
  | notFound _ => "FileNotFoundError"
  | isDirectory _ => "IsADirectoryError"
  | notDirectory _ => "NotADirectoryError"
  | tooLong _ => "OSError"
  | nulInPath => "ValueError"

/-- The words for an error. -/
def message : FileError → String
  | notFound path => "[Errno 2] No such file or directory: " ++ quoted path
  | isDirectory path => "[Errno 21] Is a directory: " ++ quoted path
  | notDirectory path => "[Errno 20] Not a directory: " ++ quoted path
  | tooLong path => "[Errno 36] File name too long: " ++ quoted path
  | nulInPath => "embedded null byte"

end FileError

namespace Files

/-- The name of the directory at the top of all others. -/
def top : String := "/"

/-- The parts of a path; those of an absolute path start at the top. -/
def parts (path : String) : List String :=
  let names := ((splitOn '/' path.toList).map String.ofList).filter fun p => p ≠ "" ∧ p ≠ "."
  if path.startsWith top then top :: names else names

/-- Whether a path says that it is the path of a directory. -/
def namesDirectory (path : String) : Bool := path.endsWith "/" || path.endsWith "/."

/-- The files below a directory, with the rest of their paths. -/
def below (name : String) (files : List (List String × Bytes)) : List (List String × Bytes) :=
  files.filterMap fun f =>
    match f.1 with
    | first :: second :: rest => if first = name then some (second :: rest, f.2) else none
    | _ => none

/-- The most bytes that a name may have. -/
def maxName : Nat := 255

/-- The most bytes that a path may have. -/
def maxPath : Nat := 4095

/-- Walks along a path from the directory that holds `here`; `up` are the directories above it. -/
def walk (path : String) (up : List (List (List String × Bytes))) :
    List String → List (List String × Bytes) → Except FileError Bytes
  | [], _ => .error (.isDirectory path)
  | ".." :: rest, _ =>
    match up, rest with
    | parent :: up, _ => walk path up rest parent
    | [], [] => .error (.isDirectory path)
    | [], _ :: _ => .error (.notFound path)
  | name :: rest, here =>
    match here.lookup [name], rest with
    | some bytes, [] => .ok bytes
    | some _, _ :: _ => .error (.notDirectory path)
    | none, _ =>
      let inside := below name here
      if maxName < name.utf8ByteSize then .error (.tooLong path)
      else if name = top ∧ rest = [] then .error (.isDirectory path)
      else if inside.isEmpty then .error (.notFound path)
      else walk path (here :: up) rest inside

/-- Reads a file. -/
def read (files : Files) (path : String) : Except FileError Bytes :=
  if path.toList.contains '\x00' then .error .nulInPath
  else if maxPath < path.utf8ByteSize then .error (.tooLong path)
  else if path.isEmpty then .error (.notFound path)
  else
    match walk path [] (parts path) (files.map fun f => (parts f.1, f.2)) with
    | .ok bytes => if namesDirectory path then .error (.notDirectory path) else .ok bytes
    | .error e => .error e

end Files

end HttpCourier
