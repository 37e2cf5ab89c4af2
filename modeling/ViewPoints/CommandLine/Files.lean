import ViewPoints.Conversion

/-!
The files that a run of the program sees. A file is opened first and read or written later, and
either may fail. The same runs can be followed in a directory that is a plain value.
-/

namespace ViewPoints.CommandLine

/-- An open file, by what reading it yields: bytes, and then its end or an error. -/
structure OpenFile where
  bytes : ByteArray
  error : Option OsError := none

/-- Bytes up to the end of the last line that is ended. -/
def ended (b : ByteArray) : ByteArray :=
  ⟨(b.data.toList.reverse.dropWhile (· != 0x0A)).reverse.toArray⟩

/-- The lines of an open file. Where reading fails there is an unreadable line, and what was read
of it is lost. -/
def OpenFile.lines (f : OpenFile) : List (Except Failure String) :=
  match f.error with
  | none => Conversion.fileLines f.bytes
  | some e => Conversion.fileLines (ended f.bytes) ++ [.error (.os e)]

/-- What a run does with files. -/
structure FileAccess (m : Type → Type) where
  openFile : String → m (Except OsError OpenFile)
  /-- Opens the file at a path to be written. It is made, or emptied if it is there. -/
  create : String → m (Except OsError Unit)
  /-- Writes a text to the file at a path, which was opened for it. -/
  fill : String → String → m (Except OsError Unit)

/-- Replaces the contents of the file at a path by a text. If the text cannot be written, the old
contents are gone all the same. -/
def FileAccess.write {m : Type → Type} [Monad m] (files : FileAccess m) (path text : String) :
    m (Except OsError Unit) := do
  match ← files.create path with
  | .error e => return .error e
  | .ok () => files.fill path text

/-- The files that are known of, each under the way to it from the working directory. Those in
the working directory stand under their plain names. It has no directories in it, and of the
directories around it only what is written there is known. -/
structure Directory where
  files : List (String × ByteArray)

namespace Directory

/-- The names on a path. Slashes in a row count as one. -/
def names (path : List Char) : List (List Char) :=
  (path.foldr (fun c l =>
    if c = '/' then [] :: l
    else match l with
      | [] => [[c]]
      | n :: l => (c :: n) :: l) [[]]).filter fun n => !n.isEmpty

/-- Where a path leads. -/
inductive Place where
  | directory
  | nullDevice
  /-- A file, there or not, in a directory that is there. -/
  | file (way : String) (name : String)
  | nowhere (e : OsError)
  deriving DecidableEq

/-- The way to the directory that holds the one at the end of `way`. The root holds itself. -/
def up (way : String) : String := if way = "/" then way else "../" ++ way

def tooLong (name : String) : Bool := 255 < name.utf8ByteSize

def get? (d : Directory) (way : String) : Option ByteArray := d.files.lookup way

def put (d : Directory) (way : String) (b : ByteArray) : Directory where
  files := (way, b) :: d.files.filter fun e => e.1 != way

/-- Follows names from a directory. Nothing is inside a file. -/
def walk (d : Directory) (way : String) : List (List Char) → Place
  | [] => .directory
  | n :: rest =>
    if n = ['.'] then d.walk way rest
    else if n = ['.', '.'] then d.walk (up way) rest
    else
      let name := String.ofList n
      if rest = [] then .file way name
      else if tooLong name then .nowhere .nameTooLong
      else if (d.get? (way ++ name)).isSome then .nowhere .notADirectory
      else .nowhere .noSuchFile

/-- A path begins at the root or in the working directory. The empty path leads nowhere. Of the
devices only the null device is known, and only under its plain path. -/
def place (d : Directory) (path : String) : Place :=
  if path = "" then .nowhere .noSuchFile
  else if path = "/dev/null" then .nullDevice
  else if 4095 < path.utf8ByteSize then .nowhere .nameTooLong
  else d.walk (if path.toList.head? = some '/' then "/" else "") (names path.toList)

/-- Whether the path asks for a directory. -/
def endsInSlash (path : String) : Bool := path.toList.getLast? == some '/'

/-- A directory can be opened but not read. -/
def openFile (d : Directory) (path : String) : Except OsError OpenFile :=
  match d.place path with
  | .nowhere e => .error e
  | .directory => .ok ⟨.empty, some .isADirectory⟩
  | .nullDevice => .ok ⟨.empty, none⟩
  | .file way name =>
    if tooLong name then .error .nameTooLong
    else
      match d.get? (way ++ name) with
      | none => .error .noSuchFile
      | some b => if endsInSlash path then .error .notADirectory else .ok ⟨b, none⟩

/-- A file that exists is emptied. No directory is made. -/
def create (d : Directory) (path : String) : Except OsError Unit × Directory :=
  match d.place path with
  | .nowhere e => (.error e, d)
  | .directory => (.error .isADirectory, d)
  | .nullDevice => (.ok (), d)
  | .file way name =>
    if endsInSlash path then (.error .isADirectory, d)
    else if tooLong name then (.error .nameTooLong, d)
    else (.ok (), d.put (way ++ name) .empty)

/-- There is always space. What is written to the null device is gone. -/
def fill (d : Directory) (path text : String) : Directory :=
  match d.place path with
  | .file way name => d.put (way ++ name) text.toUTF8
  | _ => d

def access : FileAccess (StateM Directory) where
  openFile path := fun d => (d.openFile path, d)
  create path := fun d => d.create path
  fill path text := fun d => (.ok (), d.fill path text)

end Directory

end ViewPoints.CommandLine
