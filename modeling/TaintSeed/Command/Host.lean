import TaintSeed.Text.Bytes

/-!
# Where Commands Run

What a command needs from its surroundings: the contents of files, and a clock.
A command works in any monad that has these, so it runs on a real file system
as well as on a directory that is held in memory.

## Main definitions

* `Host`: Files and a clock.
* `ReadFailure`: Why a file cannot be read.
* `Directory`: Files held in memory.
* `Directory.host`: Such files as surroundings of a command.
-/

namespace TaintSeed.Command

/-- Why a file cannot be read. -/
inductive ReadFailure where
  /-- There is no such file. -/
  | notFound (path : String)
  /-- The file is a directory. -/
  | isDirectory (path : String)
  /-- A part of the path that should be a directory is a file. -/
  | notADirectory (path : String)
  /-- The path, or one of the names in it, is longer than a system allows. -/
  | tooLong (path : String)
  /-- The path has a character that none may have. -/
  | invalid (path : String)
  /-- The system gives another reason. -/
  | other (reason : String)
deriving DecidableEq

/-- The wording of the failure. -/
def ReadFailure.message : ReadFailure → String
  | .notFound path => "open " ++ path ++ ": no such file or directory"
  | .isDirectory path => "read " ++ path ++ ": is a directory"
  | .notADirectory path => "open " ++ path ++ ": not a directory"
  | .tooLong path => "open " ++ path ++ ": file name too long"
  | .invalid path => "open " ++ path ++ ": invalid argument"
  | .other reason => reason

/-- The surroundings of a command. -/
structure Host (m : Type → Type) where
  /-- The content of a file. -/
  read : String → m (Except ReadFailure String)
  /-- Whether there is a file or a directory. -/
  isPresent : String → m Bool
  /-- The time in nanoseconds. -/
  now : m Nat

/-- Files held in memory, each under its path. -/
structure Directory where
  /-- The paths, as lists of names, with the contents. -/
  files : List (List String × String)
deriving Inhabited

namespace Directory

/-- The directory of files under their paths. -/
def ofFiles (files : List (String × String)) : Directory :=
  ⟨files.map (fun f => (f.1.splitOn "/", f.2))⟩

/-- Something that a path leads to. -/
inductive Place where
  /-- A directory, by the names on the way to it. -/
  | directory (names : List String)
  /-- A file with its content. -/
  | file (content : String)
  /-- A directory above the one that is held in memory, about which nothing is known. -/
  | outside
deriving DecidableEq, Inhabited

/-- The most bytes that a name in a path may have. -/
def maxName : Nat := 255

/-- The most bytes that a path may have. -/
def maxPath : Nat := 4095

/-- The one file outside that is known: it is there on every system, and it is empty. -/
def nullDevice : String := "/dev/null"

/-- Follows the names of a path. -/
def walk (d : Directory) (path : String) : Place → List String → Except ReadFailure Place
  | p, [] => .ok p
  | p, name :: rest =>
    match p with
    | .file _ => .error (.notADirectory path)
    | .outside =>
      if name = "" || name = "." || name = ".." then d.walk path .outside rest
      else if maxName < (Text.Bytes.ofText name).length then .error (.tooLong path)
      else .error (.notFound path)
    | .directory names =>
      if name = "" || name = "." then d.walk path p rest
      else if name = ".." then
        match names with
        | [] => d.walk path .outside rest
        | _ :: _ => d.walk path (.directory names.dropLast) rest
      else if maxName < (Text.Bytes.ofText name).length then .error (.tooLong path)
      else
        let below := names ++ [name]
        match d.files.find? (fun f => f.1 == below) with
        | some f => d.walk path (.file f.2) rest
        | none =>
          if d.files.any (fun f => below.isPrefixOf f.1) then d.walk path (.directory below) rest
          else .error (.notFound path)

/-- What a path leads to. Absolute paths lead outside, where nothing but the null device is
    known. -/
def find (d : Directory) (path : String) : Except ReadFailure Place :=
  if path.toList.contains (Char.ofNat 0) then .error (.invalid path)
  else if path = "" then .error (.notFound path)
  else if path = nullDevice then .ok (.file "")
  else if maxPath < (Text.Bytes.ofText path).length then .error (.tooLong path)
  else
    d.walk path (if path.toList.head? == some '/' then .outside else .directory [])
      (path.splitOn "/")

/-- The content of a file. -/
def read (d : Directory) (path : String) : Except ReadFailure String :=
  match d.find path with
  | .error e => .error e
  | .ok (.file content) => .ok content
  | .ok _ => .error (.isDirectory path)

/-- The directory as surroundings of a command, in which no time passes. -/
def host (d : Directory) : Host Id where
  read path := d.read path
  isPresent path := (d.find path).isOk
  now := (0 : Nat)

end Directory

end TaintSeed.Command
