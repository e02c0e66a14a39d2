import ForwardProxy.Fault
import ForwardProxy.Text.Utf8

namespace ForwardProxy

/-!
# Files

What reading a file by its path comes to.

* `Path.parse` — a path as its parts.
* `FileTable.read` — the octets of a file, or the fault.
-/

/-- A path, taken apart at its slashes. -/
structure Path where
  absolute : Bool
  /-- The parts, without empty ones and without those that stand for where they are. -/
  parts : List Text
  /-- Whether only a directory can be meant. -/
  directory : Bool
  deriving DecidableEq, Repr

namespace Path

/-- The parts of a text between slashes. -/
def split : Text → List Text
  | [] => [[]]
  | c :: r =>
    if c = '/' then [] :: split r
    else
      match split r with
      | [] => [[c]]
      | part :: rest => (c :: part) :: rest

/-- A path as its parts. -/
def parse (t : Text) : Path where
  absolute := t.head? = some '/'
  parts := (split t).filter fun part => !part.isEmpty && part != ['.']
  directory := t.getLast? = some '/'

end Path

/-- What a path leads to. -/
inductive FileEntry where
  | file (content : Bytes)
  | directory
  deriving DecidableEq, Repr

/-- The files and directories that there are; the root and the place where the program runs are
    always directories. -/
structure FileTable where
  entries : List (Path × FileEntry)
  deriving DecidableEq, Repr

namespace FileTable

/-- A table of files and directories by the text of their paths. -/
def ofList (entries : List (Text × FileEntry)) : FileTable :=
  ⟨entries.map fun e => (Path.parse e.1, e.2)⟩

/-- The longest part of a path, in octets. -/
def longestPart : Nat := 255

/-- The longest path, in octets. -/
def longestPath : Nat := 4095

/-- What lies in a directory under a name. -/
def entry? (files : FileTable) (absolute : Bool) (parts : List Text) : Option FileEntry :=
  (files.entries.find? fun e => e.1.absolute == absolute && e.1.parts == parts).map Prod.snd

/-- Walks from a directory along the rest of a path. -/
def walk (files : FileTable) (path : Path) : (reached : List Text) → List Text → Except Fault Bytes
  | _, [] => .error (.system 21)
  | reached, part :: rest =>
    if longestPart < (Utf8.encode part).length then .error (.system 36)
    else if part = ['.', '.'] then walk files path reached.dropLast rest
    else
      match files.entry? path.absolute (reached ++ [part]) with
      | none => .error (.system 2)
      | some .directory => walk files path (reached ++ [part]) rest
      | some (.file content) =>
        if rest.isEmpty && !path.directory then .ok content else .error (.system 20)

/-- The octets of a file. -/
def read (files : FileTable) (t : Text) : Except Fault Bytes :=
  if t.contains '\x00' then
    .error (.described .invalidInput "file name contained an unexpected NUL byte")
  else if t.isEmpty then .error (.system 2)
  else if longestPath < (Utf8.encode t).length then .error (.system 36)
  else files.walk (Path.parse t) [] (Path.parse t).parts

end FileTable

end ForwardProxy
