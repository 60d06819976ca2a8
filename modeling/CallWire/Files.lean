import CallWire.Path
/-!
This module contains the files that a program can see, by their paths from a root or from a working
directory, and the faults that keep a path from being read or written.
-/

namespace CallWire

inductive FileEntry where
  | file (content : Bytes)
  | directory
  deriving DecidableEq, Repr, Inhabited

inductive FileFault where
  | missing
  | notADirectory
  | isADirectory
  | notText
  | zeroInPath
  | nameTooLong
  deriving DecidableEq, Repr, Inhabited

namespace FileFault

def summary : FileFault → String
  | .missing => "No such file or directory"
  | .notADirectory => "Not a directory"
  | .isADirectory => "Is a directory"
  | .notText => "stream did not contain valid UTF-8"
  | .zeroInPath => "file name contained an unexpected NUL byte"
  | .nameTooLong => "File name too long"

def kindName : FileFault → String
  | .missing => "NotFound"
  | .notADirectory => "NotADirectory"
  | .isADirectory => "IsADirectory"
  | .notText => "InvalidData"
  | .zeroInPath => "InvalidInput"
  | .nameTooLong => "InvalidFilename"

def code? : FileFault → Option Nat
  | .missing => some 2
  | .notADirectory => some 20
  | .isADirectory => some 21
  | .nameTooLong => some 36
  | .notText => none
  | .zeroInPath => none

def message (f : FileFault) : String :=
  match f.code? with
  | some code => f.summary ++ " (os error " ++ code.repr ++ ")"
  | none => f.summary

def describe (f : FileFault) : String :=
  match f.code? with
  | some code =>
    "Os \x7b code: " ++ code.repr ++ ", kind: " ++ f.kindName ++ ", message: \""
      ++ f.summary ++ "\" \x7d"
  | none => "Error \x7b kind: " ++ f.kindName ++ ", message: \"" ++ f.summary ++ "\" \x7d"

end FileFault

structure FileTree where
  here : List Bytes := []
  entries : List (List Bytes × FileEntry) := []
  deriving DecidableEq, Inhabited

namespace FileTree

def maxNameSize : Nat := 255

def maxPathSize : Nat := 4095

def dot : Bytes := [0x2E]

def dots : Bytes := [0x2E, 0x2E]

def start (t : FileTree) (path : Path) : List Bytes := if path.isAbsolute then [] else t.here

def insert (t : FileTree) (key : List Bytes) (e : FileEntry) : FileTree :=
  { t with entries := (key, e) :: t.entries.filter (·.1 ≠ key) }

def put (t : FileTree) (path : Path) (e : FileEntry) : FileTree :=
  t.insert (t.start path ++ path.names.filter (fun c => c ≠ [] ∧ c ≠ dot)) e

def entry? (t : FileTree) (key : List Bytes) : Option FileEntry :=
  match t.entries.lookup key with
  | some e => some e
  | none =>
    if key.isPrefixOf t.here || t.entries.any (fun e => key.isPrefixOf e.1) then some .directory
    else none

/-- Where some steps lead from a directory, and what stands there. The root is above itself. -/
def walk (t : FileTree) :
    List Bytes → List Bytes → Except FileFault (List Bytes × Option FileEntry)
  | dir, [] => .ok (dir, some .directory)
  | dir, c :: rest =>
    if c = [] ∨ c = dot then t.walk dir rest
    else if c = dots then t.walk dir.dropLast rest
    else if maxNameSize < c.length then .error .nameTooLong
    else
      let key := dir ++ [c]
      match t.entry? key with
      | none => if rest.all List.isEmpty then .ok (key, none) else .error .missing
      | some .directory => t.walk key rest
      | some (.file content) =>
        if rest.isEmpty then .ok (key, some (.file content)) else .error .notADirectory

def pathFault? (path : Path) : Option FileFault :=
  if path.bytes.contains 0 then some .zeroInPath
  else if path.bytes.isEmpty then some .missing
  else if maxPathSize < path.bytes.length then some .nameTooLong
  else none

def locate (t : FileTree) (path : Path) : Except FileFault (List Bytes × Option FileEntry) :=
  match pathFault? path with
  | some f => .error f
  | none => t.walk (t.start path) path.names

def read (t : FileTree) (path : Path) : Except FileFault Bytes :=
  match t.locate path with
  | .error f => .error f
  | .ok (_, none) => .error .missing
  | .ok (_, some .directory) => .error .isADirectory
  | .ok (_, some (.file content)) => .ok content

def readText (t : FileTree) (path : Path) : Except FileFault String :=
  match t.read path with
  | .error f => .error f
  | .ok content =>
    match content.text? with
    | some s => .ok s
    | none => .error .notText

/-- Where a path leads to write there. A slash at its end says that a directory is meant. -/
def locateTarget (t : FileTree) (path : Path) :
    Except FileFault (List Bytes × Option FileEntry) :=
  match pathFault? path with
  | some f => .error f
  | none =>
    let names := path.names
    if names.getLast? = some [] then
      let names := (names.reverse.dropWhile List.isEmpty).reverse
      (t.walk (t.start path) names).map (fun (key, _) => (key, some .directory))
    else t.walk (t.start path) names

def writeText (t : FileTree) (path : Path) (text : String) : Except FileFault FileTree :=
  match t.locateTarget path with
  | .error f => .error f
  | .ok (_, some .directory) => .error .isADirectory
  | .ok (key, _) => .ok (t.insert key (.file (.ofText text)))

end FileTree
end CallWire
