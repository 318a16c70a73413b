import ScriptLexer.Output.Error
import ScriptLexer.Text.Bytes

/-!
# File trees

A directory and the files in and below it, and what reading a path in it
gives. A path is walked name by name from the directory: a name must be found
in a directory, and everything after it, a closing slash included, needs a
directory to stand on. The first step that cannot be taken is the reason
given.

A place is known by the names that lead to it, in the shortest way: `..` takes the
last name back, and is itself a name only where there is none to take back. Of what
lies outside the directory nothing else is known, but it can be stepped into.
-/

namespace ScriptLexer

/-- **A file tree**: each file by the names that lead to it, with its
contents. Of files with the same names the last counts. A directory is there
because the path by which a file was put into the tree goes through it. -/
structure FileTree where
  /-- The files. -/
  files : List (List String × Bytes)
  /-- The directories. -/
  directories : List (List String)

namespace FileTree

/-- **A place** on the walk along a path. -/
inductive Place where
  /-- A directory, by the names that lead to it from the tree. -/
  | directory (names : List String)
  /-- A directory of which nothing is known. -/
  | unknown
  /-- A file. -/
  | file (contents : Bytes)
  deriving DecidableEq, Repr

/-- The longest name in bytes. -/
def nameLimit : Nat := 255

/-- The longest path in bytes. -/
def pathLimit : Nat := 4095

/-- The names of a path, between its slashes. -/
def namesOf (path : String) : List String :=
  (path.toList.splitOn '/').map String.ofList

/-- Whether a name of a path means the place itself. -/
def isStay (name : String) : Bool :=
  name == "" || name == "."

/-- Whether a name of a path means the directory above. -/
def isUp (name : String) : Bool :=
  name == ".."

/-- The names that lead one name further. -/
def follow (names : List String) (name : String) : List String :=
  if isStay name then names
  else if isUp name && !names.all isUp then names.dropLast
  else names ++ [name]

/-- The places on the way of some names, without the last. -/
def along (start : List String) : List String → List (List String)
  | [] => []
  | name :: names => start :: along (follow start name) names

/-- The tree of the files that were put at these paths, in order. -/
def ofFiles (files : List (String × Bytes)) : FileTree where
  files := files.map (fun f => ((namesOf f.1).foldl follow [], f.2))
  directories := files.flatMap (fun f => along [] (namesOf f.1))

/-- The contents of the file that names lead to. -/
def contents? (t : FileTree) (names : List String) : Option Bytes :=
  (t.files.reverse.find? (fun f => f.1 == names)).map Prod.snd

/-- Whether names lead to a directory. -/
def hasDirectory (t : FileTree) (names : List String) : Bool :=
  t.directories.contains names

/-- Look a name up in a directory. -/
def lookUp (t : FileTree) (names : List String) (name : String) : Except IoFault Place :=
  let there := names ++ [name]
  match t.contents? there with
  | some bytes => .ok (.file bytes)
  | none => if t.hasDirectory there then .ok (.directory there) else .error .noSuchFile

/-- **A step** of the walk: from a place by a name of the path. -/
def step (t : FileTree) (place : Place) (name : String) : Except IoFault Place :=
  match place with
  | .file _ => .error .notADirectory
  | .directory names =>
    if isStay name || isUp name then .ok (.directory (follow names name))
    else if nameLimit < (encode name).length then .error .nameTooLong
    else t.lookUp names name
  | .unknown =>
    if isStay name || isUp name then .ok .unknown
    else if nameLimit < (encode name).length then .error .nameTooLong
    else .error .noSuchFile

/-- The place a path leads to. -/
def walk (t : FileTree) (path : String) : Except IoFault Place :=
  match namesOf path with
  | "" :: names => names.foldlM t.step .unknown
  | names => names.foldlM t.step (.directory [])

/-- **Reading a path.** -/
def read (t : FileTree) (path : String) : Except IoFault Bytes :=
  if path.toList.contains '\x00' then .error .nulInName
  else if path = "" then .error .noSuchFile
  else if pathLimit < (encode path).length then .error .nameTooLong
  else
    match t.walk path with
    | .ok (.file bytes) => .ok bytes
    | .ok _ => .error .isADirectory
    | .error e => .error e

end FileTree

end ScriptLexer
