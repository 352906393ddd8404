import GitPractice.Text.Join

/-!
# The host of the program

What the program needs of the machine that it runs on: to read and save files and to list
directories. A `Host` offers this in some monad. A `FileTree` is a host of its own, which holds its
files in memory.
-/

namespace GitPractice.Program

open Text (piecesAt)

inductive FileError where
  | notFound
  | notDirectory
  | isDirectory
  | notText
  | other (reason : String)
  deriving DecidableEq, Repr

def FileError.message : FileError → String
  | .notFound => "No such file or directory (os error 2)"
  | .notDirectory => "Not a directory (os error 20)"
  | .isDirectory => "Is a directory (os error 21)"
  | .notText => "stream did not contain valid UTF-8"
  | .other reason => reason

structure Host (m : Type → Type) where
  /-- The text of a file. -/
  read : String → m (Except FileError String)
  /-- There is a file or directory at a path. -/
  isThere : String → m Bool
  /-- The names of the files in a directory, directories left out. -/
  list : String → m (Except FileError (List String))
  /-- Makes the directories on the way to a file and writes it. -/
  save : String → String → m (Except FileError Unit)

/-- A path with a name below it. -/
def joinPath (dir name : String) : String :=
  if dir.isEmpty || dir.endsWith "/" then dir ++ name else dir ++ "/" ++ name

/-! ## Files in memory -/

inductive Node where
  | file (text : String)
  | directory
  deriving DecidableEq, Repr

/-- Files and directories by their paths from the root, and the directory that other paths start
from. The directories on the way to an entry are there too. -/
structure FileTree where
  entries : List (List String × Node)
  cwd : List String
  deriving DecidableEq, Repr

namespace FileTree

/-- What is at a path from the root. -/
def node? (t : FileTree) (path : List String) : Option Node :=
  match t.entries.lookup path with
  | some n => some n
  | none =>
    if path = [] || path.isPrefixOf t.cwd || t.entries.any fun e => path.isPrefixOf e.1 then
      some .directory
    else none

def parts (path : String) : List String := (piecesAt '/' path.toList).map String.ofList

/-- Where a path starts. -/
def origin (t : FileTree) (path : String) : List String :=
  if path.toList.head? = some '/' then [] else t.cwd

/-- The place that one part of a path leads to. -/
def enter (place : List String) (part : String) : List String :=
  if part = "" || part = "." then place
  else if part = ".." then place.dropLast
  else place ++ [part]

/-- The place at the end of a path, all but the last part of which have to be directories. -/
def walk (t : FileTree) (place : List String) : List String → Except FileError (List String)
  | [] => .ok place
  | part :: rest =>
    match t.node? place with
    | some .directory => t.walk (enter place part) rest
    | some (.file _) => .error .notDirectory
    | none => .error .notFound

def resolve (t : FileTree) (path : String) : Except FileError (List String) :=
  if path = "" then .error .notFound else t.walk (t.origin path) (parts path)

def read (t : FileTree) (path : String) : Except FileError String := do
  let place ← t.resolve path
  match t.node? place with
  | some (.file text) => .ok text
  | some .directory => .error .isDirectory
  | none => .error .notFound

def isThere (t : FileTree) (path : String) : Bool :=
  match t.resolve path with
  | .ok place => (t.node? place).isSome
  | .error _ => false

def list (t : FileTree) (path : String) : Except FileError (List String) := do
  let place ← t.resolve path
  match t.node? place with
  | some .directory =>
    .ok (t.entries.filterMap fun e =>
      match e.2 with
      | .file _ => if e.1.dropLast = place then e.1.getLast? else none
      | .directory => none)
  | some (.file _) => .error .notDirectory
  | none => .error .notFound

def put (t : FileTree) (place : List String) (n : Node) : FileTree :=
  { t with entries := (t.entries.filter fun e => e.1 != place) ++ [(place, n)] }

/-- Makes the directories on a way. -/
def makeWay (t : FileTree) (place : List String) : List String → Except FileError FileTree
  | [] => .ok t
  | part :: rest =>
    let next := enter place part
    match t.node? next with
    | some .directory => t.makeWay next rest
    | some (.file _) => .error .notDirectory
    | none => (t.put next .directory).makeWay next rest

def save (t : FileTree) (path text : String) : Except FileError FileTree := do
  let named := (parts path).filter fun p => p != "" && p != "."
  let t ← t.makeWay (t.origin path) named.dropLast
  let place ← t.resolve path
  match t.node? place with
  | some .directory => .error .isDirectory
  | _ => .ok (t.put place (.file text))

/-- The host whose files are those of the tree. -/
def host : Host (StateM FileTree) where
  read path := do return (← get).read path
  isThere path := do return (← get).isThere path
  list path := do return (← get).list path
  save path text := do
    match (← get).save path text with
    | .ok t => do
      set t
      return .ok ()
    | .error e => return .error e

end FileTree

end GitPractice.Program
