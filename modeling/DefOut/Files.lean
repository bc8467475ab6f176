import DefOut.Path

set_option autoImplicit false

/-!
A file system as a tree. Paths are looked up component by component from the working
directory, which is also the root: the parent of the root is the root. Operations fail with
the cause and the wording an operating system gives; a failed write leaves every file as it
was.
-/
namespace DefOut

inductive Node where
  | file (content : Bytes)
  | folder (entries : List (Bytes × Node))

inductive OsError where
  | notFound
  | notDirectory
  | isDirectory
  | exists
  | nameTooLong
  | invalid
  deriving DecidableEq, Repr

def OsError.message : OsError → Bytes
  | notFound => "no such file or directory"
  | notDirectory => "not a directory"
  | isDirectory => "is a directory"
  | .exists => "file exists"
  | nameTooLong => "file name too long"
  | invalid => "invalid argument"

structure FileError where
  action : Bytes
  path : Bytes
  cause : OsError
  deriving DecidableEq, Repr

def FileError.message (e : FileError) : Bytes :=
  e.action ++ " " ++ e.path ++ ": " ++ e.cause.message

namespace Node

def child? (name : Bytes) (entries : List (Bytes × Node)) : Option Node :=
  (entries.find? fun e => e.1 == name).map Prod.snd

/-- Put an entry in place of the one with its name, or after the others. -/
def setEntry (name : Bytes) (node : Node) : List (Bytes × Node) → List (Bytes × Node)
  | [] => [(name, node)]
  | e :: rest => if e.1 = name then (name, node) :: rest else e :: setEntry name node rest

def get? : List Bytes → Node → Option Node
  | [], n => some n
  | _ :: _, file _ => none
  | name :: rest, folder entries =>
    match child? name entries with
    | some child => get? rest child
    | none => none

/-- Replace the node at these components. Missing directories on the way are made, and a file
in the way is kept. -/
def set : Node → List Bytes → Node → Node
  | _, [], node => node
  | file content, _ :: _, _ => file content
  | folder entries, name :: rest, node =>
    folder (setEntry name (set ((child? name entries).getD (folder [])) rest node) entries)

def remove : List Bytes → Node → Node
  | [], n => n
  | _ :: _, file content => file content
  | [name], folder entries => folder (entries.filter fun e => e.1 ≠ name)
  | name :: rest, folder entries =>
    match child? name entries with
    | some child => folder (setEntry name (remove rest child) entries)
    | none => folder entries

def inOrder {α : Type} (entries : List (Bytes × α)) : List (Bytes × α) :=
  entries.mergeSort fun a b => Bytes.le a.1 b.1

/-- The files below a directory with their components, directories in the order of their
entries' names and each directory where its name stands. -/
def walk : Node → List (List Bytes × Bytes)
  | file content => [([], content)]
  | folder entries =>
    let below := entries.attach.map fun e => (e.1.1, walk e.1.2)
    (inOrder below).flatMap fun e => e.2.map fun f => (e.1 :: f.1, f.2)
termination_by n => sizeOf n
decreasing_by
  have := List.sizeOf_lt_of_mem e.2
  have : sizeOf e.1 = 1 + sizeOf e.1.1 + sizeOf e.1.2 := by cases e.1; rfl
  simp_wf
  omega

end Node

structure Files where
  root : Node

namespace Files

def empty : Files := ⟨.folder []⟩

/-- Look up `parts` from the directory at `here`, given innermost first. The result is where
they lead. Every component but the last has to be a directory that exists. -/
def lookupFrom (root : Node) : List Bytes → List Bytes → Except OsError (List Bytes × Option Node)
  | here, [] => .ok (here, root.get? here.reverse)
  | here, part :: rest =>
    match root.get? here.reverse with
    | none => .error .notFound
    | some (.file _) => .error .notDirectory
    | some (.folder entries) =>
      if part = [] ∨ part = "." then lookupFrom root here rest
      else if part = ".." then lookupFrom root here.tail rest
      else if 255 < part.length then .error .nameTooLong
      else
        match Node.child? part entries with
        | some _ => lookupFrom root (part :: here) rest
        | none => if rest = [] then .ok (part :: here, none) else .error .notFound

/-- Where a path leads, outermost component first, and what is there. The last component need
not exist. -/
def locate (fs : Files) (path : Bytes) : Except OsError (List Bytes × Option Node) :=
  if path.isEmpty then .error .notFound
  else if path.contains 0 then .error .invalid
  else if 4096 ≤ path.length then .error .nameTooLong
  else
    match lookupFrom fs.root [] (Path.parts path) with
    | .ok (here, node) => .ok (here.reverse, node)
    | .error e => .error e

def find (fs : Files) (path : Bytes) : Except OsError Node :=
  match fs.locate path with
  | .ok (_, some node) => .ok node
  | .ok (_, none) => .error .notFound
  | .error e => .error e

def read (fs : Files) (path : Bytes) : Except FileError Bytes :=
  match fs.find path with
  | .ok (.file content) => .ok content
  | .ok (.folder _) => .error ⟨"read", path, .isDirectory⟩
  | .error e => .error ⟨"open", path, e⟩

def contents (fs : Files) : List (Bytes × Bytes) :=
  Node.inOrder (fs.root.walk.map fun f => (Bytes.joinWith "/" f.1, f.2))

def put (fs : Files) (path content : Bytes) : Files :=
  ⟨fs.root.set (Path.cleanParts ("/" ++ path)) (.file content)⟩

def putFolder (fs : Files) (path : Bytes) : Files :=
  let components := Path.cleanParts ("/" ++ path)
  match fs.root.get? components with
  | some _ => fs
  | none => ⟨fs.root.set components (.folder [])⟩

def delete (fs : Files) (path : Bytes) : Files :=
  ⟨fs.root.remove (Path.cleanParts ("/" ++ path))⟩

/-- Make the directories at these paths one after the other, each inside the one before it.
What was made before a failure stays. -/
def makeFolders (fs : Files) : List Bytes → Files × Except FileError Unit
  | [] => (fs, .ok ())
  | path :: rest =>
    match fs.locate path with
    | .ok (_, some (.folder _)) => makeFolders fs rest
    | .ok (_, some (.file _)) => (fs, .error ⟨"mkdir", path, .notDirectory⟩)
    | .ok (components, none) => makeFolders ⟨fs.root.set components (.folder [])⟩ rest
    | .error e => (fs, .error ⟨"mkdir", path, e⟩)

def ancestry (path : Bytes) : List Bytes :=
  let components := Path.cleanParts path
  if components.isEmpty then [path]
  else (List.range components.length).map fun n =>
    Path.ofParts (Path.isAbsolute path) (components.take (n + 1))

end Files

inductive WriteError where
  | folder (path : Bytes) (cause : FileError)
  | inspect (path : Bytes) (cause : FileError)
  | prepare (path : Bytes) (cause : OsError)
  | replace (path : Bytes) (cause : OsError)
  deriving DecidableEq, Repr

/-- The message of a failed write. The new content is first written to a temporary file, whose
name is not part of the message. -/
def WriteError.message : WriteError → Bytes
  | .folder path cause => "failed to create directory " ++ path ++ ": " ++ cause.message
  | .inspect path cause => "failed to write " ++ path ++ ": " ++ cause.message
  | .prepare path cause => "failed to write " ++ path ++ ": open <tmp>: " ++ cause.message
  | .replace path cause =>
    "failed to write " ++ path ++ ": rename <tmp> " ++ path ++ ": " ++ cause.message

def WriteError.cause : WriteError → OsError
  | .folder _ e => e.cause
  | .inspect _ e => e.cause
  | .prepare _ e => e
  | .replace _ e => e

namespace Files

/-- The temporary file of a path has its name with a dot before it and a random number after it.
A number can have nineteen digits, and a name that leaves no room for them is refused. -/
def refusesTemporary (path : Bytes) : Bool :=
  decide (255 < 1 + (Path.base path).length + 19)

/-- Write a file as a whole: its directory is made if needed, and the content replaces what is
there in one step, or nothing but directories changes. -/
def write (fs : Files) (path content : Bytes) : Files × Except WriteError Unit :=
  let folder := Path.directory path
  match fs.makeFolders (ancestry folder) with
  | (fs, .error e) => (fs, .error (.folder folder e))
  | (fs, .ok ()) =>
    match fs.locate path with
    | .error .notFound =>
      (fs, .error (if refusesTemporary path then .prepare path .nameTooLong
        else .replace path .notFound))
    | .error e => (fs, .error (.inspect path ⟨"lstat", path, e⟩))
    | .ok (components, node) =>
      if refusesTemporary path then (fs, .error (.prepare path .nameTooLong))
      else
        match node with
        | some (.folder _) => (fs, .error (.replace path .exists))
        | _ => (⟨fs.root.set components (.file content)⟩, .ok ())

end Files

/-- Why a search for files failed. Searching for every ending is a mistake of the caller. -/
inductive SearchError where
  | emptyEnding
  | inaccessible (path : Bytes) (cause : FileError)
  deriving DecidableEq, Repr

def SearchError.message : SearchError → Bytes
  | emptyEnding => "extension must not be empty"
  | inaccessible path cause => "error accessing path " ++ path ++ ": " ++ cause.message

/-- The file at `path` itself when its name ends with `ending`, or, for a directory, all files
below it whose names do, in the order of a walk. -/
def Files.withEnding (fs : Files) (path ending : Bytes) : Except SearchError (List Bytes) :=
  if ending.isEmpty then .error .emptyEnding
  else
    match fs.find path with
    | .error e => .error (.inaccessible path ⟨"stat", path, e⟩)
    | .ok (.file _) => .ok (if (Path.base path).endsWith ending then [path] else [])
    | .ok (.folder entries) =>
      .ok (((Node.folder entries).walk.filter fun f =>
        (f.1.getLastD []).endsWith ending).map fun f =>
          Path.join path (Bytes.joinWith "/" f.1))

end DefOut
