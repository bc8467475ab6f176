import DefOut.Ascii
import DefOut.Bytes

set_option autoImplicit false

/-!
Slash-separated paths, read lexically: nothing here looks at a file system. `clean` is the
shortest spelling that names the same place when no component is a link.
-/
namespace DefOut.Path

def isAbsolute (path : Bytes) : Bool :=
  path.head? == some Ascii.slash

def parts (path : Bytes) : List Bytes :=
  Bytes.splitOn Ascii.slash path

/-- The components that a path keeps, innermost first, when `part` comes after those in
`kept`. A parent component takes back the one before it; at the root it has nothing to take
back, and in a relative path it stays when only parents are before it. -/
def push (rooted : Bool) (kept : List Bytes) (part : Bytes) : List Bytes :=
  if part = [] ∨ part = "." then kept
  else if part = ".." then
    match kept with
    | [] => if rooted then [] else [".."]
    | last :: rest => if last = ".." then ".." :: last :: rest else rest
  else part :: kept

def cleanParts (path : Bytes) : List Bytes :=
  ((parts path).foldl (push (isAbsolute path)) []).reverse

/-- A path from its components. The empty relative path is `.`. -/
def ofParts (rooted : Bool) (components : List Bytes) : Bytes :=
  if rooted then "/" ++ Bytes.joinWith "/" components
  else if components.isEmpty then "."
  else Bytes.joinWith "/" components

def clean (path : Bytes) : Bytes :=
  ofParts (isAbsolute path) (cleanParts path)

def beforeLast (path : Bytes) : Bytes :=
  (path.reverse.dropWhile (· ≠ Ascii.slash)).reverse

def afterLast (path : Bytes) : Bytes :=
  (path.reverse.takeWhile (· ≠ Ascii.slash)).reverse

def directory (path : Bytes) : Bytes :=
  clean (beforeLast path)

/-- The last component of a path: `.` for the empty path, `/` for slashes only. -/
def base (path : Bytes) : Bytes :=
  if path.isEmpty then "."
  else
    let trimmed := path.trimRight (· = Ascii.slash)
    if trimmed.isEmpty then "/" else afterLast trimmed

def extension (path : Bytes) : Bytes :=
  let name := afterLast path
  if name.contains Ascii.dot then
    Ascii.dot :: (name.reverse.takeWhile (· ≠ Ascii.dot)).reverse
  else []

def join (folder path : Bytes) : Bytes :=
  if folder.isEmpty then (if path.isEmpty then [] else clean path)
  else clean (folder ++ "/" ++ path)

/-- An absolute path is kept as it is; a relative one is taken from `folder`. -/
def resolve (folder path : Bytes) : Bytes :=
  if isAbsolute path then path else join folder path

end DefOut.Path
