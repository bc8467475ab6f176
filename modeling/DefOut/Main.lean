import DefOut.Process

set_option autoImplicit false

/-!
The command line. The files below the working directory are read, the run itself works on
what was read (`runProcess`), and the files it changed are written back. Links are left out.
-/
namespace DefOut

partial def readTree (entry : IO.FS.DirEntry) : IO (Option Node) := do
  match (← entry.path.symlinkMetadata).type with
  | .dir =>
    let entries ← entry.path.readDir
    let nodes ← entries.toList.filterMapM fun e => do
      return (← readTree e).map fun node => (Bytes.ofString e.fileName, node)
    return some (.folder nodes)
  | .file => return some (.file (← IO.FS.readBinFile entry.path).toList)
  | _ => return none

def replaceFile (path : String) (content : Bytes) : IO Unit := do
  IO.FS.writeBinFile (path ++ ".tmp") content.toByteArray
  IO.FS.rename (path ++ ".tmp") path

partial def writeTree (place : String) (before : Option Node) : (now : Node) → IO Unit
  | .file content => do
    let same := match before with
      | some (.file old) => old == content
      | _ => false
    unless same do replaceFile place content
  | .folder entries => do
    if before.isNone then IO.FS.createDirAll place
    for (name, node) in entries do
      match String.fromUTF8? name.toByteArray with
      | some name' => writeTree (place ++ "/" ++ name') (before.bind (Node.get? [name])) node
      | none => pure ()

end DefOut

def main (arguments : List String) : IO UInt32 := do
  let root := (← DefOut.readTree ⟨".", "."⟩).getD (.folder [])
  let result := DefOut.runProcess .ofProject (arguments.map DefOut.Bytes.ofString) ⟨⟨root⟩, {}⟩
  let out ← IO.getStdout
  let err ← IO.getStderr
  out.write result.around.outlet.text.toByteArray
  out.flush
  for line in result.complaints do
    err.write (line ++ "\n").toByteArray
  DefOut.writeTree "." (some root) result.around.files.root
  return result.exitCode.toUInt32
