import NewGrf.Command.Run

namespace NewGrf

/-- The files below a folder, whose own path is `lead`. Folders may nest to some depth. -/
def readFolder : Nat → String → IO (Dict FileEntry)
  | 0, _ => pure []
  | depth + 1, lead => do
    let entries ← ((← IO.currentDir).join lead).readDir
    let parts ← entries.toList.mapM fun e => do
      let name := Path.join lead e.fileName
      if ← e.path.isDir then readFolder depth name
      else
        let time := (← e.path.metadata).modified.sec
        pure [(name, { content := .bytes (← IO.FS.readBinFile e.path), time : FileEntry })]
    pure parts.flatten

def writeChanged (files : Dict FileEntry) (since : Int) : IO Unit := do
  for (path, entry) in files do
    match entry.content with
    | .bytes data =>
      if since ≤ entry.time then
        let (folder, _) := Path.split path
        unless folder.isEmpty do IO.FS.createDirAll folder
        IO.FS.writeBinFile path data
    | .picture _ => pure ()

def readsStandardInput (args : List String) : Bool :=
  match Command.readArguments args {} [] with
  | .ok (_, files) => files.isEmpty
  | .error _ => false

def runCommandLine (args : List String) : IO UInt32 := do
  let files ← readFolder 64 ""
  let clock := files.foldl (fun t (_, f) => max t (f.time + 1)) 0
  let output ← IO.getStdout
  let start : Session := {
    files := { home := toString (← IO.currentDir), files, clock }
    console := { terminal := ← output.isTty } }
  let input ← if readsStandardInput args then (← IO.getStdin).readToEnd else pure ""
  let (code, s) := match EStateM.run (Command.runReporting args input) start with
    | .ok code s => (code, s)
    | .error (.exit code) s => (code, s)
    | .error (.fault _) s | .error (.system ..) s => (1, s)
  writeChanged s.files.files clock
  output.putStr s.console.out
  (← IO.getStderr).putStr s.console.err
  pure code.toUInt32

end NewGrf

def main (args : List String) : IO UInt32 :=
  NewGrf.runCommandLine args
