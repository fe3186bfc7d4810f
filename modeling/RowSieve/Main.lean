import RowSieve.Cli.Disk
import RowSieve.Log.Clock

/-! The program: it looks up on the disk what the command needs, carries the command out on
that, and writes what has changed. All decisions are taken in `RowSieve.Cli`. -/
namespace RowSieve.Cli

def pathText (p : Place) : String := String.ofList (FileTree.render p)

def lookUp (t : FileTree) (p : Place) : IO FileTree := do
  let path := (← IO.currentDir) / pathText p
  if ← path.isDir then return { t with folders := t.folders ++ [p] }
  else if ← path.pathExists then return t.put p (← IO.FS.readBinFile path).toList
  else return t

def lookUpAll (t : FileTree) (places : List Place) : IO FileTree :=
  places.eraseDups.foldlM lookUp t

def readStdin : IO Bytes := do
  let stdin ← IO.getStdin
  let mut content := ByteArray.empty
  repeat
    let part ← stdin.read 65536
    if part.isEmpty then break
    content := content ++ part
  return content.toList

/-- The time now, as the disk stamps a new file. -/
def readClock : IO Text := do
  let (_, path) ← IO.FS.createTempFile
  let stamp := (← path.metadata).modified
  IO.FS.removeFile path
  return Log.clockText stamp.sec.toNat (stamp.nsec.toNat / 1000)

def lookUpMachine (c : Command) : IO Machine := do
  let cwd := FileTree.namesOf (toString (← IO.currentDir)).toList
  let files ← lookUpAll ⟨[], []⟩ (c.paths.flatMap (FileTree.placesOf cwd))
  let stdin ← if c.readsStdin then readStdin else pure []
  let m : Machine := ⟨files, cwd, stdin, ← readClock⟩
  match m.logPath? c with
  | none => return m
  | some path => return { m with files := ← lookUpAll files (FileTree.placesOf cwd path) }

def writeChanges (before after : FileTree) : IO Unit := do
  for p in before.newFolders after do
    IO.FS.createDirAll (pathText p)
  for (p, content) in before.changedFiles after do
    IO.FS.writeBinFile (pathText p) ⟨content.toArray⟩

def perform (c : Command) : IO UInt32 := do
  let m ← lookUpMachine c
  let outcome := execute m c
  writeChanges m.files outcome.files
  (← IO.getStderr).putStr (String.ofList outcome.stderr)
  let stdout ← IO.getStdout
  stdout.write ⟨outcome.stdout.toArray⟩
  stdout.flush
  return outcome.code.toUInt32

end RowSieve.Cli

open RowSieve Cli in
def main (args : List String) : IO UInt32 :=
  match Command.parse? (args.map String.toList) with
  | some c => do
    try perform c
    catch e =>
      (← IO.getStderr).putStrLn ("Error: " ++ toString e)
      return 1
  | none => do
    (← IO.getStderr).putStr (String.ofList usage)
    return 2
