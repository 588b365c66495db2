import Conformance.CommandLine
import Conformance.Host.Installed
import Conformance.Programs

/-!
# The program

Reads the working directory and the environment, runs the command line on them, and prints what it
says. What a run does to the disk is not carried over.
-/

open Conformance

/-- How deep directories are read. -/
def depthLimit : Nat := 64

/-- The path of something below `top`, as seen from a directory `depth` names below `top`. -/
def seenFrom (depth : Nat) (top path : Path) : Path :=
  ⟨"/".intercalate (List.replicate depth ".." ++ [(path.relativeTo top).text])⟩

/-- What there is at an entry of a directory `depth` names below the working directory `top`, with
    everything below it, each under its path. A link to a directory stays a link, and what cannot be
    read is left out. -/
def readEntry (top : Path) (before : List String) :
    Nat → IO.FS.DirEntry → IO (List (Path × Disk.Item))
  | 0, _ => return []
  | fuel + 1, entry => do
    let names := before ++ [entry.fileName]
    let path : Path := ⟨"/".intercalate names⟩
    try
      let isLink := (← entry.path.symlinkMetadata).type == .symlink
      if !(← entry.path.isDir) then
        return [(path, .file (← IO.FS.readBinFile entry.path))]
      else if isLink then
        let target : Path := ⟨(← IO.FS.realPath entry.path).toString⟩
        return [(path, .link (seenFrom before.length top target))]
      else
        let below ← (← entry.path.readDir).toList.mapM (readEntry top names fuel)
        return (path, .directory) :: below.flatten
    catch _ => return []

/-- The working directory on a disk. -/
def readWorkingDirectory : IO Disk := do
  let top ← IO.FS.realPath (← IO.currentDir)
  let found ← (← top.readDir).toList.mapM (readEntry ⟨top.toString⟩ [] depthLimit)
  return Installed.disk.addAll found.flatten

def main (words : List String) : IO UInt32 := do
  let host := Programs.host (← readWorkingDirectory)
  let stdout ← IO.getStdout
  let environment : Environment := {
    binary := ← IO.getEnv "WRENCONFORM_BIN"
    noColor := (← IO.getEnv "NO_COLOR").isSome
    terminal := ← stdout.isTty }
  let result := CommandLine.run words environment Host.disk Programs.executor host
  stdout.putStr result.stdout
  (← IO.getStderr).putStr result.stderr
  return UInt32.ofNat result.status.code
