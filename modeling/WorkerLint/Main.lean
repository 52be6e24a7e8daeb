import WorkerLint.Cli.Run
import WorkerLint.Host

/-! The command line. The files to work on are named on the standard input, one on each line, and
engines run on a host over them. -/

namespace WorkerLint

def loadFile (disk : Disk) (name : String) : IO Disk := do
  try
    let content ← IO.FS.readBinFile name
    pure (disk.writeFile ⟨name.toList⟩ content.toList)
  catch _ => pure disk

def loadDisk (names : List String) : IO Disk :=
  (names.filter (· ≠ "")).foldlM loadFile (Disk.standard ["tmp".toList, "work".toList])

def scratchFile : Path :=
  ⟨"/tmp/importlint-scratch.js".toList⟩

def readEnvironment : IO Cli.Environment := do
  let engine ← IO.getEnv "IMPORTLINT_ENGINE"
  let logSpec ← IO.getEnv "RUST_LOG"
  pure ⟨engine.map String.toList, logSpec.map String.toList⟩

end WorkerLint

open WorkerLint in
def main (args : List String) : IO UInt32 := do
  let names ← (← IO.getStdin).lines
  let disk ← loadDisk names.toList
  let world := Cli.World.ofHost (Disk.host (.ok scratchFile) [])
  let (done, _) := Cli.program world (← readEnvironment) (args.map String.toList) disk
  IO.print (String.ofList done.stdout)
  IO.eprint (String.ofList done.stderr)
  pure done.code.toUInt32
