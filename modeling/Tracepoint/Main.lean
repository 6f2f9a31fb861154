import Tracepoint.Command.Run

namespace Tracepoint

def bytesOf (bytes : ByteArray) : List UInt8 := bytes.toList

def readEntryAt (path : String) : IO Entry := do
  if path.isEmpty then return .missing
  try
    return .file (bytesOf (← IO.FS.readBinFile path))
  catch
  | .invalidArgument (some _) 36 _ => return .tooLong
  | _ =>
    try
      return if ← (← IO.FS.realPath path).isDir then .directory else .missing
    catch _ => return .missing

/-- The paths that a run may look at. -/
def candidatePaths (args : List String) : List String :=
  let named := match Command.parseArguments args with
    | some a => a.files ++ (a.value? .config).toList
    | none => []
  (Settings.projectFile :: named ++ named.map Path.normalize).eraseDups

def readEnvironment (args : List String) : IO Environment := do
  let directory ← IO.currentDir
  let files ← (candidatePaths args).mapM fun path => return (path, ← readEntryAt path)
  let values ← Settings.keys.mapM fun key => do
    let name := Settings.variableName key
    return (name, ← IO.getEnv name)
  return {
    directory := directory.toString
    lookup := fun path => (files.lookup path).getD .missing
    lookupVariable := fun name => (values.lookup name).join }

def readStandardInput : IO Input := do
  let stdin ← IO.getStdin
  return Input.ofBytes (bytesOf (← stdin.readBinToEnd))

def finish (o : Command.Outcome) : IO UInt32 := do
  IO.print o.stdout
  IO.eprint o.stderr
  for r in o.log do
    IO.eprintln s!"{r.level.name} {r.logger}: {r.message}"
  return o.exit.toUInt32

end Tracepoint

open Tracepoint in
def main (args : List String) : IO UInt32 := do
  let env ← readEnvironment args
  match Command.plan env args with
  | .done outcome => finish outcome
  | .job job path =>
    let stdin ← if path = Command.standardInput && job.isValid then readStandardInput
      else pure (Input.ofLines [])
    finish (job.finish (Command.inputAt env stdin path))
