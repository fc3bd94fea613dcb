import VideoTerminal.CommandLine.Replay

/-!
The command line program: it finds what a run needs, and prints what the run
leaves behind.
-/

namespace VideoTerminal.CommandLine

/-- Read a stream to its end. -/
partial def readToEnd (stream : IO.FS.Stream) (found : ByteArray) : IO ByteArray := do
  let chunk ← stream.read 65536
  if chunk.isEmpty then return found
  readToEnd stream (found ++ chunk)

/-- The bytes of an open file. A directory can be opened, but not read. -/
def readResource (handle : IO.FS.Handle) : IO Resource := do
  try return .file (← handle.readBinToEnd).toList
  catch _ => return .folder

/-- What a path leads to. -/
def findResource (path : String) : IO (Option Resource) := do
  try return some (← readResource (← IO.FS.Handle.mk path .read))
  catch _ => return none

/-- The directory that the settings are looked for in. -/
def homeFolder : IO (Option String) := do
  match ← IO.getEnv "HOME" with
  | some home => return some home
  | none => IO.getEnv "USERPROFILE"

end VideoTerminal.CommandLine

open VideoTerminal CommandLine in
def main (arguments : List String) : IO UInt32 := do
  let home ← homeFolder
  let resources ← (paths arguments home).mapM fun path => do
    return (path, ← findResource path)
  let input ←
    if readsInput arguments then readToEnd (← IO.getStdin) ByteArray.empty
    else pure ByteArray.empty
  let outcome := run arguments
    { home
      lookUp := fun path => (resources.lookup path).join
      input := input.toList }
  IO.print outcome.output
  unless outcome.complaint.isEmpty do IO.eprintln outcome.complaint
  return outcome.code.toUInt32
