/-
# The command `jsl`

Takes a snapshot of the files that the command line names, runs it, and writes what it leaves.
-/

import Scriptlet.Command.Run

namespace Scriptlet.Command

/-- The entry at a place of the file system. A blank path leads nowhere. -/
partial def snapshot (path : String) : IO (Option Entry) := do
  if path = "" then return none
  let place := (← IO.currentDir) / path
  if ← place.isDir then
    let found ← place.readDir
    let entries ← found.toList.filterMapM fun entry => do
      return (← snapshot (path ++ "/" ++ entry.fileName)).map fun inner => (entry.fileName, inner)
    return some (.directory entries)
  else if ← place.pathExists then
    let bytes ← try (some <$> IO.FS.readBinFile place) catch _ => pure none
    return some (.file (bytes.bind String.fromUTF8?))
  else return none

/-- The paths that a request reads. -/
def pathsOf : Request → List String
  | .run arguments =>
    arguments.dialect.toList ++
      match arguments.task with
      | .tokens file _ => [file]
      | .ast file => [file]
      | .check path => [path]
  | _ => []

end Scriptlet.Command

open Scriptlet.Command

def main (arguments : List String) : IO UInt32 := do
  let request := Request.ofList arguments
  let known ← (pathsOf request).mapM fun path => return (path, ← snapshot path)
  let outcome := request.answer fun path => (known.lookup path).join
  (← IO.getStdout).putStr outcome.output
  for notice in outcome.notices do
    IO.eprintln notice.heading
    if let .error e := notice then
      IO.eprintln s!"  {e.message}"
  if request = .misuse then IO.eprint usage
  return outcome.exitCode.toUInt32
