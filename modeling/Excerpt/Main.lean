import Excerpt.CommandLine.Execution

/-!
# The program

The outer layer of the command line: it loads what the paths of a command lead to, runs the command
on that, and prints the report.  All decisions are those of `CommandLine.run`.
-/

namespace Excerpt.CommandLine

/-- A file in memory. -/
def Source.ofBytes (bytes : ByteArray) : Source :=
  match String.fromUTF8? bytes with
  | some content => .text content
  | none => .binary

/-- What stands below a directory, without links. -/
partial def loadEntries (directory : String) : IO (List (String × Source)) := do
  let entries ← (System.mkFilePath [directory]).readDir
  let found ← entries.toList.mapM fun entry => do
    match (← entry.path.symlinkMetadata).type with
    | .dir =>
      let below ← loadEntries entry.path.toString
      return some (entry.fileName, Source.directory below)
    | .file =>
      let bytes ← IO.FS.readBinFile entry.path
      return some (entry.fileName, Source.ofBytes bytes)
    | _ => return none
  return found.filterMap id

/-- What a path leads to. -/
def load (path : String) : IO Source := do
  let here := System.mkFilePath [path]
  try
    if ← here.isDir then return .directory (← loadEntries path)
    else return .ofBytes (← IO.FS.readBinFile here)
  catch _ => return .missing

/-- What stands on the error stream after a failed command. -/
def complaint (error : GrammarError) : String :=
  s!"{error.code}\n\n  {error.kind.message}\n"

end Excerpt.CommandLine

open Excerpt.CommandLine in
/-- Runs the program. -/
def main (arguments : List String) : IO UInt32 := do
  let paths :=
    match parse arguments with
    | .ok command => command.paths
    | .error _ => []
  let sources ← paths.mapM fun path => do return (path, ← load path)
  let report := run (fun path => (sources.lookup path).getD .missing) arguments
  IO.print report.output
  match report.error with
  | none => IO.eprint report.summary
  | some error => IO.eprint (complaint error)
  return report.exit.toUInt32
