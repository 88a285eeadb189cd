import Excerpt.CommandLine.Arguments
import Excerpt.CommandLine.Files
import Excerpt.Scan

/-!
# Executing commands

What a command prints and how it ends.  A scan goes through the files in order and stops at the
first one that cannot be read; a file found in a directory is passed over if it is no text.
-/

namespace Excerpt.CommandLine

/-- How a run of the program ends. -/
structure Report where
  output : String
  /-- What is written beside the output, if the run succeeds. -/
  summary : String
  /-- The exit code. -/
  exit : Nat
  /-- What went wrong, if the command could not be carried out. -/
  error : Option GrammarError

/-- The run of a command that succeeds. -/
def Report.success (output summary : String) : Report := ⟨output, summary, 0, none⟩

/-- The run of a command that fails, after some output. -/
def Report.failure (output : String) (error : GrammarError) : Report := ⟨output, "", 1, some error⟩

/-- The components on the command line: the ready-made ones, and those defined. -/
def GrammarArguments.components (a : GrammarArguments) : Except GrammarError Components :=
  a.defined.foldlM
    (fun components d => do
      return components.insert d.1 (.pattern (← Pattern.compile d.2)))
    Components.builtin

/-- The grammar on the command line. -/
def GrammarArguments.grammar (a : GrammarArguments) : Except GrammarError Grammar := do
  let components ← a.components
  Grammar.ofTemplate a.template components (if a.strict then .strict else .relaxed)

/-! ## Listing and checking -/

/-- A name in a column of at least 14 characters. -/
def column (name : String) : String :=
  name ++ String.ofList (List.replicate (14 - name.length) ' ')

/-- The components, one in a line, each with what it is called. -/
def componentLines (components : Components) : String :=
  String.join (components.entries.map fun e => column e.1 ++ e.2.id ++ "\n")

/-- Compiles a template. -/
def check (a : GrammarArguments) : Report :=
  match a.grammar with
  | .ok g => .success (g.matcher.id ++ "\n") ""
  | .error error => .failure "" error

/-! ## Scanning -/

/-- What a scan of files has done so far. -/
structure Tally where
  output : String
  found : Nat
  files : Nat

/-- The line below a scan. -/
def Tally.summary (t : Tally) : String :=
  s!"{t.found} match(es) in {t.files} file(s)\n"

/-- The records of the matches in a text. -/
def records (g : Grammar) (format : Format) (file : String) (content : Text) : List String :=
  ((g.findMatches content).getD []).map fun found =>
    String.join (Record.writes ⟨file, found⟩ format)

/-- The error of a file that cannot be read. -/
def unreadable (path reason : String) : GrammarError := .ofKind (.io path reason)

/-- Scans files one after another.  Those named on the command line are `explicit`. -/
def scanFiles (g : Grammar) (format : Format) (t : Tally) :
    List (Bool × String × Source) → Report
  | [] => .success t.output t.summary
  | (explicit, path, source) :: rest =>
    match source with
    | .text content =>
      let printed := records g format path content.toList
      scanFiles g format
        ⟨t.output ++ String.join printed, t.found + printed.length, t.files + 1⟩ rest
    | .binary =>
      if explicit then .failure t.output (unreadable path "stream did not contain valid UTF-8")
      else scanFiles g format t rest
    | _ => .failure t.output (unreadable path "No such file or directory")

/-- The files that paths lead to, in order. -/
def filesOf (paths : List (String × Source)) : List (Bool × String × Source) :=
  paths.flatMap fun (path, source) =>
    match source with
    | .directory _ => (source.files path).map fun f => (false, f)
    | _ => [(true, path, source)]

/-- Scans what paths lead to. -/
def scan (a : GrammarArguments) (paths : List (String × Source)) (format : Format) : Report :=
  match a.grammar with
  | .ok g => scanFiles g format ⟨"", 0, 0⟩ (filesOf paths)
  | .error error => .failure "" error

/-! ## The program -/

/-- The name and version of the program. -/
def versionLine : String := "microgrammar 0.1.0\n"

/-- How the program is called. -/
def usage : String :=
  "Extract structured data from text with small, targeted grammars.\n\n" ++
    "Usage: microgrammar <COMMAND>\n\n" ++
    "Commands:\n" ++
    "  scan             Scan files for a template and print one record per match\n" ++
    "  check            Compile a template and report problems without scanning anything\n" ++
    "  list-components  List the components templates can use without --define\n"

/-- The end of a run that never came to a command. -/
def Stop.report : Stop → Report
  | displayHelp => .success usage ""
  | displayVersion => .success versionLine ""
  | _ => ⟨"", usage, 2, none⟩

/-- The paths that a command needs. -/
def Command.paths : Command → List String
  | scan _ paths _ => paths
  | _ => []

/-- Carries out a command on what its paths lead to. -/
def Command.execute (look : String → Source) : Command → Report
  | scan a paths format => CommandLine.scan a (paths.map fun p => (p, look p)) format
  | check a => CommandLine.check a
  | listComponents => .success (componentLines .builtin) ""

/-- Runs the program on a command line. -/
def run (look : String → Source) (arguments : List String) : Report :=
  match parse arguments with
  | .ok command => command.execute look
  | .error stop => stop.report

end Excerpt.CommandLine
