/-!
# Files

What a path on the command line leads to, and the files below it.  `Source` is a tree of files as
they are when the program runs; `Source.files` walks it in the order of file names.
-/

namespace Excerpt.CommandLine

/-- What a path leads to. -/
inductive Source where
  | missing
  | text (content : String)
  /-- A file whose bytes are no text. -/
  | binary
  | directory (entries : List (String × Source))

namespace Source

/-- A file below a directory is reached by the path of the directory, a slash unless it ends in one,
and the name of the file. -/
def join (path name : String) : String :=
  if path.toList.getLast? == some '/' then path ++ name else path ++ "/" ++ name

/-- An entry put in the place that its name gives it among sorted ones. -/
def insertSorted {α : Type} (entry : String × α) : List (String × α) → List (String × α)
  | [] => [entry]
  | other :: rest =>
    if entry.1 < other.1 then entry :: other :: rest else other :: insertSorted entry rest

/-- The entries of a directory in the order of their names. -/
def sorted {α : Type} (entries : List (String × α)) : List (String × α) :=
  entries.foldr insertSorted []

mutual

/-- The files of a tree, each with its path: a file on its own, or everything below a directory. -/
def files (path : String) : Source → List (String × Source)
  | .directory entries => (sorted (entryFiles path entries)).flatMap Prod.snd
  | s => [(path, s)]

/-- The files below each entry of a directory, by the name of the entry. -/
def entryFiles (path : String) : List (String × Source) → List (String × List (String × Source))
  | [] => []
  | (name, s) :: rest => (name, files (join path name) s) :: entryFiles path rest

end

/-! ## Trees in memory -/

/-- The entries of a directory with one replaced or added. -/
def setEntry (name : String) (s : Source) : List (String × Source) → List (String × Source)
  | [] => [(name, s)]
  | (other, old) :: rest =>
    if other = name then (name, s) :: rest else (other, old) :: setEntry name s rest

/-- The entries of a directory; none if it is something else. -/
def entries : Source → List (String × Source)
  | directory entries => entries
  | _ => []

/-- The entry of a name. -/
def entry (s : Source) (name : String) : Source :=
  match s.entries.find? fun e => e.1 == name with
  | some e => e.2
  | none => missing

/-- Puts a file into a tree, with the directories on the way to it. -/
def put (s : Source) (file : Source) : List String → Source
  | [] => file
  | name :: rest => directory (setEntry name ((s.entry name).put file rest) s.entries)

/-- Follows the parts of a path from a directory whose parents are `above`. -/
def follow (above : List Source) (here : Source) : List String → Source
  | [] => here
  | part :: rest =>
    match here with
    | directory _ =>
      if part = "" ∨ part = "." then follow above here rest
      else if part = ".." then
        match above with
        | parent :: above => follow above parent rest
        | [] => missing
      else follow (here :: above) (here.entry part) rest
    | _ => missing

/-- What a relative path leads to from a directory. -/
def lookUp (root : Source) (path : String) : Source :=
  if path.isEmpty || path.toList.head? == some '/' then missing
  else follow [] root (path.splitOn "/")

end Source

end Excerpt.CommandLine
