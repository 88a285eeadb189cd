import Excerpt.Extracted
import Excerpt.Yaml.Writer

/-!
# Records

A match with the file it was found in, written as a line of JSON or as a YAML document.
-/

namespace Excerpt

/-- How records are written. -/
inductive Format where
  /-- A JSON object on a line. -/
  | json
  /-- A YAML document. -/
  | yaml
  deriving DecidableEq, Repr

/-- A match and the file it comes from. -/
structure Record where
  file : String
  found : Extracted

namespace Record

/-- The record as a JSON object. -/
def json (r : Record) : String :=
  Json.object (Json.member "$file" (Json.string r.file) :: r.found.jsonMembers)

/-- The record as a YAML document. -/
def yaml (r : Record) : String :=
  Yaml.document <|
    Yaml.entries 0
        [("$file", .string r.file), ("$matched", .string (String.ofList r.found.matched))] ++
      Yaml.entry 0 "$offset" (' ' :: (toString r.found.offset).toList) ::
        Yaml.entries 0 r.found.body

/-- The texts that are written for a record, one after another. -/
def writes (r : Record) : Format → List String
  | .json => [r.json, "\n"]
  | .yaml => ["---\n", r.yaml]

/-- Appends texts to what was written before, to a sink that refuses to begin a text once it holds
`limit` bytes. -/
def writeAll (limit : Option Nat) (written : String) : List String → Except ErrorKind String
  | [] => .ok written
  | t :: rest =>
    if limit.any (· ≤ written.utf8ByteSize) then .error (.io "<stdout>" "sink full")
    else writeAll limit (written ++ t) rest

/-- Appends a record to what was written before. -/
def write (limit : Option Nat) (format : Format) (written : String) (r : Record) :
    Except ErrorKind String :=
  writeAll limit written (r.writes format)

end Record

end Excerpt
