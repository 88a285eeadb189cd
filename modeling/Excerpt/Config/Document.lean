import Excerpt.Config.Basic
import Excerpt.Json.Reader
import Excerpt.Json.Writer

/-!
# Configuration documents

The JSON form of a configuration: an object in which missing settings have their defaults and
unknown ones are passed over, or an array of the settings in order.
-/

namespace Excerpt.Config

/-- The name of the white-space setting. -/
def skipsBlanksKey : String := "consumeWhiteSpaceBetweenTokens"

/-- The configuration as a JSON object. -/
def toJson (config : Config) : String :=
  Json.object [Json.member skipsBlanksKey (if config.skipsBlanks then "true" else "false")]

/-- The members of an object behind its opening brace or a comma.  A setting that is given twice is
an error.  `fuel` is above the length of the text. -/
def members? : Nat → Option Bool → Text → Option (Option Bool × Text)
  | 0, _, _ => none
  | fuel + 1, setting, t => do
    let (key, rest) ← Json.key? t
    let (setting, rest) ←
      if key = skipsBlanksKey.toList then
        match setting with
        | some _ => none
        | none => (Json.bool? rest).map fun (b, rest) => (some b, rest)
      else (Json.skipValue? (2 * rest.length + 2) rest).map (setting, ·)
    match Json.skipSpace rest with
    | ',' :: rest => members? fuel setting rest
    | '\x7d' :: rest => return (setting, rest)
    | _ => none

/-- An object or an array of settings. -/
def settings? (t : Text) : Option (Option Bool × Text) :=
  match Json.skipSpace t with
  | '\x7b' :: rest =>
    match Json.skipSpace rest with
    | '\x7d' :: rest => some (none, rest)
    | _ => members? (rest.length + 1) none rest
  | '[' :: rest =>
    match Json.skipSpace rest with
    | ']' :: rest => some (none, rest)
    | _ => do
      let (setting, rest) ← Json.bool? rest
      match Json.skipSpace rest with
      | ']' :: rest => return (some setting, rest)
      | _ => none
  | _ => none

/-- The configuration that a JSON document writes, if it is one. -/
def ofJson? (document : String) : Option Config := do
  let (setting, rest) ← settings? document.toList
  if (Json.skipSpace rest).isEmpty then return ⟨setting.getD default.skipsBlanks⟩ else none

end Excerpt.Config
