import Excerpt.Regex.CharSet
import Excerpt.Text.Category
import Excerpt.Text.Property
import Excerpt.Text.Script

/-!
# Named classes

The sets of characters that a pattern asks for by a name: a property, a category or a script
(`CharSet.ofName?`), or the value of one of them (`CharSet.ofValue?`).  Names are compared loosely
(`looseName`).
-/

namespace Excerpt.Regex

/-- A name as it is compared: in lower case, without blanks, hyphens, underscores and characters
beyond ASCII, and without `is` in front. -/
def looseName (name : Text) : String :=
  let letters (t : Text) : Text :=
    (t.filter fun c => c != ' ' && c != '_' && c != '-' && c.toNat < 0x80).map Char.toLower
  match name with
  | i :: s :: rest =>
    if i.toLower = 'i' && s.toLower = 's' then
      if letters rest = ['c'] then "isc" else String.ofList (letters rest)
    else String.ofList (letters name)
  | name => String.ofList (letters name)

namespace CharSet

/-! ## Categories and scripts -/

/-- The characters of some categories. -/
def ofCategories (categories : List Text.Category) : CharSet :=
  ofRanges (categories.flatMap Text.Category.ranges)

/-- The characters that have a meaning. -/
def assigned : CharSet := ofCategories Text.Category.all

/-- The characters of a category, or of all that belong to a group. -/
def ofCategory? (name : String) : Option CharSet :=
  match name with
  | "any" => some anything
  | "ascii" => some ⟨[(0x0, 0x7f)]⟩
  | "assigned" => some assigned
  | "cn" | "unassigned" => some assigned.complement
  | "c" | "other" =>
    some (assigned.difference (ofCategories Text.Category.others)).complement
  | _ => (Text.Category.named? name).map ofCategories

/-- The characters of a script. -/
def ofScript? (name : String) : Option CharSet :=
  (Text.Script.named? name).map fun s => ⟨s.ranges⟩

/-! ## Properties -/

/-- Letters, and whatever else stands for sounds. -/
def alphabetic : CharSet :=
  (ofCategories (.letterNumber :: Text.Category.letters)).union ⟨Text.otherAlphabetic⟩

/-- Characters of the form of lower case. -/
def lowercase : CharSet := (ofCategories [.lowercaseLetter]).union ⟨Text.otherLowercase⟩

/-- Characters of the form of upper case. -/
def uppercase : CharSet := (ofCategories [.uppercaseLetter]).union ⟨Text.otherUppercase⟩

/-- Characters that may begin a name. -/
def nameStart : CharSet :=
  ((ofCategories (.letterNumber :: Text.Category.letters)).union ⟨Text.otherNameStart⟩).difference
    ⟨Text.noNameStart⟩

/-- Characters that may stand in a name. -/
def namePart : CharSet :=
  (nameStart.union
    (ofCategories [.nonspacingMark, .spacingMark, .decimalNumber, .connectorPunctuation])).union
    ⟨Text.otherNamePart⟩

/-- The characters that have a property. -/
def ofProperty? (name : String) : Option CharSet :=
  match name with
  | "alphabetic" | "alpha" => some alphabetic
  | "lowercase" | "lower" => some lowercase
  | "uppercase" | "upper" => some uppercase
  | "cased" => some ((lowercase.union uppercase).union (ofCategories [.titlecaseLetter]))
  | "idstart" | "ids" => some nameStart
  | "idcontinue" | "idc" => some namePart
  | "xidstart" | "xids" => some (nameStart.difference ⟨Text.unstableNameStart⟩)
  | "xidcontinue" | "xidc" => some (namePart.difference ⟨Text.unstableNamePart⟩)
  | _ => (Text.Property.named? name).map fun p => ⟨p.ranges⟩

/-! ## Names -/

/-- The characters that a name stands for: those that have a property, or those of a category or a
script. -/
def ofName? (name : Text) : Option CharSet :=
  let name := looseName name
  ofProperty? name <|> ofCategory? name <|> ofScript? name

/-- The characters for which what is named first has the value named second. -/
def ofValue? (name value : Text) : Option CharSet :=
  match looseName name with
  | "gc" | "generalcategory" => ofCategory? (looseName value)
  | "sc" | "script" => ofScript? (looseName value)
  | _ => none

end CharSet

end Excerpt.Regex
