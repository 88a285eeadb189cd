/-!
# Depth

How many levels of a regular expression stand inside one another.  Groups, repetitions, classes in
brackets, and whatever has at least two parts, are a level each; the number of levels is limited.
-/

namespace Excerpt.Regex

/-- The largest number of levels. -/
def depthLimit : Nat := 250

/-- The depth of parts side by side.  Two or more of them are a level of their own. -/
def depthOfParts (depths : List Nat) : Nat :=
  let deepest := depths.foldl max 0
  if depths.length < 2 then deepest else deepest + 1

end Excerpt.Regex
