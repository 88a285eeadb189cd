/-!
# Configuration

How the steps of a sequence are joined.
-/

namespace Excerpt

/-- The configuration of a sequence. -/
structure Config where
  /-- White space before a step is skipped. -/
  skipsBlanks : Bool
  deriving DecidableEq, Repr

namespace Config

/-- Steps may have white space before them. -/
def relaxed : Config := ⟨true⟩

/-- Steps follow one another directly. -/
def strict : Config := ⟨false⟩

/-- The configuration that holds where none is given. -/
def default : Config := relaxed

end Config

end Excerpt
