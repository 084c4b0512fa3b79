import OutlineQuery.Text.Blank
import OutlineQuery.Text.StringSet

/-!
Scopes: the blocks and pages that results may come from.
-/
namespace OutlineQuery

/-- What results are restricted to. A list without identifiers restricts nothing. -/
structure Scope where
  blockIds : List String
  pageIds : List String
  excludeJournals : Bool
deriving DecidableEq, Repr

namespace Scope

def everything : Scope := ⟨[], [], false⟩

def isEmpty (s : Scope) : Bool :=
  s.blockIds.isEmpty && s.pageIds.isEmpty && !s.excludeJournals

/-- The identifiers that a list means: its trimmed entries but for the blank ones. -/
def identifiers (ids : List String) : Text.StringSet :=
  .ofList ((ids.map Text.trim).filter (!·.isEmpty))

end Scope

end OutlineQuery
