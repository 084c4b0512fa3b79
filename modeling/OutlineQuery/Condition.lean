import OutlineQuery.Number.Binary64

/-!
Conditions: what one text field of a block or page must match.
-/
namespace OutlineQuery

inductive Kind where
  /-- Text as it stands. -/
  | text
  /-- The name of a page, matched in the ways in which a page can be referred to. -/
  | pageReference
  /-- The identifier of a block, matched where the block is referred to. -/
  | blockReference
  /-- A pattern. -/
  | pattern
deriving DecidableEq, Repr

namespace Kind

def name : Kind → String
  | text => "text"
  | pageReference => "page_reference"
  | blockReference => "block_reference"
  | pattern => "pattern"

def all : List Kind := [text, pageReference, blockReference, pattern]

end Kind

inductive MatchMode where
  /-- The field is the value. -/
  | exact
  /-- The value occurs in the field. -/
  | contains
  /-- The value is a pattern that the field matches. -/
  | pattern
deriving DecidableEq, Repr

namespace MatchMode

def name : MatchMode → String
  | exact => "exact"
  | contains => "contains"
  | pattern => "pattern"

def all : List MatchMode := [exact, contains, pattern]

end MatchMode

/-- A condition on one field. The weight is for whoever ranks the results, and the expansion names
the strategy by which further terms may be looked up; neither has a part in matching. -/
structure Condition where
  kind : Kind
  value : String
  mode : MatchMode
  negated : Bool
  weight : Binary64
  expansion : Option String
deriving DecidableEq, Repr

namespace Condition

/-- Whether the value is used as a pattern as it stands. -/
def isRaw (c : Condition) : Bool :=
  c.kind == .pattern || c.mode == .pattern

def ofPattern (source : String) : Condition :=
  ⟨.pattern, source, .pattern, false, Binary64.one, none⟩

end Condition

end OutlineQuery
