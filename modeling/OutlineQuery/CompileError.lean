import OutlineQuery.Group.Tier
import OutlineQuery.Hierarchy.Operator

/-!
Why a request cannot be compiled.
-/
namespace OutlineQuery

/-- What is wrong with the form of a request. A place is given by its path in the request, which is
empty for the request itself. -/
inductive RequestFault where
  /-- The text is not a request. -/
  | malformed
  | unknownEntity (raw : String)
  | unknownCombinator (place raw : String)
  /-- There are conditions beside a hierarchy. -/
  | bodyBesideHierarchy
  | missingBody
  /-- A hierarchy was asked of pages. -/
  | hierarchyOfPages
  /-- A side has both conditions and groups. -/
  | conditionsAndGroups (place : String)
  /-- A side has neither conditions nor groups. -/
  | noConditionsOrGroups (place : String)
deriving DecidableEq, Repr

namespace RequestFault

def placeLabel (place : String) : String :=
  if place.isEmpty then "request" else place

def message : RequestFault → String
  | malformed => "<json>"
  | unknownEntity raw => "unknown entity '" ++ raw ++ "' (expected `block` or `page`)"
  | unknownCombinator place raw =>
    place ++ ": unknown combinator '" ++ raw ++ "' (expected AND or OR)"
  | bodyBesideHierarchy => "cannot combine top-level conditions/groups with `hierarchy`"
  | missingBody => "missing query body (provide `conditions`, `groups` or `hierarchy`)"
  | hierarchyOfPages => "hierarchy operators relate blocks; use entity `block`"
  | conditionsAndGroups place =>
    placeLabel place ++ ": cannot set both `conditions` and `groups`"
  | noConditionsOrGroups place => placeLabel place ++ ": missing `conditions` or `groups`"

end RequestFault

inductive CompileError where
  /-- A group set cannot be asked as one query. -/
  | unsupportedShape (tier : Tier) (obstacle : Obstacle)
  | unknownOperator (name : String)
  /-- There is no usable condition at a place. -/
  | emptyQuery (place : String)
  | tooManyConditions (count limit : Nat)
  | unsupportedVersion (found expected : Nat)
  | invalidRequest (fault : RequestFault)
deriving DecidableEq, Repr

namespace CompileError

def code : CompileError → String
  | unsupportedShape _ _ => "UnsupportedShape"
  | unknownOperator _ => "UnknownOperator"
  | emptyQuery _ => "EmptyQuery"
  | tooManyConditions _ _ => "TooManyConditions"
  | unsupportedVersion _ _ => "UnsupportedVersion"
  | invalidRequest _ => "InvalidRequest"

/-- Whether the request is well formed but beyond what can be compiled. -/
def isCapabilityGap : CompileError → Bool
  | unsupportedShape _ _ => true
  | unknownOperator _ => true
  | _ => false

def message : CompileError → String
  | unsupportedShape tier obstacle =>
    "unsupported query shape (" ++ tier.label ++ "): " ++ obstacle.message
  | unknownOperator name =>
    "unknown hierarchy operator '" ++ name ++ "' (expected one of: " ++ Operator.expected ++ ")"
  | emptyQuery place =>
    "query has no usable conditions" ++ (if place.isEmpty then "" else " in " ++ place)
  | tooManyConditions count limit => s!"query has {count} conditions (limit {limit})"
  | unsupportedVersion found expected =>
    s!"unsupported request version {found} (expected {expected})"
  | invalidRequest fault => "invalid request: " ++ fault.message

end CompileError

end OutlineQuery
