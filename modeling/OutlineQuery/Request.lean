import OutlineQuery.Number.Binary64
import OutlineQuery.Scope

/-!
Requests as callers write them: names are not resolved yet, and what may be left out may be missing.
-/
namespace OutlineQuery

structure ConditionSpec where
  kind : Option String
  value : String
  mode : Option String
  negated : Bool
  weight : Option Binary64
  expansion : Option String
deriving DecidableEq, Repr

structure GroupSpec where
  conditions : List ConditionSpec
  combinator : Option String
deriving DecidableEq, Repr

/-- A group set as written: a list of conditions with its combinator, or a list of groups with
theirs. -/
structure BodySpec where
  conditions : Option (List ConditionSpec)
  combinator : Option String
  groups : Option (List GroupSpec)
  groupCombinator : Option String
deriving DecidableEq, Repr

namespace BodySpec

def isEmpty (b : BodySpec) : Bool :=
  b.conditions.isNone && b.groups.isNone

end BodySpec

structure HierarchySpec where
  left : BodySpec
  operator : String
  right : BodySpec
deriving DecidableEq, Repr

structure Request where
  version : UInt32
  entity : Option String
  body : BodySpec
  hierarchy : Option HierarchySpec
  scope : Option Scope
deriving DecidableEq, Repr

end OutlineQuery
