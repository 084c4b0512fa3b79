import OutlineQuery.Condition

/-!
Conditions in groups, and groups in sets.
-/
namespace OutlineQuery

inductive Combinator where
  | and
  | or
deriving DecidableEq, Repr

namespace Combinator

def name : Combinator → String
  | and => "AND"
  | or => "OR"

end Combinator

structure Group where
  conditions : List Condition
  combinator : Combinator
deriving DecidableEq, Repr

namespace Group

/-- Whether the group asks for two or more conditions at once. -/
def isConjunction (g : Group) : Bool :=
  g.combinator == .and && 2 ≤ g.conditions.length

def hasNegation (g : Group) : Bool :=
  g.conditions.any (·.negated)

/-- Whether the group cannot be one of several alternatives: it asks for several things at once, or
excludes some. -/
def isConjunctive (g : Group) : Bool :=
  g.isConjunction || g.hasNegation

end Group

structure GroupSet where
  groups : List Group
  combinator : Combinator
deriving DecidableEq, Repr

namespace GroupSet

def conditions (s : GroupSet) : List Condition :=
  s.groups.flatMap (·.conditions)

def conditionCount (s : GroupSet) : Nat :=
  s.conditions.length

end GroupSet

end OutlineQuery
