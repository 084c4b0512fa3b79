import OutlineQuery.Group

/-!
Which group sets can be asked as one query. Tiers tell how much has to be done for it: nothing, the
merging of alternatives, or more than one query can do.
-/
namespace OutlineQuery

/-- How far a group set is from a single group. -/
inductive Tier where
  /-- One group, or alternatives that are alternatives themselves. -/
  | flat
  /-- Several groups that must all hold. -/
  | andDominant
  /-- Alternatives of which some ask for several things at once or exclude some. -/
  | orDominant
deriving DecidableEq, Repr

namespace Tier

def name : Tier → String
  | flat => "flat"
  | andDominant => "and_dominant"
  | orDominant => "or_dominant"

/-- Tiers are numbered from the simplest. -/
def number : Tier → Nat
  | flat => 1
  | andDominant => 2
  | orDominant => 3

/-- Whether a set of this tier can be asked as one query. -/
def isSupported (t : Tier) : Bool :=
  t != .orDominant

def label : Tier → String
  | flat => "tier 1 (flat)"
  | andDominant => "tier 2 (AND-dominant)"
  | orDominant => "tier 3 (OR-dominant)"

def worst (a b : Tier) : Tier :=
  if b.number ≤ a.number then a else b

end Tier

/-- Why a set cannot be asked as one query: the first group that cannot be an alternative. -/
inductive Obstacle where
  /-- The group asks for so many conditions at once. -/
  | conjunction (group size : Nat)
  /-- The group has a negated member. -/
  | negation (group : Nat)
deriving DecidableEq, Repr

namespace Obstacle

def message : Obstacle → String
  | conjunction group size =>
    s!"OR over groups where group {group} is an AND of {size} conditions; " ++
      "an OR of conjunctions has no single-clause form"
  | negation group =>
    s!"OR over groups where group {group} has a negated member; " ++
      "its exclusions cannot be ORed with the other groups in a single clause"

/-- The obstacle that a group at a place is. -/
def ofGroup (place : Nat) (g : Group) : Obstacle :=
  if g.isConjunction then conjunction place g.conditions.length else negation place

end Obstacle

namespace GroupSet

def tier (s : GroupSet) : Tier :=
  if s.groups.length ≤ 1 then .flat
  else
    match s.combinator with
    | .and => .andDominant
    | .or => if s.groups.any Group.isConjunctive then .orDominant else .flat

/-- The first of some groups, the first of them at a place, that cannot be an alternative. -/
def firstObstacle (place : Nat) : List Group → Obstacle
  | [] => .negation place
  | g :: rest => if g.isConjunctive then Obstacle.ofGroup place g else firstObstacle (place + 1) rest

def obstacle (s : GroupSet) : Obstacle :=
  firstObstacle 0 s.groups

end GroupSet

end OutlineQuery
