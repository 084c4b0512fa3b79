import OutlineQuery.Group.Tier
import OutlineQuery.Pattern

/-!
Group sets as single groups. Alternatives on one field can be merged into one pattern, which is what
lets a set of several groups be asked as one list of conditions.

An OR group with negated members means: one of its positive members, if it has any, and none of the
negated ones.
-/
namespace OutlineQuery

/-- What becomes of a group that stands alone. -/
inductive MergePlan where
  /-- All members stay and must hold. -/
  | keepAll
  /-- All members stay and one must hold. -/
  | keepAny
  /-- The positive members become one condition beside the negated ones. -/
  | mergePositives
  /-- There is at most one positive member, which stays beside the negated ones. -/
  | splitExclusions
deriving DecidableEq, Repr

/-- A group that stands for others, and how many of them had their alternatives merged. -/
structure Collapsed where
  group : Group
  merges : Nat
deriving DecidableEq, Repr

namespace Collapsed

/-- The conjunction of some collapsed groups. -/
def all (cs : List Collapsed) : Collapsed :=
  ⟨⟨cs.flatMap (·.group.conditions), .and⟩, cs.foldr (fun c n => c.merges + n) 0⟩

end Collapsed

/-- The conjunction of one condition for all positive members of a disjunction, and the negated ones
after it. -/
def splitExclusions (cs : List Condition) : Collapsed :=
  let positives := cs.filter (!·.negated)
  let negatives := cs.filter (·.negated)
  match Condition.merge? positives with
  | some merged => ⟨⟨merged :: negatives, .and⟩, 1⟩
  | none => ⟨⟨positives ++ negatives, .and⟩, 0⟩

namespace Group

/-- What to do with a group that stands alone. Alternatives without exclusions are merged only if
that is asked for. -/
def plan (mergePlain : Bool) (g : Group) : MergePlan :=
  match g.combinator with
  | .and => .keepAll
  | .or =>
    let several := 2 ≤ (g.conditions.filter (!·.negated)).length
    if g.hasNegation then if several then .mergePositives else .splitExclusions
    else if mergePlain && several then .mergePositives
    else .keepAny

def apply (p : MergePlan) (cs : List Condition) : Collapsed :=
  match p with
  | .keepAll => ⟨⟨cs, .and⟩, 0⟩
  | .keepAny => ⟨⟨cs, .or⟩, 0⟩
  | .mergePositives => OutlineQuery.splitExclusions cs
  | .splitExclusions => OutlineQuery.splitExclusions cs

def collapse (mergePlain : Bool) (g : Group) : Collapsed :=
  apply (g.plan mergePlain) g.conditions

/-- Some alternatives as a conjunction. A single one is left as it is. -/
def conjoinDisjunction (cs : List Condition) : Collapsed :=
  if cs.length < 2 then ⟨⟨cs, .and⟩, 0⟩ else OutlineQuery.splitExclusions cs

/-- A group as a conjunction, for use beside other groups that must hold. -/
def conjoin (g : Group) : Collapsed :=
  match g.combinator with
  | .or => conjoinDisjunction g.conditions
  | .and => ⟨⟨g.conditions, .and⟩, 0⟩

end Group

namespace GroupSet

/-- The groups of a flat set, as one group. -/
def joined (s : GroupSet) : Group :=
  match s.groups with
  | [] => ⟨[], .and⟩
  | [g] => g
  | groups => ⟨groups.flatMap (·.conditions), .or⟩

/-- A set as one group that holds when the set does, if there is one. -/
def collapse (mergePlain : Bool) (s : GroupSet) : Except Obstacle Collapsed :=
  match s.tier with
  | .flat => .ok (s.joined.collapse mergePlain)
  | .andDominant => .ok (Collapsed.all (s.groups.map Group.conjoin))
  | .orDominant => .error s.obstacle

end GroupSet

end OutlineQuery
