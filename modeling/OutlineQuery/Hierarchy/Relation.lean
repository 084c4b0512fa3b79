import OutlineQuery.Datalog.Query
import OutlineQuery.Hierarchy.Operator

/-!
The clauses that say that two blocks stand in an operator's relation, and the rules that some of
them call.
-/
namespace OutlineQuery

open Datalog (Var Clause Rule)

namespace Hierarchy

/-- The parent of `child` is `parent`. -/
def childEdge (child parent : Var) : Clause :=
  .triple child Datalog.Attr.parent (.var parent)

/-- The rule that holds of a block and what stands anywhere under it. -/
def ancestorRule : Rule where
  name := "ancestor"
  params := [⟨"a"⟩, ⟨"d"⟩]
  bodies :=
    [[childEdge ⟨"d"⟩ ⟨"a"⟩],
     [childEdge ⟨"d"⟩ ⟨"x"⟩, .rule "ancestor" [⟨"a"⟩, ⟨"x"⟩]]]

/-- The rule that holds of two blocks one of which is the parent of the other. -/
def linkedRule : Rule where
  name := "linked"
  params := [⟨"a"⟩, ⟨"b"⟩]
  bodies := [[childEdge ⟨"b"⟩ ⟨"a"⟩], [childEdge ⟨"a"⟩ ⟨"b"⟩]]

/-- `upper` is above `lower`. -/
def ancestor (upper lower : Var) : Clause :=
  .rule ancestorRule.name [upper, lower]

/-- `a` and `b` are parent and child in either order. -/
def linked (a b : Var) : Clause :=
  .rule linkedRule.name [a, b]

/-- One of two clauses about a pair of blocks holds. -/
def either (left right : Var) (preferred other : Clause) : Clause :=
  .orJoin [left, right] [preferred, other]

end Hierarchy

namespace Operator

open Hierarchy

def clause (op : Operator) (left right : Var) : Clause :=
  match op with
  | childOf => childEdge left right
  | parentOf => childEdge right left
  | descendantOf => ancestor right left
  | ancestorOf => ancestor left right
  | flexChildOf => either left right (childEdge left right) (childEdge right left)
  | flexParentOf => either left right (childEdge right left) (childEdge left right)
  | flexDescendantOf => either left right (ancestor right left) (ancestor left right)
  | flexAncestorOf => either left right (ancestor left right) (ancestor right left)
  | linkedChildOf => linked right left
  | linkedParentOf => linked left right

/-- The rule that the clause of an operator calls, if any. -/
def rule? : Operator → Option Rule
  | childOf | parentOf | flexChildOf | flexParentOf => none
  | descendantOf | ancestorOf | flexDescendantOf | flexAncestorOf => some ancestorRule
  | linkedChildOf | linkedParentOf => some linkedRule

/-- Adds to a query that two blocks stand in the relation. -/
def relate (op : Operator) (left right : Var) (q : Datalog.Query) : Datalog.Query :=
  match op.rule? with
  | none => q.push (op.clause left right)
  | some r => (q.push (op.clause left right)).addRule r

end Operator

end OutlineQuery
