import OutlineQuery.Group
import OutlineQuery.Group.Tier
import OutlineQuery.Hierarchy.Operator
import OutlineQuery.Scope

/-!
Searches: fully determined requests, in which every name has been resolved and every default filled
in.
-/
namespace OutlineQuery

inductive Entity where
  | block
  | page
deriving DecidableEq, Repr

namespace Entity

def name : Entity → String
  | block => "block"
  | page => "page"

end Entity

/-- Two group sets whose blocks stand in a relation. -/
structure Relation where
  left : GroupSet
  operator : Operator
  right : GroupSet
deriving DecidableEq, Repr

namespace Relation

/-- The same relation told from the other side. -/
def inverted (r : Relation) : Relation :=
  ⟨r.right, r.operator.inverse, r.left⟩

end Relation

/-- What a search tests. -/
inductive Search.Body where
  | groups (set : GroupSet)
  | hierarchy (relation : Relation)
deriving DecidableEq, Repr

namespace Search.Body

def conditionCount : Body → Nat
  | groups set => set.conditionCount
  | hierarchy r => r.left.conditionCount + r.right.conditionCount

/-- The tier of each group set, by the name of its side. -/
def tiers : Body → List (String × Tier)
  | groups set => [("query", set.tier)]
  | hierarchy r => [("left", r.left.tier), ("right", r.right.tier)]

end Search.Body

structure Search where
  entity : Entity
  body : Search.Body
  scope : Scope
deriving DecidableEq, Repr

end OutlineQuery
