import OutlineQuery.Text.Name

/-!
The operators that relate two blocks by their places in an outline. Each is read from the left:
`child_of` holds when the left block is a child of the right one.
-/
namespace OutlineQuery

/-- How strictly an operator reads the outline. -/
inductive Strength where
  /-- One step. -/
  | strict
  /-- One or more steps. -/
  | deep
  /-- In either direction, one being preferred. -/
  | flexible
  /-- One step in either direction. -/
  | bidirectional
deriving DecidableEq, Repr

namespace Strength

def name : Strength → String
  | strict => "strict"
  | deep => "deep"
  | flexible => "flexible"
  | bidirectional => "bidirectional"

end Strength

inductive Operator where
  | childOf
  | parentOf
  | descendantOf
  | ancestorOf
  | flexChildOf
  | flexParentOf
  | flexDescendantOf
  | flexAncestorOf
  | linkedChildOf
  | linkedParentOf
deriving DecidableEq, Repr

namespace Operator

/-- Every operator, in the order in which they are listed. -/
def all : List Operator :=
  [childOf, parentOf, descendantOf, ancestorOf, flexChildOf, flexParentOf, flexDescendantOf,
   flexAncestorOf, linkedChildOf, linkedParentOf]

def name : Operator → String
  | childOf => "child_of"
  | parentOf => "parent_of"
  | descendantOf => "descendant_of"
  | ancestorOf => "ancestor_of"
  | flexChildOf => "flex_child_of"
  | flexParentOf => "flex_parent_of"
  | flexDescendantOf => "flex_descendant_of"
  | flexAncestorOf => "flex_ancestor_of"
  | linkedChildOf => "linked_child_of"
  | linkedParentOf => "linked_parent_of"

def strength : Operator → Strength
  | childOf | parentOf => .strict
  | descendantOf | ancestorOf => .deep
  | flexChildOf | flexParentOf | flexDescendantOf | flexAncestorOf => .flexible
  | linkedChildOf | linkedParentOf => .bidirectional

/-- The operator that says the same with the sides exchanged. -/
def inverse : Operator → Operator
  | childOf => parentOf
  | parentOf => childOf
  | descendantOf => ancestorOf
  | ancestorOf => descendantOf
  | flexChildOf => flexParentOf
  | flexParentOf => flexChildOf
  | flexDescendantOf => flexAncestorOf
  | flexAncestorOf => flexDescendantOf
  | linkedChildOf => linkedParentOf
  | linkedParentOf => linkedChildOf

/-- A typed name without the words for a strength: `strict_` and `deep_` in front are dropped, and
otherwise the long forms of `flex_` and `linked_` are shortened wherever they first occur. -/
def shortName (cs : List Char) : List Char :=
  if "strict_".toList.isPrefixOf cs then cs.drop "strict_".toList.length
  else if "deep_".toList.isPrefixOf cs then cs.drop "deep_".toList.length
  else
    Text.replaceFirst "bidirectional_".toList "linked_".toList
      (Text.replaceFirst "flexible_".toList "flex_".toList cs)

def ofString? (s : String) : Option Operator :=
  let short := String.ofList (shortName (Text.canonicalName s).toList)
  all.find? (·.name == short)

def expected : String :=
  String.intercalate ", " (all.map name)

end Operator

end OutlineQuery
