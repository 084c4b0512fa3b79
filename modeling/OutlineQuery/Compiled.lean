import OutlineQuery.CompileError
import OutlineQuery.Datalog.Printer
import OutlineQuery.Group.Collapse
import OutlineQuery.Plan

/-!
Compiled searches: the text for the engine, and what is known about it.
-/
namespace OutlineQuery

structure Compiled where
  /-- The query as text. -/
  text : String
  /-- The names of the result columns. -/
  columns : List String
  /-- The highest tier of the group sets. -/
  tier : Tier
  /-- How many groups had their alternatives merged. -/
  merges : Nat
  diagnostics : List Diagnostic
  query : Datalog.Query

namespace Compiled

/-- A group set at a place, collapsed to a group with conditions. -/
def collapse (config : Config) (place : String) (s : GroupSet) : Except CompileError Collapsed :=
  match s.collapse config.mergePlainOr with
  | .error obstacle => .error (.unsupportedShape s.tier obstacle)
  | .ok c => if c.group.conditions.isEmpty then .error (.emptyQuery place) else .ok c

def mergeNotes (merges : Nat) : List Diagnostic :=
  if merges = 0 then []
  else [.note .disjunctionMerged s!"collapsed {merges} OR group(s) into pattern clauses"]

def ofPlan (p : Plan) (tier : Tier) (merges : Nat) : Compiled :=
  ⟨p.query.render, p.columns, tier, merges, p.notes ++ mergeNotes merges, p.query⟩

def ofBody (config : Config) (e : Entity) (scope : Scope) :
    Search.Body → Except CompileError Compiled
  | .groups set => do
    let c ← collapse config "" set
    return ofPlan (.select config e c.group scope) set.tier c.merges
  | .hierarchy r => do
    let left ← collapse config "hierarchy.left" r.left
    let right ← collapse config "hierarchy.right" r.right
    return ofPlan (.relate config left.group r.operator right.group scope)
      (r.left.tier.worst r.right.tier) (left.merges + right.merges)

def ofSearch (config : Config) (s : Search) : Except CompileError Compiled :=
  let count := s.body.conditionCount
  if config.maxConditions < count then .error (.tooManyConditions count config.maxConditions)
  else ofBody config s.entity s.scope s.body

def withEarlier (c : Compiled) (notes : List Diagnostic) : Compiled :=
  { c with diagnostics := notes ++ c.diagnostics }

end Compiled

end OutlineQuery
