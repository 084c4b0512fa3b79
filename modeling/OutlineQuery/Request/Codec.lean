import OutlineQuery.CompileError
import OutlineQuery.Json.Reader
import OutlineQuery.Json.Record
import OutlineQuery.Request

/-!
Requests as JSON. Every record below the request itself may also be written as an array. What a
request's own record holds beside its version, entity, hierarchy and scope is kept whole before it
is looked at, so it must be sound and may not nest too deep, even where it is skipped.
-/
namespace OutlineQuery

open Json (Field optional defaulted required string? bool? list?)

namespace ConditionSpec

def fields : List Field :=
  [⟨"kind", ["type"]⟩, .plain "value", ⟨"match_mode", ["match"]⟩, ⟨"negate", ["negated", "not"]⟩,
   .plain "weight", ⟨"semantic_expansion", ["expansion"]⟩]

def ofJson? (j : Json) : Option ConditionSpec :=
  match j.record? fields with
  | some [kind, value, mode, negated, weight, expansion] => do
    return {
      kind := ← optional string? kind
      value := ← defaulted "" string? value
      mode := ← optional string? mode
      negated := ← defaulted false bool? negated
      weight := ← optional Json.binary64? weight
      expansion := ← optional string? expansion }
  | _ => none

end ConditionSpec

namespace GroupSpec

def fields : List Field :=
  [.plain "conditions", .plain "combinator"]

def ofJson? (j : Json) : Option GroupSpec :=
  match j.record? fields with
  | some [conditions, combinator] => do
    return {
      conditions := ← defaulted [] (list? ConditionSpec.ofJson?) conditions
      combinator := ← optional string? combinator }
  | _ => none

end GroupSpec

namespace BodySpec

def fields : List Field :=
  [.plain "conditions", .plain "combinator", .plain "groups", .plain "group_combinator"]

def ofFields? (conditions combinator groups groupCombinator : Option Json) : Option BodySpec := do
  return {
    conditions := ← optional (list? ConditionSpec.ofJson?) conditions
    combinator := ← optional string? combinator
    groups := ← optional (list? GroupSpec.ofJson?) groups
    groupCombinator := ← optional string? groupCombinator }

def ofJson? (j : Json) : Option BodySpec :=
  match j.record? fields with
  | some [conditions, combinator, groups, groupCombinator] =>
    ofFields? conditions combinator groups groupCombinator
  | _ => none

end BodySpec

namespace HierarchySpec

def fields : List Field :=
  [.plain "left", ⟨"operator", ["relation"]⟩, .plain "right"]

def ofJson? (j : Json) : Option HierarchySpec :=
  match j.record? fields with
  | some [left, operator, right] => do
    return {
      left := ← required BodySpec.ofJson? left
      operator := ← required string? operator
      right := ← required BodySpec.ofJson? right }
  | _ => none

end HierarchySpec

namespace Scope

def fields : List Field :=
  [.plain "block_ids", .plain "page_ids", .plain "exclude_journals"]

def ofJson? (j : Json) : Option Scope :=
  match j.record? fields with
  | some [blockIds, pageIds, excludeJournals] => do
    return {
      blockIds := ← defaulted [] (list? string?) blockIds
      pageIds := ← defaulted [] (list? string?) pageIds
      excludeJournals := ← defaulted false bool? excludeJournals }
  | _ => none

end Scope

namespace Request

def currentVersion : UInt32 := 1

/-- The fields of a request that are read in place. -/
def ownFields : List Field :=
  [.plain "version", .plain "entity", .plain "hierarchy", .plain "scope"]

def fields : List Field :=
  ownFields ++ BodySpec.fields

/-- How deep a value that is kept whole may nest. -/
def nestingLimit : Nat := 126

/-- Whether what is kept whole of a request's entries can be. -/
def keptSound (entries : List (String × Json)) : Bool :=
  entries.all fun (key, value) => ownFields.any (·.accepts key) || value.isSound nestingLimit

def version? (j : Json) : Option UInt32 :=
  (Json.natBelow? 0x100000000 j).map UInt32.ofNat

/-- The request in a JSON value, which must be an object. -/
def ofJson? : Json → Option Request
  | .obj entries =>
    if keptSound entries then
      match Json.fields? fields entries with
      | some [version, entity, hierarchy, scope, conditions, combinator, groups, groupCombinator] => do
        return {
          version := ← defaulted currentVersion version? version
          entity := ← optional string? entity
          body := ← BodySpec.ofFields? conditions combinator groups groupCombinator
          hierarchy := ← optional HierarchySpec.ofJson? hierarchy
          scope := ← optional Scope.ofJson? scope }
      | _ => none
    else none
  | _ => none

def parse (text : String) : Except CompileError Request :=
  match (Json.parse? text).bind ofJson? with
  | some r => .ok r
  | none => .error (.invalidRequest .malformed)

end Request

/-- The entry of a field that is written only if it has a value. -/
def Json.entry? {α : Type} (key : String) (write : α → Json) (value : Option α) :
    List (String × Json) :=
  match value with
  | some a => [(key, write a)]
  | none => []

def ConditionSpec.toJson (c : ConditionSpec) : Json :=
  .obj (Json.entry? "kind" Json.str c.kind ++ [("value", .str c.value)] ++
    Json.entry? "match_mode" Json.str c.mode ++ [("negate", .bool c.negated)] ++
    Json.entry? "weight" Json.number c.weight ++ Json.entry? "semantic_expansion" Json.str c.expansion)

def ConditionSpec.listToJson (cs : List ConditionSpec) : Json :=
  .arr (cs.map ConditionSpec.toJson)

def GroupSpec.toJson (g : GroupSpec) : Json :=
  .obj ([("conditions", ConditionSpec.listToJson g.conditions)] ++
    Json.entry? "combinator" Json.str g.combinator)

def GroupSpec.listToJson (gs : List GroupSpec) : Json :=
  .arr (gs.map GroupSpec.toJson)

def BodySpec.entries (b : BodySpec) : List (String × Json) :=
  Json.entry? "conditions" ConditionSpec.listToJson b.conditions ++
    Json.entry? "combinator" Json.str b.combinator ++
    Json.entry? "groups" GroupSpec.listToJson b.groups ++
    Json.entry? "group_combinator" Json.str b.groupCombinator

def HierarchySpec.toJson (h : HierarchySpec) : Json :=
  .obj [("left", .obj h.left.entries), ("operator", .str h.operator),
    ("right", .obj h.right.entries)]

def Scope.toJson (s : Scope) : Json :=
  .obj [("block_ids", .strings s.blockIds), ("page_ids", .strings s.pageIds),
    ("exclude_journals", .bool s.excludeJournals)]

def Request.toJson (r : Request) : Json :=
  .obj ([("version", .nat r.version.toNat)] ++ Json.entry? "entity" Json.str r.entity ++
    r.body.entries ++ Json.entry? "hierarchy" HierarchySpec.toJson r.hierarchy ++
    Json.entry? "scope" Scope.toJson r.scope)

end OutlineQuery
