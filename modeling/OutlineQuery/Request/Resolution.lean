import OutlineQuery.CompileError
import OutlineQuery.Config
import OutlineQuery.Diagnostic
import OutlineQuery.Regex.Valid
import OutlineQuery.Request
import OutlineQuery.Search
import OutlineQuery.Text.Name

/-!
From requests to searches: names are resolved, defaults filled in, and conditions and groups that
say nothing dropped. What is dropped or guessed is reported in the order of the request.
-/
namespace OutlineQuery

def Entity.ofString? (s : String) : Option Entity :=
  match Text.canonicalName s with
  | "block" | "blocks" => some .block
  | "page" | "pages" => some .page
  | _ => none

def Combinator.ofString? (s : String) : Option Combinator :=
  match Text.canonicalName s with
  | "and" | "&&" | "all" => some .and
  | "or" | "||" | "any" => some .or
  | _ => none

def Kind.ofString? (s : String) : Option Kind :=
  match Text.canonicalName s with
  | "text" | "literal" | "keyword" => some .text
  | "page_reference" | "page_ref" | "page" | "tag" | "reference" => some .pageReference
  | "block_reference" | "block_ref" | "block" => some .blockReference
  | "pattern" | "regex" | "regexp" => some .pattern
  | _ => none

def MatchMode.ofString? (s : String) : Option MatchMode :=
  match Text.canonicalName s with
  | "exact" | "equals" => some .exact
  | "contains" | "substring" => some .contains
  | "pattern" | "regex" => some .pattern
  | _ => none

/-- The mode of a condition that has none. -/
def Kind.defaultMode : Kind → MatchMode
  | .pattern => .pattern
  | _ => .contains

def MatchMode.title : MatchMode → String
  | .exact => "Exact"
  | .contains => "Contains"
  | .pattern => "Pattern"

namespace ConditionSpec

/-- Whether a condition says something. -/
def isUsable (c : ConditionSpec) : Bool :=
  !Text.isBlankText c.value

/-- The kind of a condition. An unknown one is text. -/
def resolveKind (place : String) : Option String → Noted Kind
  | none => ⟨.text, []⟩
  | some raw =>
    match Kind.ofString? raw with
    | some kind => ⟨kind, []⟩
    | none =>
      ⟨.text, [.warn .unknownKind (place ++ ": unknown kind '" ++ raw ++ "'; treated as text")]⟩

/-- The mode of a condition of some kind. -/
def resolveMode (place : String) (kind : Kind) : Option String → Noted MatchMode
  | none => ⟨kind.defaultMode, []⟩
  | some raw =>
    match MatchMode.ofString? raw with
    | some mode => ⟨mode, []⟩
    | none =>
      ⟨kind.defaultMode,
        [.warn .unknownKind
          (place ++ ": unknown match mode '" ++ raw ++ "'; using " ++ kind.defaultMode.title)]⟩

def resolveWeight (weight : Option Binary64) : Binary64 :=
  (weight.filter (·.isFinite)).getD Binary64.one

def resolveExpansion (expansion : Option String) : Option String :=
  (expansion.map Text.trim).filter (!·.isEmpty)

/-- The report that a raw pattern is not acceptable, if it is not. -/
def patternNotes (place : String) (c : Condition) : List Diagnostic :=
  if c.isRaw && !Regex.isAccepted c.value then
    [.warn .suspectPattern
      (place ++ ": pattern does not compile locally (<regex>); the engine may reject it")]
  else []

/-- The condition that is meant at a place, unless it says nothing. -/
def resolve (place : String) (c : ConditionSpec) : Noted (Option Condition) :=
  if c.isUsable then
    let kind := resolveKind place c.kind
    -- The default mode of an unknown kind is that of text.
    let mode := resolveMode place kind.value c.mode
    let condition : Condition :=
      ⟨kind.value, c.value, mode.value, c.negated, resolveWeight c.weight,
        resolveExpansion c.expansion⟩
    ⟨some condition, kind.notes ++ mode.notes ++ patternNotes place condition⟩
  else ⟨none, [.warn .emptyValue (place ++ ": empty value; condition skipped")]⟩

/-- The conditions that are meant by a list at a place, the first of which has the given index. -/
def resolveAll (place : String) : Nat → List ConditionSpec → Noted (List Condition)
  | _, [] => ⟨[], []⟩
  | i, c :: rest =>
    let first := c.resolve s!"{place}.conditions[{i}]"
    let others := resolveAll place (i + 1) rest
    ⟨first.value.toList ++ others.value, first.notes ++ others.notes⟩

end ConditionSpec

def Combinator.resolve (place : String) : Option String → Except CompileError Combinator
  | none => .ok .and
  | some raw =>
    match Combinator.ofString? raw with
    | some c => .ok c
    | none => .error (.invalidRequest (.unknownCombinator place raw))

namespace GroupSpec

/-- The group that is meant at a place, unless it has no usable condition. -/
def resolve (place : String) (g : GroupSpec) : Except CompileError (Noted (Option Group)) := do
  -- A combinator that is not known is an error even in a group that is left out.
  let combinator ← Combinator.resolve place g.combinator
  let kept := ConditionSpec.resolveAll place 0 g.conditions
  if kept.value.isEmpty then
    return ⟨none,
      kept.notes ++ [.warn .emptyGroup (place ++ ": no usable conditions; group skipped")]⟩
  else return ⟨some ⟨kept.value, combinator⟩, kept.notes⟩

/-- The groups that are meant by a list, the place of each being given by its index. -/
def resolveAll (place : Nat → String) : Nat → List GroupSpec →
    Except CompileError (Noted (List Group))
  | _, [] => .ok ⟨[], []⟩
  | i, g :: rest => do
    let first ← g.resolve (place i)
    let others ← resolveAll place (i + 1) rest
    return ⟨first.value.toList ++ others.value, first.notes ++ others.notes⟩

end GroupSpec

def joinPath (place part : String) : String :=
  if place.isEmpty then part else place ++ "." ++ part

namespace BodySpec

/-- The group set that is meant at a place, before it is asked whether it has a group. -/
def resolveGroups (place : String) (b : BodySpec) : Except CompileError (Noted GroupSet) :=
  match b.conditions, b.groups with
  | some _, some _ => .error (.invalidRequest (.conditionsAndGroups place))
  | none, none => .error (.invalidRequest (.noConditionsOrGroups place))
  | some conditions, none => do
    let group ← GroupSpec.resolve (joinPath place "conditions") ⟨conditions, b.combinator⟩
    return ⟨⟨group.value.toList, .and⟩, group.notes⟩
  | none, some groups => do
    let combinator ← Combinator.resolve (joinPath place "group_combinator") b.groupCombinator
    let kept ← GroupSpec.resolveAll (fun i => joinPath place s!"groups[{i}]") 0 groups
    return ⟨⟨kept.value, combinator⟩, kept.notes⟩

def resolve (place : String) (b : BodySpec) : Except CompileError (Noted GroupSet) := do
  let set ← b.resolveGroups place
  if set.value.groups.isEmpty then .error (.emptyQuery place) else return set

end BodySpec

namespace HierarchySpec

def resolve (h : HierarchySpec) : Except CompileError (Noted Relation) :=
  match Operator.ofString? h.operator with
  | none => .error (.unknownOperator h.operator)
  | some operator => do
    let left ← h.left.resolve "hierarchy.left"
    let right ← h.right.resolve "hierarchy.right"
    return ⟨⟨left.value, operator, right.value⟩, left.notes ++ right.notes⟩

end HierarchySpec

namespace Request

def resolveEntity : Option String → Except CompileError Entity
  | none => .ok .block
  | some raw =>
    match Entity.ofString? raw with
    | some e => .ok e
    | none => .error (.invalidRequest (.unknownEntity raw))

/-- What is to be tested, for an entity. -/
def resolveBody (r : Request) (e : Entity) : Except CompileError (Noted Search.Body) :=
  match r.hierarchy, r.body.isEmpty with
  | some _, false => .error (.invalidRequest .bodyBesideHierarchy)
  | none, true => .error (.invalidRequest .missingBody)
  | none, false => do
    let set ← r.body.resolve ""
    return ⟨.groups set.value, set.notes⟩
  | some h, true =>
    match e with
    | .page => .error (.invalidRequest .hierarchyOfPages)
    | .block => do
      let relation ← h.resolve
      return ⟨.hierarchy relation.value, relation.notes⟩

def resolve (config : Config) (r : Request) : Except CompileError (Noted Search) := do
  if r.version ≠ 1 then .error (.unsupportedVersion r.version.toNat 1)
  else
    let entity ← resolveEntity r.entity
    let body ← r.resolveBody entity
    let count := body.value.conditionCount
    if config.maxConditions < count then .error (.tooManyConditions count config.maxConditions)
    else return ⟨⟨entity, body.value, r.scope.getD .everything⟩, body.notes⟩

end Request

end OutlineQuery
