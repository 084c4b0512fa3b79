import OutlineQuery.Config
import OutlineQuery.Diagnostic
import OutlineQuery.Pattern
import OutlineQuery.Search
import OutlineQuery.Text.Blank
import OutlineQuery.Text.Lowercase

/-!
Widening conditions by related terms. A condition with an expansion asks for terms related to its
value, and then matches what it or one of them matches. Where no terms are to be had the condition
stays as it is.
-/
namespace OutlineQuery

namespace Expansion

/-- What comes of asking for related terms. -/
inductive Reply where
  | terms (l : List String)
  | failed (reason : String)
  | timedOut
deriving DecidableEq, Repr

/-- Where related terms come from: the reply for a term under a strategy. The number is the place of
the condition in the search, so that no two conditions need to get the same reply. -/
def Source := Nat → String → String → Reply

structure Options where
  timeoutMs : Nat
  maxTerms : Nat
  ignoreCase : Bool
deriving DecidableEq, Repr

namespace Options

def ofConfig (c : Config) : Options :=
  ⟨c.expansionTimeoutMs, c.maxExpansionsPerTerm, c.caseInsensitive⟩

end Options

/-- The terms that are not blank and whose lowercase form is new, in order. -/
def keepNew (seen : List String) : List String → List String
  | [] => []
  | t :: rest =>
    if t.isEmpty || seen.contains (Text.lowercase t) then keepNew seen rest
    else t :: keepNew (Text.lowercase t :: seen) rest

/-- The first terms, trimmed, that differ from a value and from each other by more than case. -/
def distinctTerms (value : String) (terms : List String) (max : Nat) : List String :=
  (keepNew [Text.lowercase (Text.trim value)] (terms.map Text.trim)).take max

end Expansion

namespace Condition

/-- The condition for a pattern that matches what a condition does for its value or for one of some
terms. -/
def widen (ignoreCase : Bool) (extra : List String) (c : Condition) : Condition :=
  let body := Pattern.alternation ((c.value :: extra).map fun t => fragment { c with value := t })
  { c with
    kind := .pattern
    mode := .pattern
    -- A raw pattern gets no switch later on, so it brings its own.
    value := if ignoreCase then Pattern.ignoreCase ++ body else body }

def settled (c : Condition) : Condition :=
  { c with expansion := none }

/-- Widens a condition by the terms of a reply. -/
def receive (o : Expansion.Options) (strategy : String) (c : Condition) :
    Expansion.Reply → Noted Condition
  | .failed reason =>
    ⟨c.settled, [.warn .expansionUnavailable
      ("expansion of '" ++ c.value ++ "' (" ++ strategy ++ ") failed: " ++ reason)]⟩
  | .timedOut =>
    ⟨c.settled, [.warn .expansionUnavailable
      ("expansion of '" ++ c.value ++ "' (" ++ strategy ++ ") timed out after " ++
        toString o.timeoutMs ++ "ms")]⟩
  | .terms l =>
    match Expansion.distinctTerms c.value l o.maxTerms with
    | [] => ⟨c.settled, []⟩
    | extra => ⟨c.settled.widen o.ignoreCase extra, []⟩

/-- Carries out the expansion that a condition asks for. -/
def expand (ask : String → String → Expansion.Reply) (o : Expansion.Options) (c : Condition) :
    Noted Condition :=
  match c.expansion with
  | none => ⟨c, []⟩
  | some strategy =>
    if c.isRaw then
      ⟨c.settled, [.note .expansionUnavailable
        ("'" ++ c.value ++ "' is a raw pattern; expansion skipped")]⟩
    else c.receive o strategy (ask c.value strategy)

end Condition

namespace Expansion

/-- Expands conditions, the first of which has the given place. -/
def expandConditions (source : Source) (o : Options) :
    Nat → List Condition → Noted (List Condition)
  | _, [] => ⟨[], []⟩
  | i, c :: rest =>
    let first := c.expand (source i) o
    let others := expandConditions source o (i + 1) rest
    ⟨first.value :: others.value, first.notes ++ others.notes⟩

/-- Expands groups, the first condition of which has the given place. -/
def expandGroups (source : Source) (o : Options) : Nat → List Group → Noted (List Group)
  | _, [] => ⟨[], []⟩
  | i, g :: rest =>
    let first := expandConditions source o i g.conditions
    let others := expandGroups source o (i + g.conditions.length) rest
    ⟨{ g with conditions := first.value } :: others.value, first.notes ++ others.notes⟩

def expandSet (source : Source) (o : Options) (start : Nat) (s : GroupSet) : Noted GroupSet :=
  let groups := expandGroups source o start s.groups
  ⟨{ s with groups := groups.value }, groups.notes⟩

def expandBody (source : Source) (o : Options) : Search.Body → Noted Search.Body
  | .groups set =>
    let set := expandSet source o 0 set
    ⟨.groups set.value, set.notes⟩
  | .hierarchy r =>
    let left := expandSet source o 0 r.left
    let right := expandSet source o r.left.conditionCount r.right
    ⟨.hierarchy { r with left := left.value, right := right.value }, left.notes ++ right.notes⟩

def expandSearch (source : Source) (o : Options) (s : Search) : Noted Search :=
  let body := expandBody source o s.body
  ⟨{ s with body := body.value }, body.notes⟩

end Expansion

end OutlineQuery
