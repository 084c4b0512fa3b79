import OutlineQuery.Config
import OutlineQuery.Hierarchy.Relation
import OutlineQuery.Pattern
import OutlineQuery.Scope.Restriction
import OutlineQuery.Search

/-!
Queries for groups of conditions. Each condition binds its pattern to a variable and tests a text
field of the entity with it: alternatives bind all patterns first and share one disjunction of
tests, and a negated condition has its test negated. The two sides of a hierarchy have variables of
their own.
-/
namespace OutlineQuery

open Datalog (Var Clause Query)

/-- How the variables and result columns of one side are named. -/
structure Naming where
  /-- What the names of variables start with. -/
  lead : String
  /-- What the names of columns start with. -/
  label : String
deriving DecidableEq, Repr

namespace Naming

def root : Naming := ⟨"", ""⟩

/-- What the columns of a side start with, by what its variables start with: a word for the two
sides of a hierarchy, and the name of any other side. -/
def sideLabel : String → String
  | "l-" => "left_"
  | "r-" => "right_"
  | lead => String.ofList (lead.toList.reverse.dropWhile (· == '-')).reverse ++ "_"

def side (name : String) : Naming :=
  let lead := name ++ "-"
  ⟨lead, sideLabel lead⟩

def left : Naming := side "l"

def right : Naming := side "r"

def var (n : Naming) (name : String) : Var :=
  .ofString (n.lead ++ name)

def patternVar (n : Naming) (i : Nat) : Var :=
  n.var ("re" ++ toString i)

def column (n : Naming) (name : String) : String :=
  n.label ++ name

end Naming

/-- The variables of what is searched for, and the clauses that bind them. -/
structure Subject where
  entity : Var
  page : Var
  /-- The text that conditions are about. -/
  field : Var
  find : List Var
  columns : List String
  base : List Clause

namespace Subject

/-- A block, with its content and the name of its page. -/
def ofBlock (n : Naming) : Subject :=
  let b := n.var "b"
  let p := n.var "p"
  let content := n.var "content"
  let pageName := n.var "page-name"
  { entity := b
    page := p
    field := content
    find := [Scope.uuidVar b, content, pageName]
    columns := [n.column "block_uuid", n.column "content", n.column "page_name"]
    base :=
      [.triple b Datalog.Attr.content (.var content),
       .triple b Datalog.Attr.uuid (.var (Scope.uuidVar b)),
       .triple b Datalog.Attr.page (.var p),
       .triple p Datalog.Attr.displayName (.var pageName)] }

def ofPage (n : Naming) : Subject :=
  let p := n.var "p"
  let title := n.var "title"
  { entity := p
    page := p
    field := title
    find := [Scope.uuidVar p, title]
    columns := [n.column "page_uuid", n.column "title"]
    base :=
      [.triple p Datalog.Attr.displayName (.var title),
       .triple p Datalog.Attr.uuid (.var (Scope.uuidVar p))] }

/-- The subject of a search with one side. -/
def ofEntity (e : Entity) (n : Naming) : Subject :=
  match e with
  | .block => ofBlock n
  | .page => ofPage n

end Subject

structure PatternTest where
  condition : Condition
  re : Var

namespace PatternTest

def binding (ignoreCase : Bool) (t : PatternTest) : Clause :=
  .binding ⟨"re-pattern", [.str (t.condition.source ignoreCase)]⟩ t.re

/-- The field matches the pattern, or does not if the condition is negated. -/
def test (field : Var) (t : PatternTest) : Clause :=
  let found := Clause.test ⟨"re-find", [.var t.re, .var field]⟩
  if t.condition.negated then .absent [found] else found

/-- The conditions of a list with their variables, numbered from `start`. -/
def number (n : Naming) (start : Nat) : List Condition → List PatternTest
  | [] => []
  | c :: rest => ⟨c, n.patternVar start⟩ :: number n (start + 1) rest

end PatternTest

/-- The clauses that test a field for a group of conditions. -/
def matchClauses (ignoreCase : Bool) (n : Naming) (field : Var) (g : Group) : List Clause :=
  let tests := PatternTest.number n 0 g.conditions
  if g.combinator = .and ∨ tests.length < 2 then
    tests.flatMap fun t => [t.binding ignoreCase, t.test field]
  else
    -- The patterns are bound outside of the disjunction and shared with its branches.
    tests.map (·.binding ignoreCase) ++
      [.orJoin (field :: tests.map (·.re)) (tests.map (·.test field))]

structure Plan where
  query : Query
  columns : List String
  notes : List Diagnostic

namespace Plan

def effectiveScope (config : Config) (s : Scope) : Scope :=
  { s with excludeJournals := s.excludeJournals || config.excludeJournals }

/-- The variables that a scope restricts in a search for an entity. -/
def target (e : Entity) (subject : Subject) : Scope.Target :=
  match e with
  | .block => ⟨some subject.entity, subject.page⟩
  | .page => ⟨none, subject.page⟩

/-- The query for entities that match a group of conditions. -/
def select (config : Config) (e : Entity) (g : Group) (scope : Scope) : Plan :=
  let subject := Subject.ofEntity e .root
  let query := ((Query.ofFind subject.find).append subject.base).append
    (matchClauses config.caseInsensitive .root subject.field g)
  let injected := Scope.inject query (target e subject) (effectiveScope config scope)
  ⟨injected.value, subject.columns, injected.notes⟩

/-- The query for pairs of blocks that match a group each and stand in a relation. The scope is
about the left one. -/
def relate (config : Config) (left : Group) (op : Operator) (right : Group) (scope : Scope) : Plan :=
  let l := Subject.ofBlock .left
  let r := Subject.ofBlock .right
  let query := (Query.ofFind (l.find ++ r.find)).append
    (l.base ++ matchClauses config.caseInsensitive .left l.field left ++
      (r.base ++ matchClauses config.caseInsensitive .right r.field right))
  let related := op.relate l.entity r.entity query
  let injected := Scope.inject related (target .block l) (effectiveScope config scope)
  ⟨injected.value, l.columns ++ r.columns, injected.notes⟩

end Plan

end OutlineQuery
