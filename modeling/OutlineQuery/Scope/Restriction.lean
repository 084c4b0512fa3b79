import OutlineQuery.Datalog.Query
import OutlineQuery.Diagnostic
import OutlineQuery.Scope

/-!
Restricting a query to a scope. An entity `?x` is tested through `?x-id`, which is its `?x-uuid` as
text; one identifier is compared, several are looked up in a set.
-/
namespace OutlineQuery

open Datalog (Var Clause Query)

namespace Scope

def uuidVar (entity : Var) : Var :=
  entity.extend "-uuid"

/-- The variable for the uuid of an entity as text. -/
def idVar (entity : Var) : Var :=
  entity.extend "-id"

/-- The test that an identifier is one of a list, unless the list means none. -/
def membership? (id : Var) (ids : List String) : Option Clause :=
  match (identifiers ids).toList with
  | [] => none
  | [only] => some (.test ⟨"=", [.var id, .str only]⟩)
  | _ => some (.test ⟨"contains?", [.set (identifiers ids), .var id]⟩)

def uuidClause (entity : Var) : Clause :=
  .triple entity Datalog.Attr.uuid (.var (uuidVar entity))

/-- The identifier of an entity is its uuid as text. -/
def idClause (entity : Var) : Clause :=
  .binding ⟨"str", [.var (uuidVar entity)]⟩ (idVar entity)

/-- What a test of an entity's identifier needs before it, given which variables are there. -/
def idClauses (present : Var → Bool) (entity : Var) : List Clause :=
  if present (idVar entity) then []
  else if present (uuidVar entity) then [idClause entity]
  else [uuidClause entity, idClause entity]

/-- The clauses that restrict an entity to a list of identifiers. -/
def restriction (present : Var → Bool) (entity : Var) (ids : List String) : List Clause :=
  match membership? (idVar entity) ids with
  | none => []
  | some test => idClauses present entity ++ [test]

def restrict (q : Query) (entity : Var) (ids : List String) : Query :=
  q.append (restriction q.mentions entity ids)

/-- A page is no journal page. -/
def journalExclusion (page : Var) : Clause :=
  .absent [.triple page Datalog.Attr.journal (.bool true)]

/-- The variables of a query that a scope is about. A query for pages has no block. -/
structure Target where
  block : Option Var
  page : Var
deriving DecidableEq, Repr

namespace Target

/-- The variables for a block and its page that queries use by default. -/
def default : Target := ⟨some ⟨"b"⟩, ⟨"p"⟩⟩

end Target

/-- The report that block identifiers were given for a query without a block. -/
def ignoredBlocks (count : Nat) : Diagnostic :=
  .note .injectionTargetNotFound
    s!"page query has no block variable; ignoring {count} block id(s)"

/-- Restricts the block of a target, if it has one. -/
def restrictBlock (q : Query) (target : Target) (ids : List String) : Noted Query :=
  match target.block with
  | some block => ⟨restrict q block ids, []⟩
  | none => ⟨q, if ids.isEmpty then [] else [ignoredBlocks ids.length]⟩

def inject (q : Query) (target : Target) (s : Scope) : Noted Query :=
  if s.isEmpty then ⟨q, []⟩
  else
    let blocks := restrictBlock q target s.blockIds
    let pages := restrict blocks.value target.page s.pageIds
    ⟨if s.excludeJournals then pages.push (journalExclusion target.page) else pages, blocks.notes⟩

end Scope

end OutlineQuery
