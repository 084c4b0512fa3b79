import OutlineQuery.Proofs.Plan.Relate

/-!
The clauses that a scope adds to the query of a plan, written out. Such a query has no identifier
yet, so which clauses there are depends only on which lists of identifiers mean something.
-/
namespace OutlineQuery

open Datalog (Var Clause Query)

namespace Scope

/-- The test of an entity's identifier with what it needs, if the list means something. -/
def tested (needs : List Clause) (entity : Var) (ids : List String) : List Clause :=
  (membership? (idVar entity) ids).elim [] fun test => needs ++ [test]

/-- A restriction tests the identifier, after the clauses that it needs. -/
theorem restriction_eq_tested (present : Var → Bool) (entity : Var) (ids : List String) :
    restriction present entity ids = tested (idClauses present entity) entity ids := by
  unfold restriction tested
  cases membership? (idVar entity) ids <;> rfl

def journalClauses (page : Var) (s : Scope) : List Clause :=
  if s.excludeJournals then [journalExclusion page] else []

/-- What a scope adds where the query has the uuid of the block but not that of the page. -/
def blockAdditions (block page : Var) (s : Scope) : List Clause :=
  tested [idClause block] block s.blockIds ++
    tested [uuidClause page, idClause page] page s.pageIds ++ journalClauses page s

/-- What a scope adds where the query has no block but the uuid of the page. -/
def pageAdditions (page : Var) (s : Scope) : List Clause :=
  tested [idClause page] page s.pageIds ++ journalClauses page s

end Scope

variable {n : Naming} {q : Query}

theorem BlockAnswer.restriction_block (hq : Unscoped n q) (ids : List String) :
    Scope.restriction q.mentions (n.roleVar .block) ids =
      Scope.tested [Scope.idClause (n.roleVar .block)] (n.roleVar .block) ids := by
  rw [Scope.restriction_eq_tested, Scope.idClauses, Naming.idVar_block, Naming.uuidVar_block,
    hq.blockId, hq.blockUuid]
  rfl

/-- A query for blocks does not read the uuid of the page, so the restriction does. -/
theorem BlockAnswer.restriction_page (hq : Unscoped n q) (ids : List String) :
    Scope.restriction q.mentions (n.roleVar .page) ids =
      Scope.tested [Scope.uuidClause (n.roleVar .page), Scope.idClause (n.roleVar .page)]
        (n.roleVar .page) ids := by
  rw [Scope.restriction_eq_tested, Scope.idClauses, Naming.idVar_page, Naming.uuidVar_page,
    hq.pageId, hq.pageUuid]
  rfl

/-- A query for pages has read the uuid of the page, so the restriction reads the identifier
alone. -/
theorem PageAnswer.restriction_page (hq : Unscoped n q) (ids : List String) :
    Scope.restriction q.mentions (n.roleVar .page) ids =
      Scope.tested [Scope.idClause (n.roleVar .page)] (n.roleVar .page) ids := by
  rw [Scope.restriction_eq_tested, Scope.idClauses, Naming.idVar_page, Naming.uuidVar_page,
    hq.pageId, hq.pageUuid]
  rfl

/-- Restricting the block brings in none of the page's variables, so the query stays unscoped for
the page. -/
theorem BlockAnswer.additions_eq (hq : Unscoped n q) (s : Scope) :
    Scope.additions q (target n) s =
      Scope.blockAdditions (n.roleVar .block) (n.roleVar .page) s := by
  have hkeep {r : Role} (hr : r = .pageId ∨ r = .pageUuid)
      (hfree : q.mentions (n.roleVar r) = false) :
      (q.append (Scope.restriction q.mentions (n.roleVar .block) s.blockIds)).mentions
        (n.roleVar r) = false := by
    rw [Scope.mentions_append, hfree, Bool.false_or, List.any_eq_false]
    intro c hc hv
    have howns := Scope.owns_of_mem_restriction hc (List.contains_iff_mem.1 hv)
    rw [Scope.Owns, Naming.uuidVar_block, Naming.idVar_block] at howns
    simp only [Naming.roleVar_inj] at howns
    rcases hr with rfl | rfl <;> simp at howns
  simp only [Scope.additions, target, Option.elim_some]
  rw [Scope.restriction_eq_tested _ (n.roleVar .page), Scope.idClauses, Naming.idVar_page,
    Naming.uuidVar_page, hkeep (by simp) hq.pageId, hkeep (by simp) hq.pageUuid,
    restriction_block hq]
  rfl

theorem PageAnswer.additions_eq (hq : Unscoped n q) (s : Scope) :
    Scope.additions q (target n) s = Scope.pageAdditions (n.roleVar .page) s := by
  have hnil : q.append [] = q := by simp [Query.append]
  simp only [Scope.additions, target, Option.elim_none, hnil, restriction_page hq]
  rfl

namespace Plan

variable (config : Config) (g left right : Group) (op : Operator) (scope : Scope)

/-- The whole query for blocks. -/
theorem select_block_query :
    (select config .block g scope).query =
      (unscoped config.caseInsensitive g (.ofBlock .root)).append
        (Scope.blockAdditions (Naming.root.roleVar .block) (Naming.root.roleVar .page)
          (effectiveScope config scope)) := by
  rw [select_query]
  dsimp only [Subject.ofEntity]
  rw [BlockAnswer.target_ofBlock Naming.root_plain, BlockAnswer.additions_eq (unscoped_block _ g)]

/-- The whole query for pages. -/
theorem select_page_query :
    (select config .page g scope).query =
      (unscoped config.caseInsensitive g (.ofPage .root)).append
        (Scope.pageAdditions (Naming.root.roleVar .page) (effectiveScope config scope)) := by
  rw [select_query]
  dsimp only [Subject.ofEntity]
  rw [PageAnswer.target_ofPage Naming.root_plain, PageAnswer.additions_eq (unscoped_page _ g)]

/-- The whole query for two related blocks. -/
theorem relate_query_eq :
    (relate config left op right scope).query =
      (related config.caseInsensitive left op right).append
        (Scope.blockAdditions (Naming.left.roleVar .block) (Naming.left.roleVar .page)
          (effectiveScope config scope)) := by
  rw [relate_query]
  dsimp only
  rw [BlockAnswer.additions_eq (unscoped_related _ left op right)]

end Plan

end OutlineQuery
