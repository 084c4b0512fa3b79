import OutlineQuery.Proofs.Datalog.Scoping
import OutlineQuery.Proofs.Plan.Additions

/-!
The patterns in a query: the texts that it asks the engine to compile, wherever they stand. A plan
has one for each condition of its groups, in order, and no other.
-/
namespace OutlineQuery

open Datalog (Var Clause Query)

namespace Datalog

def Term.str? : Term → Option String
  | str s => some s
  | _ => none

/-- The patterns that a call compiles. -/
def Call.sources (call : Call) : List String :=
  if call.func = "re-pattern" then call.args.filterMap Term.str? else []

namespace Clause

def ownSources : Clause → List String
  | binding call _ => call.sources
  | test call => call.sources
  | _ => []

/-- The patterns of some clauses, at any depth. -/
def sources (cs : List Clause) : List String :=
  (partsAll cs).flatMap ownSources

@[simp] theorem sources_append (cs ds : List Clause) :
    sources (cs ++ ds) = sources cs ++ sources ds := by
  simp only [sources, partsAll_append, List.flatMap_append]

/-- The patterns of clauses are those of each of them, in order. -/
theorem sources_eq_flatMap (cs : List Clause) : sources cs = cs.flatMap fun c => sources [c] := by
  induction cs with
  | nil => rfl
  | cons c rest ih => rw [List.flatMap_cons, ← ih, ← sources_append]; rfl

end Clause

/-- The patterns of a query, in its clauses and in its rules. -/
def Query.sources (q : Query) : List String :=
  Clause.sources q.clauses ++ q.rules.flatMap fun r => r.bodies.flatMap Clause.sources

theorem Query.sources_append_of_nil {q : Query} {cs : List Clause} (h : Clause.sources cs = []) :
    (q.append cs).sources = q.sources := by
  simp [sources, append, h]

end Datalog

open Datalog.Clause (sources sources_append sources_eq_flatMap)

namespace PatternTest

theorem sources_binding (ignoreCase : Bool) (t : PatternTest) :
    sources [t.binding ignoreCase] = [t.condition.source ignoreCase] := rfl

theorem sources_test (field : Var) (t : PatternTest) : sources [t.test field] = [] := by
  unfold test
  cases t.condition.negated <;> rfl

theorem sources_tests (field : Var) (ts : List PatternTest) :
    sources (ts.map (·.test field)) = [] := by
  rw [sources_eq_flatMap, List.flatMap_map]
  simp only [sources_test, List.flatMap_eq_nil_iff, implies_true]

theorem sources_bindings (ignoreCase : Bool) (ts : List PatternTest) :
    sources (ts.map (·.binding ignoreCase)) = ts.map (·.condition.source ignoreCase) := by
  rw [sources_eq_flatMap, List.flatMap_map, List.map_eq_flatMap]
  rfl

theorem sources_pairs (ignoreCase : Bool) (field : Var) (ts : List PatternTest) :
    sources (ts.flatMap fun t => [t.binding ignoreCase, t.test field]) =
      ts.map (·.condition.source ignoreCase) := by
  induction ts with
  | nil => rfl
  | cons t rest ih =>
    have hpair : sources [t.binding ignoreCase, t.test field] =
        [t.condition.source ignoreCase] := by
      rw [← List.singleton_append, sources_append, sources_binding, sources_test, List.append_nil]
    rw [List.flatMap_cons, sources_append, hpair, ih]
    rfl

end PatternTest

/-- The clauses for a group have the patterns of its conditions, each once and in order, however the
conditions combine. -/
theorem sources_matchClauses (ignoreCase : Bool) (n : Naming) (field : Var) (g : Group) :
    sources (matchClauses ignoreCase n field g) = g.conditions.map (·.source ignoreCase) := by
  generalize htests : PatternTest.number n 0 g.conditions = tests
  have hconditions : g.conditions = tests.map (·.condition) := by
    rw [← htests, PatternTest.number_conditions]
  rw [matchClauses, htests, hconditions, List.map_map]
  split
  case isTrue => exact PatternTest.sources_pairs ignoreCase field tests
  case isFalse =>
    have hor : sources [.orJoin (field :: tests.map (·.re)) (tests.map (·.test field))] = [] := by
      simpa [sources, Clause.partsAll, Clause.parts, Clause.ownSources] using
        PatternTest.sources_tests field tests
    rw [sources_append, hor, List.append_nil]
    exact PatternTest.sources_bindings ignoreCase tests

theorem sources_clauses {subject : Subject} (hbase : sources subject.base = []) (ignoreCase : Bool)
    (n : Naming) (g : Group) :
    sources (subject.clauses ignoreCase n g) = g.conditions.map (·.source ignoreCase) := by
  rw [Subject.clauses, sources_append, hbase, sources_matchClauses, List.nil_append]

namespace Scope

/-- Tests of identifiers have no pattern. -/
theorem sources_tested {needs : List Clause} (hneeds : sources needs = []) (entity : Var)
    (ids : List String) : sources (tested needs entity ids) = [] := by
  unfold tested
  cases htest : membership? (idVar entity) ids with
  | none => rfl
  | some test =>
    obtain ⟨call, rfl, -, hfunc⟩ := exists_call_of_membership? htest
    have hcall : call.func ≠ "re-pattern" := by
      rintro hcall
      rw [hcall] at hfunc
      exact absurd hfunc (by decide)
    have htest : sources [.test call] = [] := by
      simp [sources, Clause.partsAll, Clause.parts, Clause.ownSources, Datalog.Call.sources, hcall]
    rw [Option.elim_some, sources_append, hneeds, htest, List.append_nil]

theorem sources_journalClauses (page : Var) (s : Scope) : sources (journalClauses page s) = [] := by
  unfold journalClauses
  split <;> rfl

theorem sources_blockAdditions (block page : Var) (s : Scope) :
    sources (blockAdditions block page s) = [] := by
  rw [blockAdditions, sources_append, sources_append, sources_tested rfl, sources_tested rfl,
    sources_journalClauses]
  rfl

theorem sources_pageAdditions (page : Var) (s : Scope) : sources (pageAdditions page s) = [] := by
  rw [pageAdditions, sources_append, sources_tested rfl, sources_journalClauses]
  rfl

end Scope

/-- No operator has a pattern in its clause. -/
theorem Operator.sources_clause (op : Operator) (left right : Var) :
    sources [op.clause left right] = [] := by
  cases op <;> rfl

theorem Operator.sources_rule (op : Operator) :
    (op.rule?.toList.flatMap fun r => r.bodies.flatMap sources) = [] := by
  cases op <;> rfl

namespace Plan

variable (config : Config)

/-- The patterns of a query for entities are those of the conditions. -/
theorem sources_select (e : Entity) (g : Group) (scope : Scope) :
    (select config e g scope).query.sources =
      g.conditions.map (·.source config.caseInsensitive) := by
  cases e with
  | block =>
    rw [select_block_query, Query.sources_append_of_nil (Scope.sources_blockAdditions _ _ _)]
    exact (List.append_nil _).trans (sources_clauses rfl _ _ g)
  | page =>
    rw [select_page_query, Query.sources_append_of_nil (Scope.sources_pageAdditions _ _)]
    exact (List.append_nil _).trans (sources_clauses rfl _ _ g)

/-- The patterns of a query for pairs are those of the conditions of both sides, the left ones
first. -/
theorem sources_relate (left : Group) (op : Operator) (right : Group) (scope : Scope) :
    (relate config left op right scope).query.sources =
      (left.conditions ++ right.conditions).map (·.source config.caseInsensitive) := by
  rw [relate_query_eq, Query.sources_append_of_nil (Scope.sources_blockAdditions _ _ _)]
  rw [Query.sources, related]
  dsimp only
  rw [op.sources_rule, sources_append, sources_append, op.sources_clause,
    sources_clauses rfl, sources_clauses rfl]
  simp

end Plan

end OutlineQuery
