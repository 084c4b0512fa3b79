import Mathlib.Data.List.Nodup
import OutlineQuery.Datalog.Query

/-!
Which variables the clauses of a query bind, and which they use. A triple binds its variables and a
call binds its result; everything else only uses variables, which must have been bound before it.
-/
namespace OutlineQuery.Datalog

namespace Clause

def dataVars : Clause → List Var
  | triple entity _ value => entity :: value.var?.toList
  | _ => []

def output? : Clause → Option Var
  | binding _ out => some out
  | _ => none

/-- The variables that a clause binds for the clauses after it. -/
def binds (c : Clause) : List Var :=
  c.dataVars ++ c.output?.toList

theorem flatMap_dataVars_subset_binds (cs : List Clause) :
    cs.flatMap dataVars ⊆ cs.flatMap binds := by
  intro v hv
  obtain ⟨c, hc, hvc⟩ := List.mem_flatMap.1 hv
  exact List.mem_flatMap.2 ⟨c, hc, List.mem_append_left _ hvc⟩

/-- The variables that must be bound before a clause. -/
def uses : Clause → List Var
  | triple .. => []
  | binding call _ => call.vars
  | c => c.vars

/-- Clauses that are read in order, after some variables are bound, use only what is bound by
then. -/
def InOrder (bound : List Var) : List Clause → Prop
  | [] => True
  | c :: rest => c.uses ⊆ bound ∧ InOrder (bound ++ c.binds) rest

/-- Later clauses may use what earlier ones bind. -/
theorem inOrder_append {bound : List Var} {cs ds : List Clause} :
    InOrder bound (cs ++ ds) ↔ InOrder bound cs ∧ InOrder (bound ++ cs.flatMap binds) ds := by
  induction cs generalizing bound with
  | nil => simp [InOrder]
  | cons c rest ih =>
    simp only [List.cons_append, InOrder, ih, List.flatMap_cons, List.append_assoc, and_assoc]

/-- Clauses that need nothing of each other. -/
theorem inOrder_of_forall {bound : List Var} {cs : List Clause} (h : ∀ c ∈ cs, c.uses ⊆ bound) :
    InOrder bound cs := by
  induction cs generalizing bound with
  | nil => trivial
  | cons c rest ih =>
    obtain ⟨hc, hrest⟩ := List.forall_mem_cons.1 h
    exact ⟨hc, ih fun d hd v hv => List.mem_append_left _ (hrest d hd hv)⟩

mutual

def parts : Clause → List Clause
  | orJoin shared branches => orJoin shared branches :: partsAll branches
  | absent body => absent body :: partsAll body
  | c => [c]

def partsAll : List Clause → List Clause
  | [] => []
  | c :: rest => parts c ++ partsAll rest

end

theorem partsAll_eq_flatMap (cs : List Clause) : partsAll cs = cs.flatMap parts := by
  induction cs with
  | nil => rfl
  | cons c rest ih => rw [partsAll, ih, List.flatMap_cons]

@[simp] theorem partsAll_append (cs ds : List Clause) :
    partsAll (cs ++ ds) = partsAll cs ++ partsAll ds := by
  simp only [partsAll_eq_flatMap, List.flatMap_append]

/-- The name of the rule that a clause calls, and how many arguments it gives. -/
def call? : Clause → Option (String × Nat)
  | rule name args => some (name, args.length)
  | _ => none

/-- A disjunction lists every variable of its branches. -/
def Closed : Clause → Prop
  | orJoin shared branches => varsAll branches ⊆ shared
  | _ => True

def outputs (cs : List Clause) : List Var :=
  (partsAll cs).filterMap output?

def data (cs : List Clause) : List Var :=
  (partsAll cs).flatMap dataVars

def calls (cs : List Clause) : List (String × Nat) :=
  (partsAll cs).filterMap call?

section Append

variable (cs ds : List Clause)

@[simp] theorem outputs_append : outputs (cs ++ ds) = outputs cs ++ outputs ds := by
  simp only [outputs, partsAll_append, List.filterMap_append]

@[simp] theorem data_append : data (cs ++ ds) = data cs ++ data ds := by
  simp only [data, partsAll_append, List.flatMap_append]

@[simp] theorem calls_append : calls (cs ++ ds) = calls cs ++ calls ds := by
  simp only [calls, partsAll_append, List.filterMap_append]

end Append

theorem dataVars_subset_vars (c : Clause) : c.dataVars ⊆ c.vars := by
  cases c with
  | triple entity attr value => exact List.Subset.refl _
  | _ => exact List.nil_subset _

end Clause

/-- A query mentions the variables of its clauses, nested ones included. -/
theorem Query.mentions_iff {q : Query} {v : Var} :
    q.mentions v = true ↔ ∃ c ∈ q.clauses, v ∈ c.vars := by
  simp only [mentions, List.any_eq_true, List.contains_iff_mem]

theorem Query.mentions_of_mem_dataVars {q : Query} {v : Var}
    (h : v ∈ q.clauses.flatMap Clause.dataVars) : q.mentions v = true := by
  obtain ⟨c, hc, hv⟩ := List.mem_flatMap.1 h
  exact mentions_iff.2 ⟨c, hc, c.dataVars_subset_vars hv⟩

namespace Rule

def signature (r : Rule) : String × Nat :=
  (r.name, r.params.length)

end Rule

/-- A query that can be answered clause by clause, with the labels of its results. -/
structure Query.WellScoped (q : Query) (columns : List String) : Prop where
  inOrder : Clause.InOrder [] q.clauses
  closed : ∀ c ∈ Clause.partsAll q.clauses, c.Closed
  /-- The result of a call has no other source. -/
  outputs_nodup : (Clause.outputs q.clauses).Nodup
  outputs_disjoint : (Clause.outputs q.clauses).Disjoint (Clause.data q.clauses)
  find_bound : q.find ⊆ q.clauses.flatMap Clause.dataVars
  find_nodup : q.find.Nodup
  columns_length : columns.length = q.find.length
  columns_nodup : columns.Nodup
  /-- Every rule that is called, by a clause or by another rule, is there. -/
  calls : Clause.calls q.clauses ++ q.rules.flatMap (·.bodies.flatMap Clause.calls) ⊆
    q.rules.map Rule.signature
  rules_nodup : (q.rules.map (·.name)).Nodup
  /-- There are rules only where one is called. -/
  rules_eq_nil : q.rules = [] ↔ Clause.calls q.clauses = []

end OutlineQuery.Datalog
