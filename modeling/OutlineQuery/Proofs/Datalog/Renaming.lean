import Mathlib.Data.List.Forall2
import OutlineQuery.Datalog.Clause

/-!
Clauses with other names for their variables, and lists of clauses that ask for the same in another
order.
-/
namespace OutlineQuery.Datalog

def Term.rename (ρ : Var → Var) : Term → Term
  | var v => var (ρ v)
  | str s => str s
  | bool b => bool b
  | set items => set items

def Call.rename (ρ : Var → Var) (call : Call) : Call :=
  ⟨call.func, call.args.map (Term.rename ρ)⟩

namespace Clause

mutual

def rename (ρ : Var → Var) : Clause → Clause
  | triple entity attr value => triple (ρ entity) attr (value.rename ρ)
  | binding call out => binding (call.rename ρ) (ρ out)
  | test call => test (call.rename ρ)
  | orJoin shared branches => orJoin (shared.map ρ) (renameAll ρ branches)
  | absent body => absent (renameAll ρ body)
  | rule name args => rule name (args.map ρ)

def renameAll (ρ : Var → Var) : List Clause → List Clause
  | [] => []
  | c :: rest => rename ρ c :: renameAll ρ rest

end

theorem renameAll_eq_map (ρ : Var → Var) (cs : List Clause) :
    renameAll ρ cs = cs.map (rename ρ) := by
  induction cs with
  | nil => rfl
  | cons c rest ih => rw [renameAll, ih, List.map_cons]

/-- Two clauses are the same, or disjunctions with the same variables and branches in some order. -/
inductive Alike : Clause → Clause → Prop where
  | same (c : Clause) : Alike c c
  | orJoin {vs ws : List Var} {bs cs : List Clause} (hvars : vs.Perm ws) (hbranches : bs.Perm cs) :
    Alike (.orJoin vs bs) (.orJoin ws cs)

/-- One list of clauses has those of another in some order, each up to the order within
disjunctions. -/
def Rearranged (cs ds : List Clause) : Prop :=
  ∃ es, cs.Perm es ∧ List.Forall₂ Alike es ds

end Clause

end OutlineQuery.Datalog
