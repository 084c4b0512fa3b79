import OutlineQuery.Compiled
import OutlineQuery.Proofs.Datalog.Renaming
import OutlineQuery.Proofs.Plan.Relate

/-!
A relation between two sides, told from the other side, compiles to the same query with the sides
exchanged.
-/
namespace OutlineQuery

open Datalog (Var Clause Query)

/-- A text that starts with one of two leads, with the other one in its place. -/
def exchangeLead (p q s : String) : String :=
  if p.toList.isPrefixOf s.toList then q ++ String.ofList (s.toList.drop p.toList.length)
  else if q.toList.isPrefixOf s.toList then p ++ String.ofList (s.toList.drop q.toList.length)
  else s

theorem exchangeLead_first (p q s : String) : exchangeLead p q (p ++ s) = q ++ s := by
  simp [exchangeLead]

/-- The first lead is looked for first, so a name with the second one must not have the first one
too. -/
theorem exchangeLead_second {p q s : String} (h : ¬p.toList <+: (q ++ s).toList) :
    exchangeLead p q (q ++ s) = p ++ s := by
  rw [String.toList_append] at h
  simp [exchangeLead, h]

/-- The variable with the same role on the other side of a hierarchy. -/
def Datalog.Var.exchange (v : Var) : Var :=
  ⟨exchangeLead "l-" "r-" v.name⟩

/-- The column with the same content of the other side of a hierarchy. -/
def exchangeColumn (column : String) : String :=
  exchangeLead "left_" "right_" column

def swapHalves {β : Type} (xs : List β) : List β :=
  xs.drop (xs.length / 2) ++ xs.take (xs.length / 2)

theorem swapHalves_append {β : Type} {xs ys : List β} (h : xs.length = ys.length) :
    swapHalves (xs ++ ys) = ys ++ xs := by
  have hhalf : (xs ++ ys).length / 2 = xs.length := by
    rw [List.length_append]
    omega
  rw [swapHalves, hhalf, List.drop_left, List.take_left]

namespace Naming

theorem exchange_left (r : Role) : (left.roleVar r).exchange = right.roleVar r := by
  simp only [Var.exchange, roleVar, lead_left, lead_right, exchangeLead_first]

theorem exchange_right (r : Role) : (right.roleVar r).exchange = left.roleVar r := by
  simp only [Var.exchange, roleVar, lead_left, lead_right]
  rw [exchangeLead_second (by simp)]

theorem exchangeColumn_left (name : String) :
    exchangeColumn (left.column name) = right.column name :=
  exchangeLead_first _ _ name

theorem exchangeColumn_right (name : String) :
    exchangeColumn (right.column name) = left.column name :=
  exchangeLead_second (by simp)

end Naming

namespace PatternTest

def rename (ρ : Var → Var) (t : PatternTest) : PatternTest :=
  ⟨t.condition, ρ t.re⟩

theorem rename_binding (ρ : Var → Var) (ignoreCase : Bool) (t : PatternTest) :
    (t.binding ignoreCase).rename ρ = (t.rename ρ).binding ignoreCase :=
  rfl

theorem rename_test (ρ : Var → Var) (field : Var) (t : PatternTest) :
    (t.test field).rename ρ = (t.rename ρ).test (ρ field) := by
  unfold test
  by_cases hneg : t.condition.negated = true
  · simp only [hneg, rename, if_true]
    rfl
  · simp only [hneg, rename]
    rfl

end PatternTest

section Rename

variable {ρ : Var → Var} {n m : Naming} (hn : n.Plain) (hm : m.Plain)
  (hρ : ∀ r, ρ (n.roleVar r) = m.roleVar r)

include hn hm hρ

/-- Tests that are numbered on one side are numbered alike on the other. -/
theorem PatternTest.rename_number (i : Nat) (cs : List Condition) :
    (number n i cs).map (rename ρ) = number m i cs := by
  induction cs generalizing i with
  | nil => rfl
  | cons c rest ih =>
    have hvar : ρ (n.patternVar i) = m.patternVar i := by
      rw [Naming.patternVar_eq hn, hρ, Naming.patternVar_eq hm]
    rw [number, List.map_cons, ih, number, rename, hvar]

/-- Renaming takes the tests of one side to those of another. -/
theorem rename_matchClauses (ignoreCase : Bool) (field : Var) (g : Group) :
    (matchClauses ignoreCase n field g).map (Clause.rename ρ) =
      matchClauses ignoreCase m (ρ field) g := by
  have hnumber := PatternTest.rename_number hn hm hρ 0 g.conditions
  simp only [matchClauses, ← hnumber, List.length_map]
  split
  · simp only [List.map_flatMap, List.flatMap_map, List.map_cons, List.map_nil,
      PatternTest.rename_binding, PatternTest.rename_test]
  · simp only [List.map_append, List.map_map, List.map_cons, List.map_nil, Clause.rename,
      Clause.renameAll_eq_map, Function.comp_def, PatternTest.rename_binding,
      PatternTest.rename_test]
    rfl

/-- Renaming takes the clauses of one side to those of another. -/
theorem Subject.rename_clauses (ignoreCase : Bool) (g : Group) :
    ((ofBlock n).clauses ignoreCase n g).map (Clause.rename ρ) =
      (ofBlock m).clauses ignoreCase m g := by
  rw [clauses, List.map_append, rename_matchClauses hn hm hρ, clauses]
  simp only [ofBlock_eq hn, ofBlock_eq hm, List.map_cons, List.map_nil, Clause.rename,
    Datalog.Term.rename, hρ]

theorem Subject.rename_find : (ofBlock n).find.map ρ = (ofBlock m).find := by
  simp only [ofBlock_eq hn, ofBlock_eq hm, List.map_cons, List.map_nil, hρ]

end Rename

namespace Operator

/-- Operators treat variables alike whatever their names. -/
theorem rename_clause (ρ : Var → Var) (op : Operator) (left right : Var) :
    (op.clause left right).rename ρ = op.clause (ρ left) (ρ right) := by
  cases op <;> rfl

/-- An operator and its inverse share one rule. -/
theorem rule?_inverse (op : Operator) : op.inverse.rule? = op.rule? := by
  cases op <;> rfl

/-- An operator between two blocks and its inverse between them the other way round ask for the
same: only flexible ones list the two blocks, and so differ by their order. -/
theorem clause_alike_inverse (op : Operator) (x y : Var) :
    (op.clause y x).Alike (op.inverse.clause x y) := by
  cases op
  case flexChildOf | flexParentOf | flexDescendantOf | flexAncestorOf =>
    exact .orJoin (.swap x y []) (.refl _)
  all_goals exact .same _

end Operator

theorem Tier.worst_comm (a b : Tier) : a.worst b = b.worst a := by
  cases a <;> cases b <;> rfl

namespace Plan

/-- With the sides exchanged, the clauses for two related blocks are those of the inverse
relation. -/
theorem rearranged_related (ignoreCase : Bool) (left : Group) (op : Operator) (right : Group) :
    Clause.Rearranged ((related ignoreCase left op right).clauses.map (Clause.rename Var.exchange))
      (related ignoreCase right op.inverse left).clauses := by
  have hleft := Subject.rename_clauses Naming.left_plain Naming.right_plain Naming.exchange_left
    ignoreCase left
  have hright := Subject.rename_clauses Naming.right_plain Naming.left_plain Naming.exchange_right
    ignoreCase right
  simp only [related, List.map_append, hleft, hright, List.map_cons, List.map_nil,
    Operator.rename_clause, Naming.exchange_left, Naming.exchange_right]
  -- The clauses of the sides trade places as they are; the operator's own clause may be reordered.
  refine ⟨_, List.perm_append_comm.append_right _, List.rel_append ?_ ?_⟩
  · exact List.forall₂_same.2 fun c _ => .same c
  · exact .cons (op.clause_alike_inverse _ _) .nil

/-- Without a scope, a hierarchy query has only the clauses for the two blocks. -/
theorem relate_everything {config : Config} (hconfig : config.excludeJournals = false)
    (left : Group) (op : Operator) (right : Group) :
    (relate config left op right .everything).query =
      related config.caseInsensitive left op right := by
  rw [relate_query]
  simp [Scope.additions, Scope.everything, effectiveScope, hconfig, BlockAnswer.target,
    Scope.restriction_nil, Query.append]

end Plan

namespace Compiled

/-- One compiled search is another with the sides of the hierarchy exchanged. -/
structure Mirrors (c d : Compiled) : Prop where
  clauses : Clause.Rearranged (c.query.clauses.map (Clause.rename Var.exchange)) d.query.clauses
  rules : c.query.rules = d.query.rules
  tier : c.tier = d.tier
  merges : c.merges = d.merges
  find : d.query.find = swapHalves (c.query.find.map Var.exchange)
  columns : d.columns = swapHalves (c.columns.map exchangeColumn)

theorem collapse_eq_ok_iff {config : Config} {place : String} {s : GroupSet} {c : Collapsed} :
    collapse config place s = .ok c ↔
      s.collapse config.mergePlainOr = .ok c ∧ c.group.conditions ≠ [] := by
  unfold collapse
  cases s.collapse config.mergePlainOr with
  | error obstacle => simp
  | ok d =>
    by_cases hempty : d.group.conditions = []
    · suffices h : d = c → c.group.conditions = [] by simpa [hempty] using h
      rintro rfl
      exact hempty
    · suffices h : d = c → c.group.conditions ≠ [] by simpa [hempty] using h
      rintro rfl
      exact hempty

/-- A hierarchy is compiled if it is not too large and both of its sides collapse. -/
theorem ofSearch_hierarchy_eq_ok_iff {config : Config} {e : Entity} {r : Relation} {scope : Scope}
    {c : Compiled} :
    ofSearch config ⟨e, .hierarchy r, scope⟩ = .ok c ↔
      r.left.conditionCount + r.right.conditionCount ≤ config.maxConditions ∧
      ∃ left right, collapse config "hierarchy.left" r.left = .ok left ∧
        collapse config "hierarchy.right" r.right = .ok right ∧
        c = ofPlan (.relate config left.group r.operator right.group scope)
          (r.left.tier.worst r.right.tier) (left.merges + right.merges) := by
  simp only [ofSearch, Search.Body.conditionCount]
  by_cases hcount : config.maxConditions < r.left.conditionCount + r.right.conditionCount
  · simp [hcount, Nat.not_le.2 hcount]
  · simp only [hcount, if_false, ofBody, Nat.le_of_not_lt hcount, true_and]
    cases collapse config "hierarchy.left" r.left with
    | error problem => simp [bind, Except.bind]
    | ok left =>
      cases collapse config "hierarchy.right" r.right with
      | error problem => simp [bind, Except.bind]
      | ok right => simp [bind, Except.bind, pure, Except.pure, eq_comm]

/-- A set of groups is compiled if it is not too large and collapses. -/
theorem ofSearch_groups_eq_ok_iff {config : Config} {e : Entity} {set : GroupSet} {scope : Scope}
    {c : Compiled} :
    ofSearch config ⟨e, .groups set, scope⟩ = .ok c ↔
      set.conditionCount ≤ config.maxConditions ∧
      ∃ group, collapse config "" set = .ok group ∧
        c = ofPlan (.select config e group.group scope) set.tier group.merges := by
  simp only [ofSearch, Search.Body.conditionCount]
  by_cases hcount : config.maxConditions < set.conditionCount
  · simp [hcount, Nat.not_le.2 hcount]
  · simp only [hcount, if_false, ofBody, Nat.le_of_not_lt hcount, true_and]
    cases collapse config "" set with
    | error problem => simp [bind, Except.bind]
    | ok group => simp [bind, Except.bind, pure, Except.pure, eq_comm]

/-- Two groups related one way and the other way round. -/
theorem mirrors_ofPlan {config : Config} (hconfig : config.excludeJournals = false) (left : Group)
    (op : Operator) (right : Group) (tier : Tier) (merges : Nat) :
    (ofPlan (.relate config left op right .everything) tier merges).Mirrors
      (ofPlan (.relate config right op.inverse left .everything) tier merges) := by
  have hfindLeft := Subject.rename_find Naming.left_plain Naming.right_plain Naming.exchange_left
  have hfindRight := Subject.rename_find Naming.right_plain Naming.left_plain Naming.exchange_right
  constructor
  case clauses =>
    simp only [ofPlan, Plan.relate_everything hconfig]
    exact Plan.rearranged_related _ left op right
  case rules =>
    simp only [ofPlan, Plan.relate_everything hconfig, Plan.related, op.rule?_inverse]
  case tier => rfl
  case merges => rfl
  case find =>
    simp only [ofPlan, Plan.relate_everything hconfig, Plan.related, List.map_append, hfindLeft,
      hfindRight]
    have hlength : (Subject.ofBlock .right).find.length = (Subject.ofBlock .left).find.length := rfl
    rw [swapHalves_append hlength]
  case columns =>
    simp only [ofPlan, Plan.relate, Subject.ofBlock, List.map_append, List.map_cons, List.map_nil,
      Naming.exchangeColumn_left, Naming.exchangeColumn_right]
    rfl

/-- A relation told from the other side compiles exactly when it does itself, and then to the same
search with the sides exchanged. -/
theorem ofSearch_inverted (config : Config) (hconfig : config.excludeJournals = false) (e : Entity)
    (r : Relation) :
    ((∃ c, ofSearch config ⟨e, .hierarchy r, .everything⟩ = .ok c) ↔
      ∃ d, ofSearch config ⟨e, .hierarchy r.inverted, .everything⟩ = .ok d) ∧
    ∀ c d, ofSearch config ⟨e, .hierarchy r, .everything⟩ = .ok c →
      ofSearch config ⟨e, .hierarchy r.inverted, .everything⟩ = .ok d → c.Mirrors d := by
  simp only [ofSearch_hierarchy_eq_ok_iff, collapse_eq_ok_iff, Relation.inverted]
  constructor
  -- Which side is collapsed first decides the error, but not whether there is one.
  · rw [Nat.add_comm]
    constructor
    · rintro ⟨_, hcount, left, right, hleft, hright, -⟩
      exact ⟨_, hcount, right, left, hright, hleft, rfl⟩
    · rintro ⟨_, hcount, right, left, hright, hleft, -⟩
      exact ⟨_, hcount, left, right, hleft, hright, rfl⟩
  · rintro c d ⟨-, left, right, ⟨hleft, -⟩, ⟨hright, -⟩, rfl⟩
      ⟨-, right', left', ⟨hright', -⟩, ⟨hleft', -⟩, rfl⟩
    obtain rfl : left = left' := Except.ok.inj (hleft.symm.trans hleft')
    obtain rfl : right = right' := Except.ok.inj (hright.symm.trans hright')
    rw [Tier.worst_comm r.right.tier, Nat.add_comm right.merges]
    exact mirrors_ofPlan hconfig left.group r.operator right.group _ _

/-- Blocks with the letters of `letters`, anywhere above or below blocks with an `e` or without an
`f`. -/
def letterRelation : Relation :=
  ⟨letters, .flexDescendantOf, ⟨[⟨[askFor "e" false, askFor "f" true], .or⟩], .or⟩⟩

theorem ofSearch_inverted_letterRelation :
    Config.default.excludeJournals = false ∧
      ∃ c d, ofSearch .default ⟨.block, .hierarchy letterRelation, .everything⟩ = .ok c ∧
        ofSearch .default ⟨.block, .hierarchy letterRelation.inverted, .everything⟩ = .ok d ∧
        c.Mirrors d := by
  obtain ⟨hiff, hmirrors⟩ := ofSearch_inverted .default rfl .block letterRelation
  have hok : ∃ c, ofSearch .default ⟨.block, .hierarchy letterRelation, .everything⟩ = .ok c :=
    ⟨_, rfl⟩
  obtain ⟨c, hc⟩ := hok
  obtain ⟨d, hd⟩ := hiff.1 ⟨c, hc⟩
  exact ⟨rfl, c, d, hc, hd, hmirrors c d hc hd⟩

end Compiled

end OutlineQuery
