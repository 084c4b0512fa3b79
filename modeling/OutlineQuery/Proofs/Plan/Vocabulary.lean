import Mathlib.Tactic.IntervalCases
import OutlineQuery.Proofs.Datalog.Names
import OutlineQuery.Proofs.Plan.Additions

/-!
The words in the queries of plans. Apart from literals, a plan writes only variables of its sides
and names from a fixed list, whatever its conditions and its scope are about.
-/
namespace OutlineQuery

open Datalog (Var Clause Query isDelimiter isName isRuleName)

/-- The attributes, functions and rules that plans use. -/
def vocabulary : List String :=
  [Datalog.Attr.content, Datalog.Attr.uuid, Datalog.Attr.page, Datalog.Attr.parent,
   Datalog.Attr.displayName, Datalog.Attr.journal, "re-pattern", "re-find", "str", "=", "contains?",
   Hierarchy.ancestorRule.name, Hierarchy.linkedRule.name]

/-- Every word of plans could be the name of a rule, so one check covers all uses of it. -/
theorem isRuleName_of_mem_vocabulary : ∀ s ∈ vocabulary, isRuleName s = true := by
  decide

def Naming.sides : List Naming :=
  [root, left, right]

theorem Naming.plain_of_mem_sides {n : Naming} (hn : n ∈ sides) : n.Plain := by
  simp only [sides, List.mem_cons, List.not_mem_nil, or_false] at hn
  rcases hn with rfl | rfl | rfl
  · exact root_plain
  · exact left_plain
  · exact right_plain

def Datalog.Var.HasRole (v : Var) : Prop :=
  ∃ n ∈ Naming.sides, ∃ r, v = n.roleVar r

/-- A clause in the words of plans. -/
structure Datalog.Clause.Worded (c : Clause) : Prop where
  vars : ∀ v ∈ c.vars, v.HasRole
  names : c.names ⊆ vocabulary

def nameChars : List Char :=
  "abcdefghijklmnopqrstuvwxyz0123456789-".toList

theorem mem_nameChars_of_isDigit {c : Char} (h : c.isDigit = true) : c ∈ nameChars := by
  have hrange : 48 ≤ c.toNat ∧ c.toNat ≤ 57 := by
    simpa [Char.isDigit, UInt32.le_iff_toNat_le] using h
  rw [← Char.ofNat_toNat c]
  generalize c.toNat = k at hrange
  obtain ⟨hlow, hhigh⟩ := hrange
  interval_cases k <;> decide

theorem Role.name_subset (r : Role) : r.name.toList ⊆ nameChars := by
  cases r
  case pattern i =>
    rw [name, String.toList_append, Nat.toString_eq_repr, Nat.toList_repr]
    refine List.append_subset.2 ⟨by decide, ?_⟩
    intro c hc
    exact mem_nameChars_of_isDigit (Nat.isDigit_of_mem_toDigits (by decide) (by decide) hc)
  all_goals exact show _ ⊆ nameChars by decide

theorem Datalog.Var.HasRole.name_subset {v : Var} (h : v.HasRole) : v.name.toList ⊆ nameChars := by
  obtain ⟨n, hn, r, rfl⟩ := h
  have hlead : ∀ n ∈ Naming.sides, n.lead.toList ⊆ nameChars := by decide
  rw [Naming.roleVar, String.toList_append]
  exact List.append_subset.2 ⟨hlead n hn, r.name_subset⟩

/-- The name of a role is a name on either side, numbered ones included. -/
theorem Datalog.Var.HasRole.isName {v : Var} (h : v.HasRole) : isName v.text = true := by
  have hchars : nameChars.all (!isDelimiter ·) = true := by decide
  have hmark : isDelimiter '?' = false := by decide
  simp only [Datalog.isName, Var.text, Bool.and_eq_true, Bool.not_eq_true', List.all_eq_true,
    String.toList_append]
  refine ⟨by simp, List.forall_mem_append.2 ⟨by simpa using hmark, ?_⟩⟩
  intro c hc
  simpa using List.all_eq_true.1 hchars c (h.name_subset hc)

/-- Clauses with words from the vocabulary only have proper names. -/
theorem Datalog.Clause.Worded.isWellNamed {c : Clause} (h : c.Worded) : c.isWellNamed = true :=
  Clause.isWellNamed_of_names (fun v hv => (h.vars v hv).isName)
    fun s hs => isRuleName_of_mem_vocabulary s (h.names hs)

section Pieces

variable {n : Naming} {ignoreCase : Bool} {g : Group} {c : Clause}

/-- Conditions call two functions, whatever their values are. -/
theorem names_matchClauses {field : Var} (hc : c ∈ matchClauses ignoreCase n field g) :
    c.names ⊆ ["re-pattern", "re-find"] := by
  have htest (t : PatternTest) : (t.test field).names ⊆ ["re-pattern", "re-find"] := by
    unfold PatternTest.test
    split <;> simp [Clause.names, Clause.namesAll]
  unfold matchClauses at hc
  dsimp only at hc
  split at hc
  · obtain ⟨t, -, hc⟩ := List.mem_flatMap.1 hc
    simp only [List.mem_cons, List.not_mem_nil, or_false] at hc
    rcases hc with rfl | rfl
    · simp [PatternTest.binding, Clause.names]
    · exact htest t
  · rcases List.mem_append.1 hc with hc | hc
    · obtain ⟨t, -, rfl⟩ := List.mem_map.1 hc
      simp [PatternTest.binding, Clause.names]
    · rw [List.mem_singleton.1 hc, Clause.names]
      intro s hs
      obtain ⟨d, hd, hs⟩ := Clause.mem_namesAll.1 hs
      obtain ⟨t, -, rfl⟩ := List.mem_map.1 hd
      exact htest t hs

/-- Values of conditions go into literals: the words are roles and those two functions. -/
theorem worded_matchClauses (hn : n ∈ Naming.sides) {field : Var} (hfield : field.HasRole)
    (hc : c ∈ matchClauses ignoreCase n field g) : c.Worded where
  vars v hv := by
    rcases mem_vars_matchClauses hc hv with rfl | ⟨i, rfl⟩
    · exact hfield
    · exact ⟨n, hn, .pattern i, Naming.patternVar_eq (Naming.plain_of_mem_sides hn) i⟩
  names := List.Subset.trans (names_matchClauses hc) (by decide)

theorem worded_triple (hn : n ∈ Naming.sides) {r s : Role} {attr : String}
    (hattr : attr ∈ vocabulary) :
    (Clause.triple (n.roleVar r) attr (.var (n.roleVar s))).Worded := by
  constructor
  · change ∀ v ∈ [n.roleVar r, n.roleVar s], v.HasRole
    exact List.forall_mem_cons.2 ⟨⟨n, hn, r, rfl⟩, List.forall_mem_singleton.2 ⟨n, hn, s, rfl⟩⟩
  · simpa [Clause.names] using hattr

theorem worded_ofBlock (hn : n ∈ Naming.sides)
    (hc : c ∈ (Subject.ofBlock n).clauses ignoreCase n g) : c.Worded := by
  rw [Subject.clauses, Subject.ofBlock_eq (Naming.plain_of_mem_sides hn)] at hc
  rcases List.mem_append.1 hc with hc | hc
  · simp only [List.mem_cons, List.not_mem_nil, or_false] at hc
    rcases hc with rfl | rfl | rfl | rfl <;> exact worded_triple hn (by decide)
  · exact worded_matchClauses hn ⟨n, hn, .content, rfl⟩ hc

theorem worded_ofPage (hn : n ∈ Naming.sides)
    (hc : c ∈ (Subject.ofPage n).clauses ignoreCase n g) : c.Worded := by
  rw [Subject.clauses, Subject.ofPage_eq (Naming.plain_of_mem_sides hn)] at hc
  rcases List.mem_append.1 hc with hc | hc
  · simp only [List.mem_cons, List.not_mem_nil, or_false] at hc
    rcases hc with rfl | rfl <;> exact worded_triple hn (by decide)
  · exact worded_matchClauses hn ⟨n, hn, .title, rfl⟩ hc

theorem Operator.worded_clause (op : Operator) :
    (op.clause (Naming.left.roleVar .block) (Naming.right.roleVar .block)).Worded := by
  constructor
  · intro v hv
    have hblock := Operator.vars_clause op _ _ hv
    simp only [List.mem_cons, List.not_mem_nil, or_false] at hblock
    rcases hblock with rfl | rfl
    · exact ⟨.left, by simp [Naming.sides], .block, rfl⟩
    · exact ⟨.right, by simp [Naming.sides], .block, rfl⟩
  · cases op <;> decide

namespace Scope

theorem worded_idClause (hn : n ∈ Naming.sides) :
    (idClause (n.roleVar .block)).Worded ∧ (idClause (n.roleVar .page)).Worded := by
  simp only [idClause, Naming.idVar_block, Naming.uuidVar_block, Naming.idVar_page,
    Naming.uuidVar_page]
  have hbinding (r s : Role) :
      (Clause.binding ⟨"str", [.var (n.roleVar r)]⟩ (n.roleVar s)).Worded := by
    refine ⟨?_, show ["str"] ⊆ vocabulary by decide⟩
    change ∀ v ∈ [n.roleVar r, n.roleVar s], v.HasRole
    exact List.forall_mem_cons.2 ⟨⟨n, hn, r, rfl⟩, List.forall_mem_singleton.2 ⟨n, hn, s, rfl⟩⟩
  exact ⟨hbinding _ _, hbinding _ _⟩

theorem worded_tested {needs : List Clause} {entity : Var} {ids : List String}
    (hneeds : ∀ c ∈ needs, c.Worded) (hid : (idVar entity).HasRole)
    (hc : c ∈ tested needs entity ids) : c.Worded := by
  unfold tested at hc
  rcases htest : membership? (idVar entity) ids with _ | test
  · simp [htest] at hc
  · rw [htest] at hc
    rcases List.mem_append.1 hc with hc | hc
    · exact hneeds c hc
    · obtain ⟨call, rfl, hvars, hfunc⟩ := exists_call_of_membership? htest
      have hwords : ["=", "contains?"] ⊆ vocabulary := by decide
      rw [List.mem_singleton.1 hc]
      constructor
      · rw [Clause.vars, hvars]
        simpa using hid
      · rw [Clause.names]
        exact List.cons_subset.2 ⟨hwords hfunc, List.nil_subset _⟩

theorem worded_journalClauses (hn : n ∈ Naming.sides) {s : Scope}
    (hc : c ∈ journalClauses (n.roleVar .page) s) : c.Worded := by
  unfold journalClauses at hc
  split at hc
  · rw [List.mem_singleton.1 hc]
    refine ⟨?_, show [Datalog.Attr.journal] ⊆ vocabulary by decide⟩
    simp only [journalExclusion, Clause.vars, Clause.varsAll, Datalog.Term.var?, Option.toList_none,
      List.append_nil, List.forall_mem_singleton]
    exact ⟨n, hn, .page, rfl⟩
  · cases hc

theorem worded_blockAdditions (hn : n ∈ Naming.sides) {s : Scope}
    (hc : c ∈ blockAdditions (n.roleVar .block) (n.roleVar .page) s) : c.Worded := by
  obtain ⟨hblock, hpage⟩ := worded_idClause hn
  have huuid : (uuidClause (n.roleVar .page)).Worded := by
    rw [uuidClause, Naming.uuidVar_page]
    exact worded_triple hn (by decide)
  rcases List.mem_append.1 hc with hc | hc
  · rcases List.mem_append.1 hc with hc | hc
    · refine worded_tested (List.forall_mem_singleton.2 hblock) ?_ hc
      rw [Naming.idVar_block]
      exact ⟨n, hn, .blockId, rfl⟩
    · refine worded_tested (List.forall_mem_cons.2 ⟨huuid, List.forall_mem_singleton.2 hpage⟩) ?_ hc
      rw [Naming.idVar_page]
      exact ⟨n, hn, .pageId, rfl⟩
  · exact worded_journalClauses hn hc

theorem worded_pageAdditions (hn : n ∈ Naming.sides) {s : Scope}
    (hc : c ∈ pageAdditions (n.roleVar .page) s) : c.Worded := by
  rcases List.mem_append.1 hc with hc | hc
  · refine worded_tested (List.forall_mem_singleton.2 (worded_idClause hn).2) ?_ hc
    rw [Naming.idVar_page]
    exact ⟨n, hn, .pageId, rfl⟩
  · exact worded_journalClauses hn hc

end Scope

end Pieces

namespace Plan

variable (config : Config) (scope : Scope)

/-- A query for entities has words from the vocabulary only, whatever is searched for. -/
theorem worded_select (e : Entity) (g : Group) :
    ∀ c ∈ (select config e g scope).query.clauses, c.Worded := by
  have hroot : Naming.root ∈ Naming.sides := by simp [Naming.sides]
  intro c hc
  cases e with
  | block =>
    rw [select_block_query] at hc
    exact (List.mem_append.1 hc).elim (worded_ofBlock hroot) (Scope.worded_blockAdditions hroot)
  | page =>
    rw [select_page_query] at hc
    exact (List.mem_append.1 hc).elim (worded_ofPage hroot) (Scope.worded_pageAdditions hroot)

theorem worded_relate (left : Group) (op : Operator) (right : Group) :
    ∀ c ∈ (relate config left op right scope).query.clauses, c.Worded := by
  have hleft : Naming.left ∈ Naming.sides := by simp [Naming.sides]
  have hright : Naming.right ∈ Naming.sides := by simp [Naming.sides]
  intro c hc
  rw [relate_query_eq] at hc
  simp only [related, Query.append, List.mem_append, List.mem_singleton] at hc
  rcases hc with ((hc | hc) | rfl) | hc
  · exact worded_ofBlock hleft hc
  · exact worded_ofBlock hright hc
  · exact op.worded_clause
  · exact Scope.worded_blockAdditions hleft hc

theorem hasRole_of_mem_find {n : Naming} (hn : n ∈ Naming.sides) (e : Entity) :
    ∀ v ∈ (Subject.ofEntity e n).find, v.HasRole := by
  have hplain := Naming.plain_of_mem_sides hn
  intro v hv
  cases e with
  | block =>
    simp only [Subject.ofEntity, Subject.ofBlock_eq hplain, List.mem_cons, List.not_mem_nil,
      or_false] at hv
    rcases hv with rfl | rfl | rfl <;> exact ⟨n, hn, _, rfl⟩
  | page =>
    simp only [Subject.ofEntity, Subject.ofPage_eq hplain, List.mem_cons, List.not_mem_nil,
      or_false] at hv
    rcases hv with rfl | rfl <;> exact ⟨n, hn, _, rfl⟩

theorem select_find_and_rules (e : Entity) (g : Group) :
    (select config e g scope).query.find = (Subject.ofEntity e .root).find ∧
      (select config e g scope).query.rules = [] := by
  rw [select_query]
  exact ⟨rfl, rfl⟩

/-- The text of a query with one side can be read back. -/
theorem wellFormed_select (e : Entity) (g : Group) :
    (select config e g scope).query.WellFormed := by
  obtain ⟨hfind, hrules⟩ := select_find_and_rules config scope e g
  constructor
  case find =>
    intro v hv
    rw [hfind] at hv
    exact (hasRole_of_mem_find (by simp [Naming.sides]) e v hv).isName
  case clauses => exact fun c hc => (worded_select config scope e g c hc).isWellNamed
  all_goals simp [hrules]

/-- The rule of an operator is well formed on its own, as it is the same in every query. -/
theorem wellFormed_rules (op : Operator) : Query.WellFormed ⟨[], [], op.rule?.toList⟩ := by
  cases op <;> decide

/-- The text of a query for two related blocks can be read back. -/
theorem wellFormed_relate (left : Group) (op : Operator) (right : Group) :
    (relate config left op right scope).query.WellFormed := by
  have hrules := wellFormed_rules op
  have hclauses := worded_relate config scope left op right
  rw [relate_query_eq] at hclauses ⊢
  refine ⟨?_, fun c hc => (hclauses c hc).isWellNamed, hrules.ruleNames, hrules.params,
    hrules.bodies, hrules.distinct, hrules.inhabited⟩
  intro v hv
  rcases List.mem_append.1 hv with hv | hv
  · exact (hasRole_of_mem_find (by simp [Naming.sides]) .block v hv).isName
  · exact (hasRole_of_mem_find (by simp [Naming.sides]) .block v hv).isName

end Plan

end OutlineQuery
