import OutlineQuery.Proofs.Datalog.Scoping
import OutlineQuery.Proofs.Plan.Additions

/-!
The queries of plans are well scoped. What one side contributes is summed up by the roles of the
results of its calls: those are patterns and identifiers, and no triple has a variable with such a
role.
-/
namespace OutlineQuery

open Datalog (Var Clause Query)
open Datalog.Clause (InOrder inOrder_append inOrder_of_forall)

def Role.isComputed : Role → Bool
  | blockId | pageId | pattern _ => true
  | _ => false

namespace Naming

def Computes (n : Naming) (v : Var) : Prop :=
  ∃ r : Role, v = n.roleVar r ∧ r.isComputed = true

def Stores (n : Naming) (v : Var) : Prop :=
  ∃ r : Role, v = n.roleVar r ∧ r.isComputed = false

/-- No variable is both read from the data and computed. -/
theorem Computes.not_stores {n : Naming} {v : Var} (h : n.Computes v) : ¬n.Stores v := by
  obtain ⟨r, rfl, hr⟩ := h
  rintro ⟨s, hrs, hs⟩
  rw [← roleVar_inj.1 hrs, hr] at hs
  cases hs

/-- Nor does one side of a hierarchy store what the other one computes. -/
theorem not_stores_of_computes_sides {v : Var} (hc : left.Computes v ∨ right.Computes v) :
    ¬(left.Stores v ∨ right.Stores v) := by
  rintro (hs | hs) <;> rcases hc with hc | hc
  · exact hc.not_stores hs
  · obtain ⟨r, rfl, -⟩ := hc
    obtain ⟨s, hs, -⟩ := hs
    exact left_ne_right s r hs.symm
  · obtain ⟨r, rfl, -⟩ := hc
    obtain ⟨s, hs, -⟩ := hs
    exact left_ne_right r s hs
  · exact hc.not_stores hs

end Naming

/-- Clauses of one side, with the roles of the results of their calls. -/
structure Contributes (n : Naming) (roles : List Role) (cs : List Clause) : Prop where
  outputs : Clause.outputs cs = roles.map n.roleVar
  data : ∀ v ∈ Clause.data cs, n.Stores v
  closed : ∀ c ∈ Clause.partsAll cs, c.Closed
  calls : Clause.calls cs = []

namespace Contributes

variable {n : Naming} {rs ss : List Role} {cs ds : List Clause}

theorem nil : Contributes n [] [] :=
  ⟨rfl, List.forall_mem_nil _, List.forall_mem_nil _, rfl⟩

/-- Clauses of one side can be put together, with their roles in that order. -/
theorem append (hcs : Contributes n rs cs) (hds : Contributes n ss ds) :
    Contributes n (rs ++ ss) (cs ++ ds) := by
  refine ⟨by simp [hcs.outputs, hds.outputs], ?_, ?_, by simp [hcs.calls, hds.calls]⟩
  · intro v hv
    rw [Clause.data_append] at hv
    exact (List.mem_append.1 hv).elim (hcs.data v) (hds.data v)
  · intro c hc
    rw [Clause.partsAll_append] at hc
    exact (List.mem_append.1 hc).elim (hcs.closed c) (hds.closed c)

/-- A triple about entities, uuids and texts. -/
theorem triple {r s : Role} (attr : String) (hr : r.isComputed = false)
    (hs : s.isComputed = false) :
    Contributes n [] [.triple (n.roleVar r) attr (.var (n.roleVar s))] := by
  refine ⟨rfl, ?_, List.forall_mem_singleton.2 trivial, rfl⟩
  have hdata : Clause.data [.triple (n.roleVar r) attr (.var (n.roleVar s))] =
      [n.roleVar r, n.roleVar s] := rfl
  rw [hdata]
  exact List.forall_mem_cons.2 ⟨⟨r, rfl, hr⟩, List.forall_mem_singleton.2 ⟨s, rfl, hs⟩⟩

theorem binding (call : Datalog.Call) (r : Role) :
    Contributes n [r] [.binding call (n.roleVar r)] :=
  ⟨rfl, List.forall_mem_nil _, List.forall_mem_singleton.2 trivial, rfl⟩

theorem test (call : Datalog.Call) : Contributes n [] [.test call] :=
  ⟨rfl, List.forall_mem_nil _, List.forall_mem_singleton.2 trivial, rfl⟩

/-- A clause around others adds nothing to them. -/
theorem nested {c : Clause} (hcs : Contributes n rs cs)
    (hparts : Clause.partsAll [c] = c :: Clause.partsAll cs)
    (hown : c.output? = none ∧ c.dataVars = [] ∧ c.call? = none) (hclosed : c.Closed) :
    Contributes n rs [c] := by
  obtain ⟨hout, hdata, hcall⟩ := hown
  constructor
  · rw [Clause.outputs, hparts, List.filterMap_cons_none hout]
    exact hcs.outputs
  · rw [Clause.data, hparts, List.flatMap_cons, hdata]
    exact hcs.data
  · rw [hparts]
    exact List.forall_mem_cons.2 ⟨hclosed, hcs.closed⟩
  · rw [Clause.calls, hparts, List.filterMap_cons_none hcall]
    exact hcs.calls

theorem absent (hcs : Contributes n rs cs) : Contributes n rs [.absent cs] :=
  hcs.nested (by simp [Clause.partsAll, Clause.parts]) ⟨rfl, rfl, rfl⟩ trivial

/-- A disjunction contributes what its branches do if it shares all their variables. -/
theorem orJoin {shared : List Var} (hcs : Contributes n rs cs)
    (hshared : Clause.varsAll cs ⊆ shared) : Contributes n rs [.orJoin shared cs] :=
  hcs.nested (by simp [Clause.partsAll, Clause.parts]) ⟨rfl, rfl, rfl⟩ hshared

end Contributes

section Tests

variable {n : Naming} (ignoreCase : Bool) (field : Var)

theorem PatternTest.contributes_test (t : PatternTest) : Contributes n [] [t.test field] := by
  unfold test
  split
  · exact (Contributes.test _).absent
  · exact .test _

theorem PatternTest.contributes_tests (tests : List PatternTest) :
    Contributes n [] (tests.map (·.test field)) := by
  induction tests with
  | nil => exact .nil
  | cons t rest ih => exact (t.contributes_test field).append ih

def patternRoles (start count : Nat) : List Role :=
  (List.range' start count).map .pattern

/-- The patterns are computed, each in its own variable. -/
theorem contributes_bindings (hn : n.Plain) (start : Nat) (cs : List Condition) :
    Contributes n (patternRoles start cs.length)
      ((PatternTest.number n start cs).map (·.binding ignoreCase)) := by
  induction cs generalizing start with
  | nil => exact .nil
  | cons c rest ih =>
    have hfirst : Contributes n [.pattern start] [_] :=
      .binding ⟨"re-pattern", [.str (c.source ignoreCase)]⟩ _
    rw [← Naming.patternVar_eq hn] at hfirst
    exact hfirst.append (ih (start + 1))

/-- The same patterns are computed if each is tested as soon as it is bound. -/
theorem contributes_alternating (hn : n.Plain) (start : Nat) (cs : List Condition) :
    Contributes n (patternRoles start cs.length)
      ((PatternTest.number n start cs).flatMap fun t => [t.binding ignoreCase, t.test field]) := by
  induction cs generalizing start with
  | nil => exact .nil
  | cons c rest ih =>
    have hfirst := contributes_bindings ignoreCase hn start [c]
    exact (hfirst.append (PatternTest.contributes_test field _)).append (ih (start + 1))

theorem varsAll_tests_subset (tests : List PatternTest) :
    Clause.varsAll (tests.map (·.test field)) ⊆ field :: tests.map (·.re) := by
  intro v hv
  obtain ⟨c, hc, hvc⟩ := Datalog.Clause.mem_varsAll.1 hv
  obtain ⟨t, ht, rfl⟩ := List.mem_map.1 hc
  rw [PatternTest.vars_test] at hvc
  rcases List.mem_cons.1 hvc with rfl | hvc
  · exact List.mem_cons_of_mem _ (List.mem_map.2 ⟨t, ht, rfl⟩)
  · rw [List.mem_singleton.1 hvc]
    exact List.mem_cons_self

/-- The tests of a group compute one pattern for each condition. -/
theorem contributes_matchClauses (hn : n.Plain) (g : Group) :
    Contributes n (patternRoles 0 g.conditions.length) (matchClauses ignoreCase n field g) := by
  unfold matchClauses
  dsimp only
  split
  · exact contributes_alternating ignoreCase field hn 0 g.conditions
  · have hjoin : Contributes n [] [_] := (PatternTest.contributes_tests field _).orJoin
      (varsAll_tests_subset field (PatternTest.number n 0 g.conditions))
    simpa using (contributes_bindings ignoreCase hn 0 g.conditions).append hjoin

theorem PatternTest.uses_test (t : PatternTest) : (t.test field).uses = [t.re, field] := by
  rw [← t.vars_test field]
  unfold test
  split <;> rfl

theorem inOrder_alternating {bound : List Var} (hfield : field ∈ bound) (tests : List PatternTest) :
    InOrder bound (tests.flatMap fun t => [t.binding ignoreCase, t.test field]) := by
  induction tests generalizing bound with
  | nil => trivial
  | cons t rest ih =>
    have hre : (t.binding ignoreCase).binds = [t.re] := rfl
    refine ⟨List.nil_subset _, ?_, ih (by simp [hfield])⟩
    rw [t.uses_test field, hre]
    simp [hfield]

/-- Each pattern is bound before the tests that need it. -/
theorem inOrder_matchClauses {bound : List Var} (hfield : field ∈ bound) (g : Group) :
    InOrder bound (matchClauses ignoreCase n field g) := by
  unfold matchClauses
  dsimp only
  generalize PatternTest.number n 0 g.conditions = tests
  split
  · exact inOrder_alternating ignoreCase field hfield tests
  · have hbinds : (tests.map (·.binding ignoreCase)).flatMap Clause.binds = tests.map (·.re) := by
      rw [List.flatMap_map, List.map_eq_flatMap]
      rfl
    have hlisted : field :: tests.map (·.re) ⊆ bound ++ tests.map (·.re) :=
      List.cons_subset.2 ⟨by simp [hfield], List.subset_append_right ..⟩
    rw [inOrder_append, hbinds]
    constructor
    · exact inOrder_of_forall (List.forall_mem_map.2 fun t _ => List.nil_subset _)
    · refine ⟨List.append_subset.2 ⟨hlisted, ?_⟩, trivial⟩
      exact List.Subset.trans (varsAll_tests_subset field tests) hlisted

end Tests

namespace Subject

/-- What is asked of a subject: its triples use nothing and compute nothing, and they bind its field
and its results, which are different. -/
structure Grounded (n : Naming) (subject : Subject) : Prop where
  base : Contributes n [] subject.base
  uses : ∀ c ∈ subject.base, c.uses = []
  field : subject.field ∈ subject.base.flatMap Clause.dataVars
  find : subject.find ⊆ subject.base.flatMap Clause.dataVars
  find_nodup : subject.find.Nodup

variable {n : Naming} (ignoreCase : Bool)

namespace Grounded

variable {subject : Subject} (h : subject.Grounded n) (g : Group)
include h

/-- A side computes one pattern for each condition, and nothing else. -/
theorem contributes (hn : n.Plain) :
    Contributes n (patternRoles 0 g.conditions.length) (subject.clauses ignoreCase n g) :=
  h.base.append (contributes_matchClauses ignoreCase _ hn g)

/-- The triples of a side bind the field before it is tested. -/
theorem inOrder (bound : List Var) : InOrder bound (subject.clauses ignoreCase n g) := by
  apply inOrder_append.2
  constructor
  · apply inOrder_of_forall
    intro c hc
    rw [h.uses c hc]
    exact List.nil_subset _
  · have hfield := Clause.flatMap_dataVars_subset_binds _ h.field
    exact inOrder_matchClauses ignoreCase _ (List.mem_append_right _ hfield) g

theorem find_subset : subject.find ⊆ (subject.clauses ignoreCase n g).flatMap Clause.dataVars := by
  rw [clauses, List.flatMap_append]
  exact List.subset_append_of_subset_left _ h.find

end Grounded

theorem grounded_ofBlock (hn : n.Plain) : (ofBlock n).Grounded n := by
  rw [ofBlock_eq hn]
  constructor
  case base =>
    exact (Contributes.triple _ rfl rfl).append ((Contributes.triple _ rfl rfl).append
      ((Contributes.triple _ rfl rfl).append (.triple _ rfl rfl)))
  case uses => simp [Clause.uses]
  all_goals simp [Clause.dataVars, Datalog.Term.var?]

theorem grounded_ofPage (hn : n.Plain) : (ofPage n).Grounded n := by
  rw [ofPage_eq hn]
  constructor
  case base => exact (Contributes.triple _ rfl rfl).append (.triple _ rfl rfl)
  case uses => simp [Clause.uses]
  all_goals simp [Clause.dataVars, Datalog.Term.var?]

/-- The variables of a side for blocks that its triples are about. -/
theorem mem_dataVars_ofBlock (hn : n.Plain) (g : Group) {r : Role}
    (hr : r ∈ [.block, .page, .content, .blockUuid, .pageName]) :
    n.roleVar r ∈ ((ofBlock n).clauses ignoreCase n g).flatMap Clause.dataVars := by
  simp only [clauses, ofBlock_eq hn, List.flatMap_append, List.flatMap_cons, Clause.dataVars,
    Datalog.Term.var?, Option.toList_some, List.mem_append, List.mem_cons, Naming.roleVar_inj]
  simp only [List.mem_cons, List.not_mem_nil, or_false] at hr
  rcases hr with rfl | rfl | rfl | rfl | rfl <;> simp

/-- The variables of a side for pages that its triples are about. -/
theorem mem_dataVars_ofPage (hn : n.Plain) (g : Group) {r : Role}
    (hr : r ∈ [.page, .title, .pageUuid]) :
    n.roleVar r ∈ ((ofPage n).clauses ignoreCase n g).flatMap Clause.dataVars := by
  simp only [clauses, ofPage_eq hn, List.flatMap_append, List.flatMap_cons, Clause.dataVars,
    Datalog.Term.var?, Option.toList_some, List.mem_append, List.mem_cons, Naming.roleVar_inj]
  simp only [List.mem_cons, List.not_mem_nil, or_false] at hr
  rcases hr with rfl | rfl | rfl <;> simp

end Subject

namespace Scope

variable {n : Naming}

theorem contributes_tested {roles : List Role} {needs : List Clause}
    (hneeds : Contributes n roles needs) (entity : Var) (ids : List String) :
    ∃ added : List Role, added.Sublist roles ∧ Contributes n added (tested needs entity ids) := by
  unfold tested
  rcases htest : membership? (idVar entity) ids with _ | test
  · exact ⟨[], List.nil_sublist _, .nil⟩
  · obtain ⟨call, rfl, -⟩ := exists_call_of_membership? htest
    exact ⟨roles ++ [], by simp, hneeds.append (.test call)⟩

theorem inOrder_tested {needs : List Clause} {entity : Var} {bound : List Var} (ids : List String)
    (hneeds : InOrder bound needs) (hid : idVar entity ∈ needs.flatMap Clause.binds) :
    InOrder bound (tested needs entity ids) := by
  unfold tested
  rcases htest : membership? (idVar entity) ids with _ | test
  · trivial
  · obtain ⟨call, rfl, hcall, -⟩ := exists_call_of_membership? htest
    refine inOrder_append.2 ⟨hneeds, ?_, trivial⟩
    change call.vars ⊆ _
    rw [hcall]
    exact List.cons_subset.2 ⟨List.mem_append_right _ hid, List.nil_subset _⟩

theorem contributes_journalClauses (s : Scope) :
    Contributes n [] (journalClauses (n.roleVar .page) s) := by
  unfold journalClauses
  split
  · have htriple : Contributes n [] [.triple (n.roleVar .page) Datalog.Attr.journal (.bool true)] :=
      ⟨rfl, List.forall_mem_singleton.2 ⟨.page, rfl, rfl⟩, List.forall_mem_singleton.2 trivial, rfl⟩
    exact htriple.absent
  · exact .nil

theorem inOrder_journalClauses {page : Var} {bound : List Var} (hpage : page ∈ bound) (s : Scope) :
    InOrder bound (journalClauses page s) := by
  unfold journalClauses
  split
  · exact ⟨List.cons_subset.2 ⟨hpage, List.nil_subset _⟩, trivial⟩
  · trivial

/-- For blocks, a scope may compute the identifier of the block and of the page. -/
theorem contributes_blockAdditions (n : Naming) (s : Scope) :
    ∃ added : List Role, added.Sublist [.blockId, .pageId] ∧
      Contributes n added (blockAdditions (n.roleVar .block) (n.roleVar .page) s) := by
  have hblock : Contributes n [.blockId] [idClause (n.roleVar .block)] := by
    rw [idClause, Naming.idVar_block]
    exact .binding _ _
  have hpage : Contributes n [.pageId]
      [uuidClause (n.roleVar .page), idClause (n.roleVar .page)] := by
    rw [uuidClause, idClause, Naming.uuidVar_page, Naming.idVar_page]
    exact (Contributes.triple _ rfl rfl).append (.binding _ _)
  obtain ⟨bs, hbs, hblocks⟩ := contributes_tested hblock (n.roleVar .block) s.blockIds
  obtain ⟨ps, hps, hpages⟩ := contributes_tested hpage (n.roleVar .page) s.pageIds
  refine ⟨bs ++ ps ++ [], ?_, (hblocks.append hpages).append (contributes_journalClauses s)⟩
  simpa using hbs.append hps

theorem contributes_pageAdditions (n : Naming) (s : Scope) :
    ∃ added : List Role, added.Sublist [.blockId, .pageId] ∧
      Contributes n added (pageAdditions (n.roleVar .page) s) := by
  have hpage : Contributes n [.pageId] [idClause (n.roleVar .page)] := by
    rw [idClause, Naming.idVar_page]
    exact .binding _ _
  obtain ⟨ps, hps, hpages⟩ := contributes_tested hpage (n.roleVar .page) s.pageIds
  refine ⟨ps ++ [], ?_, hpages.append (contributes_journalClauses s)⟩
  simpa using hps.cons .blockId

/-- The uuid of a block has to be bound before; that of its page is read by the additions. -/
theorem inOrder_blockAdditions {block page : Var} {bound : List Var}
    (huuid : uuidVar block ∈ bound) (hpage : page ∈ bound) (s : Scope) :
    InOrder bound (blockAdditions block page s) := by
  refine inOrder_append.2 ⟨inOrder_append.2 ⟨inOrder_tested _ ?_ ?_, inOrder_tested _ ?_ ?_⟩, ?_⟩
  · exact ⟨List.cons_subset.2 ⟨huuid, List.nil_subset _⟩, trivial⟩
  · exact List.mem_singleton.2 rfl
  · refine ⟨List.nil_subset _, List.cons_subset.2 ⟨?_, List.nil_subset _⟩, trivial⟩
    simp [uuidClause, Clause.binds, Clause.dataVars, Datalog.Term.var?]
  · simp [idClause, Clause.binds, Clause.output?]
  · exact inOrder_journalClauses (List.mem_append_left _ hpage) s

theorem inOrder_pageAdditions {page : Var} {bound : List Var}
    (huuid : uuidVar page ∈ bound) (hpage : page ∈ bound) (s : Scope) :
    InOrder bound (pageAdditions page s) := by
  refine inOrder_append.2 ⟨inOrder_tested _ ?_ ?_, ?_⟩
  · exact ⟨List.cons_subset.2 ⟨huuid, List.nil_subset _⟩, trivial⟩
  · exact List.mem_singleton.2 rfl
  · exact inOrder_journalClauses (List.mem_append_left _ hpage) s

end Scope

namespace Operator

variable (op : Operator) (left right : Var)

theorem outputs_clause : Clause.outputs [op.clause left right] = [] := by
  cases op <;> rfl

theorem data_clause_subset : Clause.data [op.clause left right] ⊆ [left, right] := by
  cases op <;>
    simp [clause, Hierarchy.childEdge, Hierarchy.ancestor, Hierarchy.linked, Hierarchy.either,
      Clause.data, Clause.partsAll, Clause.parts, Clause.dataVars, Datalog.Term.var?]

/-- The disjunctions of operators share all their variables. -/
theorem closed_clause : ∀ c ∈ Clause.partsAll [op.clause left right], c.Closed := by
  cases op <;>
    simp [clause, Hierarchy.childEdge, Hierarchy.ancestor, Hierarchy.linked, Hierarchy.either,
      Clause.partsAll, Clause.parts, Clause.Closed, Clause.varsAll, Clause.vars, Datalog.Term.var?]

theorem uses_clause_subset : (op.clause left right).uses ⊆ [left, right] := by
  cases op <;>
    simp [clause, Hierarchy.childEdge, Hierarchy.ancestor, Hierarchy.linked, Hierarchy.either,
      Clause.uses, Clause.vars, Clause.varsAll, Datalog.Term.var?]

/-- An operator calls no rule but its own. -/
theorem calls_clause_subset :
    Clause.calls [op.clause left right] ⊆ op.rule?.toList.map Datalog.Rule.signature := by
  cases op
  case flexDescendantOf | flexAncestorOf =>
    -- Both branches of the disjunction call the one rule.
    exact List.cons_subset.2 ⟨List.mem_singleton.2 rfl, List.Subset.refl _⟩
  all_goals exact List.Subset.refl _

/-- The rule of an operator calls no rule but itself. -/
theorem calls_rule_subset :
    op.rule?.toList.flatMap (·.bodies.flatMap Clause.calls) ⊆
      op.rule?.toList.map Datalog.Rule.signature := by
  cases op <;> decide

/-- An operator has a rule exactly if it calls one. -/
theorem rule?_eq_none_iff :
    op.rule?.toList = [] ↔ Clause.calls [op.clause left right] = [] := by
  cases op <;>
    simp [clause, rule?, Hierarchy.childEdge, Hierarchy.ancestor, Hierarchy.linked,
      Hierarchy.either, Clause.calls, Clause.partsAll, Clause.parts, Clause.call?]

end Operator

theorem nodup_patternRoles (start count : Nat) : (patternRoles start count).Nodup :=
  List.Nodup.map (fun _ _ h => Role.pattern.inj h) List.nodup_range'

theorem isComputed_of_mem_patternRoles {start count : Nat} {r : Role}
    (hr : r ∈ patternRoles start count) : r.isComputed = true := by
  obtain ⟨i, -, rfl⟩ := List.mem_map.1 hr
  rfl

/-- The roles of patterns and of identifiers are computed, and different. -/
theorem computed_roles (count : Nat) {added : List Role}
    (hadded : added.Sublist [.blockId, .pageId]) :
    (patternRoles 0 count ++ added).Nodup ∧
      ∀ r ∈ patternRoles 0 count ++ added, r.isComputed = true := by
  have hids {r : Role} (hr : r ∈ added) : r = .blockId ∨ r = .pageId := by
    simpa using hadded.subset hr
  constructor
  · refine List.nodup_append.2 ⟨nodup_patternRoles _ _, hadded.nodup (by decide), ?_⟩
    rintro _ hr _ hs rfl
    obtain ⟨i, -, rfl⟩ := List.mem_map.1 hr
    simpa using hids hs
  · intro r hr
    rcases List.mem_append.1 hr with hr | hr
    · exact isComputed_of_mem_patternRoles hr
    · rcases hids hr with rfl | rfl <;> rfl

theorem Contributes.computes_of_mem_outputs {n : Naming} {roles : List Role} {cs : List Clause}
    (hcs : Contributes n roles cs) (hroles : ∀ r ∈ roles, r.isComputed = true) {v : Var}
    (hv : v ∈ Clause.outputs cs) : n.Computes v := by
  rw [hcs.outputs] at hv
  obtain ⟨r, hr, rfl⟩ := List.mem_map.1 hv
  exact ⟨r, rfl, hroles r hr⟩

namespace Plan

/-- A query with one side and what its scope adds, which computes only identifiers and uses only
what the side binds. -/
theorem wellScoped_append {ignoreCase : Bool} {g : Group} {subject : Subject} {added : List Role}
    {ds : List Clause} (hsubject : subject.Grounded .root) (hscope : Contributes .root added ds)
    (hadded : added.Sublist [.blockId, .pageId])
    (hds : InOrder ((subject.clauses ignoreCase .root g).flatMap Clause.binds) ds)
    (hlength : subject.columns.length = subject.find.length) (hcolumns : subject.columns.Nodup) :
    ((unscoped ignoreCase g subject).append ds).WellScoped subject.columns := by
  have hside := hsubject.contributes ignoreCase g Naming.root_plain
  obtain ⟨hnodup, hroles⟩ := computed_roles g.conditions.length hadded
  obtain ⟨houtputs, hdata, hclosed, hcalls⟩ := hside.append hscope
  have hcomputes {v : Var} := (hside.append hscope).computes_of_mem_outputs hroles (v := v)
  constructor
  case inOrder => exact inOrder_append.2 ⟨hsubject.inOrder ignoreCase g [], hds⟩
  case closed => exact hclosed
  case outputs_nodup =>
    change (Clause.outputs (subject.clauses ignoreCase .root g ++ ds)).Nodup
    rw [houtputs]
    exact hnodup.map Naming.root.roleVar_injective
  case outputs_disjoint => exact fun v hv hstored => (hcomputes hv).not_stores (hdata v hstored)
  case find_bound =>
    simp only [unscoped, Query.append, List.flatMap_append]
    exact List.subset_append_of_subset_left _ (hsubject.find_subset ignoreCase g)
  case find_nodup => exact hsubject.find_nodup
  case columns_length => exact hlength
  case columns_nodup => exact hcolumns
  -- A query with one side has no rules, and calls none.
  case calls => simp [unscoped, Query.append, hcalls]
  case rules_nodup => simp [unscoped, Query.append]
  case rules_eq_nil => simp [unscoped, Query.append, hcalls]

/-- A query for entities is well scoped, whatever is searched for and wherever. -/
theorem wellScoped_select (config : Config) (e : Entity) (g : Group) (scope : Scope) :
    (select config e g scope).query.WellScoped (select config e g scope).columns := by
  have hn := Naming.root_plain
  cases e with
  | block =>
    have hbinds {r : Role} (hr : r ∈ [.block, .page, .content, .blockUuid, .pageName]) :=
      Clause.flatMap_dataVars_subset_binds _
        (Subject.mem_dataVars_ofBlock config.caseInsensitive hn g hr)
    obtain ⟨added, hadded, hscope⟩ :=
      Scope.contributes_blockAdditions .root (effectiveScope config scope)
    rw [select_block_query]
    apply wellScoped_append (Subject.grounded_ofBlock hn) hscope hadded
    · apply Scope.inOrder_blockAdditions
      · rw [Naming.uuidVar_block]
        exact hbinds (by simp)
      · exact hbinds (by simp)
    · rfl
    · decide
  | page =>
    have hbinds {r : Role} (hr : r ∈ [.page, .title, .pageUuid]) :=
      Clause.flatMap_dataVars_subset_binds _
        (Subject.mem_dataVars_ofPage config.caseInsensitive hn g hr)
    obtain ⟨added, hadded, hscope⟩ :=
      Scope.contributes_pageAdditions .root (effectiveScope config scope)
    rw [select_page_query]
    apply wellScoped_append (Subject.grounded_ofPage hn) hscope hadded
    · apply Scope.inOrder_pageAdditions
      · rw [Naming.uuidVar_page]
        exact hbinds (by simp)
      · exact hbinds (by simp)
    · rfl
    · decide

/-- The clauses for two related blocks are in order, and so is the scope of the left one. -/
theorem inOrder_related (ignoreCase : Bool) (left : Group) (op : Operator) (right : Group)
    (scope : Scope) :
    InOrder [] ((related ignoreCase left op right).clauses ++
      Scope.blockAdditions (Naming.left.roleVar .block) (Naming.left.roleVar .page) scope) := by
  have hl {r : Role} (hr : r ∈ [.block, .page, .content, .blockUuid, .pageName]) :=
    Clause.flatMap_dataVars_subset_binds _
      (Subject.mem_dataVars_ofBlock ignoreCase Naming.left_plain left hr)
  have hr {r : Role} (hr : r ∈ [.block, .page, .content, .blockUuid, .pageName]) :=
    Clause.flatMap_dataVars_subset_binds _
      (Subject.mem_dataVars_ofBlock ignoreCase Naming.right_plain right hr)
  simp only [related]
  refine inOrder_append.2 ⟨inOrder_append.2 ⟨inOrder_append.2 ⟨?_, ?_⟩, ?_⟩, ?_⟩
  · exact (Subject.grounded_ofBlock Naming.left_plain).inOrder ignoreCase left _
  · exact (Subject.grounded_ofBlock Naming.right_plain).inOrder ignoreCase right _
  · refine ⟨List.Subset.trans (op.uses_clause_subset _ _) ?_, trivial⟩
    simp only [List.flatMap_append, List.nil_append]
    exact List.cons_subset.2 ⟨List.mem_append_left _ (hl (by simp)),
      List.cons_subset.2 ⟨List.mem_append_right _ (hr (by simp)), List.nil_subset _⟩⟩
  · apply Scope.inOrder_blockAdditions
    all_goals simp only [List.flatMap_append, List.nil_append, Naming.uuidVar_block]
    all_goals exact List.mem_append_left _ (List.mem_append_left _ (hl (by simp)))

/-- Variables of the two sides are different, so it is enough that those of each side are. -/
theorem nodup_sides {ls rs added : List Role} (hleft : (ls ++ added).Nodup) (hright : rs.Nodup) :
    (ls.map Naming.left.roleVar ++ rs.map Naming.right.roleVar ++
      added.map Naming.left.roleVar).Nodup := by
  have hperm : (ls.map Naming.left.roleVar ++ rs.map Naming.right.roleVar ++
      added.map Naming.left.roleVar).Perm
      ((ls ++ added).map Naming.left.roleVar ++ rs.map Naming.right.roleVar) := by
    simpa only [List.map_append, List.append_assoc] using
      List.perm_append_comm.append_left (ls.map Naming.left.roleVar)
  -- The additions are brought to the side they belong to, and then the sides are compared.
  rw [hperm.nodup_iff, List.nodup_append]
  refine ⟨hleft.map Naming.left.roleVar_injective, hright.map Naming.right.roleVar_injective, ?_⟩
  intro v hv w hw
  obtain ⟨r, -, rfl⟩ := List.mem_map.1 hv
  obtain ⟨s, -, rfl⟩ := List.mem_map.1 hw
  exact Naming.left_ne_right r s

/-- The two sides share no variable, so what they compute and what they store stand side by side. -/
theorem wellScoped_relate (config : Config) (left : Group) (op : Operator) (right : Group)
    (scope : Scope) :
    (relate config left op right scope).query.WellScoped
      (relate config left op right scope).columns := by
  obtain ⟨added, hadded, hscope⟩ :=
    Scope.contributes_blockAdditions .left (effectiveScope config scope)
  have hleft := Subject.grounded_ofBlock Naming.left_plain
  have hright := Subject.grounded_ofBlock Naming.right_plain
  have hl := hleft.contributes config.caseInsensitive left Naming.left_plain
  have hr := hright.contributes config.caseInsensitive right Naming.right_plain
  have hop := op.outputs_clause (Naming.left.roleVar .block) (Naming.right.roleVar .block)
  obtain ⟨hnodup, hroles⟩ := computed_roles left.conditions.length hadded
  rw [relate_query_eq]
  constructor
  case inOrder => exact inOrder_related ..
  case closed =>
    simp only [related, Query.append, Clause.partsAll_append, List.forall_mem_append]
    exact ⟨⟨⟨hl.closed, hr.closed⟩, op.closed_clause _ _⟩, hscope.closed⟩
  case outputs_nodup =>
    simp only [related, Query.append, Clause.outputs_append, hl.outputs, hr.outputs, hop,
      hscope.outputs, List.append_nil]
    exact nodup_sides hnodup (nodup_patternRoles 0 right.conditions.length)
  case outputs_disjoint =>
    intro v hv hdata
    simp only [related, Query.append, Clause.outputs_append, Clause.data_append, hop,
      List.mem_append, List.not_mem_nil, or_false] at hv hdata
    have hcomputes : Naming.left.Computes v ∨ Naming.right.Computes v := by
      rcases hv with (hv | hv) | hv
      · exact .inl (hl.computes_of_mem_outputs (fun _ => isComputed_of_mem_patternRoles) hv)
      · exact .inr (hr.computes_of_mem_outputs (fun _ => isComputed_of_mem_patternRoles) hv)
      · exact .inl (hscope.computes_of_mem_outputs
          (fun r hr => hroles r (List.mem_append_right _ hr)) hv)
    -- The operator reads nothing but the two blocks, which belong to the sides already.
    have hstores : Naming.left.Stores v ∨ Naming.right.Stores v := by
      rcases hdata with ((hv | hv) | hv) | hv
      · exact .inl (hl.data v hv)
      · exact .inr (hr.data v hv)
      · have hblock := op.data_clause_subset _ _ hv
        simp only [List.mem_cons, List.not_mem_nil, or_false] at hblock
        exact hblock.imp (fun h => ⟨.block, h, rfl⟩) fun h => ⟨.block, h, rfl⟩
      · exact .inl (hscope.data v hv)
    exact Naming.not_stores_of_computes_sides hcomputes hstores
  case find_bound =>
    simp only [related, Query.append, List.flatMap_append]
    refine List.append_subset.2 ⟨?_, ?_⟩
    · exact List.Subset.trans (hleft.find_subset config.caseInsensitive left) (by simp)
    · exact List.Subset.trans (hright.find_subset config.caseInsensitive right) (by simp)
  case find_nodup =>
    simp [related, Query.append, Subject.ofBlock_eq Naming.left_plain,
      Subject.ofBlock_eq Naming.right_plain]
  case columns_length => rfl
  case columns_nodup =>
    exact show ((Subject.ofBlock .left).columns ++ (Subject.ofBlock .right).columns).Nodup by decide
  -- The sides call no rule, so the calls are those of the operator and of its own rule.
  case calls =>
    simp only [related, Query.append, Clause.calls_append, hl.calls, hr.calls, hscope.calls,
      List.nil_append, List.append_nil]
    exact List.append_subset.2 ⟨op.calls_clause_subset _ _, op.calls_rule_subset⟩
  case rules_nodup => cases op <;> simp [related, Query.append, Operator.rule?]
  case rules_eq_nil =>
    simp only [related, Query.append, Clause.calls_append, hl.calls, hr.calls, hscope.calls,
      List.nil_append, List.append_nil]
    exact op.rule?_eq_none_iff _ _

end Plan

end OutlineQuery
