import OutlineQuery.Proofs.Datalog.Semantics
import OutlineQuery.Proofs.Group.Meaning
import OutlineQuery.Proofs.Plan.Variables

/-!
What the clauses that test a field mean: every pattern has its variable, and the conditions of the
group, combined, hold of the field.
-/
namespace OutlineQuery

open Datalog (Var Clause Query Value Interpretation Builtins)
open Datalog.Clause (Holds HoldsAll holdsAll_iff)

variable {α : Type} {I : Interpretation α} {scope : List Var} {σ : Var → Value α}

namespace PatternTest

theorem number_conditions (n : Naming) (start : Nat) (cs : List Condition) :
    (number n start cs).map (·.condition) = cs := by
  induction cs generalizing start with
  | nil => rfl
  | cons c rest ih => simp [number, ih]

theorem number_length (n : Naming) (start : Nat) (cs : List Condition) :
    (number n start cs).length = cs.length := by
  rw [← congrArg List.length (number_conditions n start cs), List.length_map]

/-- The variable of a numbered condition tells its place. -/
theorem exists_place_of_mem_number {n : Naming} {start : Nat} {cs : List Condition}
    {t : PatternTest} (ht : t ∈ number n start cs) :
    ∃ i, cs[i]? = some t.condition ∧ t.re = n.patternVar (start + i) := by
  induction cs generalizing start with
  | nil => simp [number] at ht
  | cons c rest ih =>
    rcases List.mem_cons.1 ht with rfl | ht
    · exact ⟨0, rfl, rfl⟩
    · obtain ⟨i, hi, hre⟩ := ih ht
      exact ⟨i + 1, hi, by rw [hre]; congr 1; omega⟩

/-- A binding says which pattern the variable stands for. -/
theorem holds_binding_iff (ignoreCase : Bool) (t : PatternTest) :
    Holds I (t.binding ignoreCase) scope σ ↔ σ t.re = .pattern (t.condition.source ignoreCase) := by
  simp only [binding, Holds, List.map_cons, List.map_nil, Datalog.Term.value, Builtins.value?,
    if_true, Option.some.injEq]
  exact eq_comm

/-- Where the variable of a condition is its pattern, the test says that the condition holds. -/
theorem holds_test_iff {ignoreCase : Bool} {t : PatternTest} {field : Var}
    (hre : σ t.re = .pattern (t.condition.source ignoreCase)) (hfield : field ∈ scope)
    (hmem : t.re ∈ scope) :
    Holds I (t.test field) scope σ ↔
      t.condition.holds I.builtins.finds ignoreCase (σ field) = true := by
  have hfound (s : List Var) : Holds I (.test ⟨"re-find", [.var t.re, .var field]⟩) s σ ↔
      I.builtins.finds (t.condition.source ignoreCase) (σ field) = true := by
    simp [Holds, Datalog.Term.value, Builtins.Accepts, hre]
  unfold test
  rcases hn : t.condition.negated with _ | _
  · simp only [Bool.false_eq_true, if_false]
    rw [hfound, Condition.holds, hn, Bool.bne_false]
  · simp only [if_true]
    have hvars : Clause.varsAll [.test ⟨"re-find", [.var t.re, .var field]⟩] ⊆ scope := by
      simp [Clause.varsAll, Clause.vars, Datalog.Call.vars, Datalog.Term.var?, hfield, hmem]
    rw [Datalog.Clause.holds_absent_iff hvars, holdsAll_iff]
    simp [hfound, Condition.holds, hn]

/-- The variables of a test are that of its pattern and the field. -/
theorem vars_test (field : Var) (t : PatternTest) : (t.test field).vars = [t.re, field] := by
  unfold test
  split <;> simp [Clause.vars, Clause.varsAll, Datalog.Call.vars, Datalog.Term.var?]

end PatternTest

open PatternTest (number)

/-- Every pattern variable of a side is the pattern of its condition. -/
def PatternsBound (ignoreCase : Bool) (n : Naming) (cs : List Condition) (σ : Var → Value α) :
    Prop :=
  ∀ t ∈ number n 0 cs, σ t.re = .pattern (t.condition.source ignoreCase)

theorem combine_number (n : Naming) (k : Combinator) (p : Condition → Bool) (cs : List Condition) :
    k.combine p cs = k.combine (fun t : PatternTest => p t.condition) (number n 0 cs) := by
  have hcs := PatternTest.number_conditions n 0 cs
  generalize number n 0 cs = tests at hcs ⊢
  subst hcs
  cases k
  · exact List.all_map
  · exact List.any_map

/-- Tests that stand beside their bindings all hold. -/
theorem holdsAll_flatMap_tests_iff {ignoreCase : Bool} {field : Var} {tests : List PatternTest}
    (hfield : field ∈ scope) (hre : ∀ t ∈ tests, t.re ∈ scope) :
    HoldsAll I (tests.flatMap fun t => [t.binding ignoreCase, t.test field]) scope σ ↔
      (∀ t ∈ tests, σ t.re = .pattern (t.condition.source ignoreCase)) ∧
        tests.all (·.condition.holds I.builtins.finds ignoreCase (σ field)) = true := by
  simp only [holdsAll_iff, List.forall_mem_flatMap, List.forall_mem_cons,
    PatternTest.holds_binding_iff, List.all_eq_true]
  constructor
  · intro h
    exact ⟨fun t ht => (h t ht).1, fun t ht =>
      (PatternTest.holds_test_iff (h t ht).1 hfield (hre t ht)).1 (h t ht).2.1⟩
  · rintro ⟨hbound, hholds⟩ t ht
    exact ⟨hbound t ht,
      (PatternTest.holds_test_iff (hbound t ht) hfield (hre t ht)).2 (hholds t ht), by simp⟩

/-- Of tests in a disjunction, after all their bindings, some one holds. -/
theorem holdsAll_orJoin_tests_iff {ignoreCase : Bool} {field : Var} {tests : List PatternTest} :
    HoldsAll I (tests.map (·.binding ignoreCase) ++
        [.orJoin (field :: tests.map (·.re)) (tests.map (·.test field))]) scope σ ↔
      (∀ t ∈ tests, σ t.re = .pattern (t.condition.source ignoreCase)) ∧
        tests.any (·.condition.holds I.builtins.finds ignoreCase (σ field)) = true := by
  have hbindings : HoldsAll I (tests.map (·.binding ignoreCase)) scope σ ↔
      ∀ t ∈ tests, σ t.re = .pattern (t.condition.source ignoreCase) := by
    simp only [holdsAll_iff, List.forall_mem_map, PatternTest.holds_binding_iff]
  -- The disjunction lists every variable of its branches, so it shares the whole valuation.
  have hvars : Clause.varsAll (tests.map (·.test field)) ⊆ field :: tests.map (·.re) := by
    intro v hv
    obtain ⟨c, hc, hvc⟩ := Datalog.Clause.mem_varsAll.1 hv
    obtain ⟨t, ht, rfl⟩ := List.mem_map.1 hc
    rw [PatternTest.vars_test] at hvc
    rcases List.mem_cons.1 hvc with rfl | hvc
    · exact List.mem_cons_of_mem _ (List.mem_map.2 ⟨t, ht, rfl⟩)
    · rw [List.mem_singleton.1 hvc]
      exact List.mem_cons_self
  rw [Datalog.Clause.holdsAll_append, hbindings]
  refine and_congr_right fun hbound => ?_
  have hbranch (t : PatternTest) (ht : t ∈ tests) :
      Holds I (t.test field) (field :: tests.map (·.re) ++ (t.test field).bound) σ ↔
        t.condition.holds I.builtins.finds ignoreCase (σ field) = true :=
    PatternTest.holds_test_iff (hbound t ht) (by simp) (by simpa using .inr (.inl ⟨t, ht, rfl⟩))
  rw [holdsAll_iff, List.forall_mem_singleton, Datalog.Clause.holds_orJoin_iff hvars,
    List.any_eq_true]
  constructor
  · rintro ⟨c, hc, hholds⟩
    obtain ⟨t, ht, rfl⟩ := List.mem_map.1 hc
    exact ⟨t, ht, (hbranch t ht).1 hholds⟩
  · rintro ⟨t, ht, hholds⟩
    exact ⟨t.test field, List.mem_map.2 ⟨t, ht, rfl⟩, (hbranch t ht).2 hholds⟩

/-- The clauses for a group: its patterns are bound, and it holds of the field. -/
theorem holdsAll_matchClauses_iff {ignoreCase : Bool} {n : Naming} {field : Var} {g : Group}
    (hg : g.conditions ≠ []) (hfield : field ∈ scope)
    (hre : ∀ t ∈ number n 0 g.conditions, t.re ∈ scope) :
    HoldsAll I (matchClauses ignoreCase n field g) scope σ ↔
      PatternsBound ignoreCase n g.conditions σ ∧
        g.combined I.builtins.finds ignoreCase (σ field) = true := by
  rw [Group.combined, combine_number n]
  have hlen := PatternTest.number_length n 0 g.conditions
  have hpos := List.length_pos_iff.2 hg
  unfold PatternsBound matchClauses
  generalize number n 0 g.conditions = tests at hre hlen ⊢
  dsimp only
  split
  · rename_i hall
    -- "All" is what the combinator says, or there is one test only.
    have hcombine (p : PatternTest → Bool) : g.combinator.combine p tests = tests.all p := by
      rcases hall with hand | hone
      · rw [hand]
        rfl
      · obtain ⟨t, rfl⟩ := List.length_eq_one_iff.1 (show tests.length = 1 by omega)
        cases g.combinator <;> simp [Combinator.combine]
    rw [hcombine, holdsAll_flatMap_tests_iff hfield hre]
  · rename_i hany
    have hor : g.combinator = .or := by
      cases hk : g.combinator <;> simp_all
    rw [hor, holdsAll_orJoin_tests_iff]
    rfl

/-- The clauses for a group have no variable but the field and those of its patterns. -/
theorem mem_vars_matchClauses {ignoreCase : Bool} {n : Naming} {field v : Var} {g : Group}
    {c : Clause} (hc : c ∈ matchClauses ignoreCase n field g) (hv : v ∈ c.vars) :
    v = field ∨ ∃ i, v = n.patternVar i := by
  have hre (t : PatternTest) (ht : t ∈ number n 0 g.conditions) : ∃ i, t.re = n.patternVar i := by
    obtain ⟨i, -, hi⟩ := PatternTest.exists_place_of_mem_number ht
    exact ⟨0 + i, hi⟩
  unfold matchClauses at hc
  -- From here on only the variables of the tests matter, not how they were numbered.
  generalize number n 0 g.conditions = tests at hc hre
  have hbinding (t : PatternTest) (ht : t ∈ tests) (hv : v ∈ (t.binding ignoreCase).vars) :
      v = field ∨ ∃ i, v = n.patternVar i := by
    obtain rfl : v = t.re := List.mem_singleton.1 hv
    exact .inr (hre t ht)
  have htest (t : PatternTest) (ht : t ∈ tests) (hv : v ∈ (t.test field).vars) :
      v = field ∨ ∃ i, v = n.patternVar i := by
    rw [PatternTest.vars_test] at hv
    rcases List.mem_cons.1 hv with rfl | hv
    · exact .inr (hre t ht)
    · exact .inl (List.mem_singleton.1 hv)
  dsimp only at hc
  split at hc
  · obtain ⟨t, ht, hct⟩ := List.mem_flatMap.1 hc
    rcases List.mem_cons.1 hct with rfl | hct
    · exact hbinding t ht hv
    · rw [List.mem_singleton.1 hct] at hv
      exact htest t ht hv
  · rcases List.mem_append.1 hc with hc | hc
    · obtain ⟨t, ht, rfl⟩ := List.mem_map.1 hc
      exact hbinding t ht hv
    · rw [List.mem_singleton.1 hc, Clause.vars, List.mem_append, List.mem_cons, List.mem_map] at hv
      rcases hv with (rfl | ⟨t, ht, rfl⟩) | hv
      · exact .inl rfl
      · exact .inr (hre t ht)
      · obtain ⟨d, hd, hvd⟩ := Datalog.Clause.mem_varsAll.1 hv
        obtain ⟨t, ht, rfl⟩ := List.mem_map.1 hd
        exact htest t ht hvd

/-- The clauses for a group tie the variables of its patterns to the query. -/
theorem re_mem_bound_matchClauses {ignoreCase : Bool} {n : Naming} {field : Var} {g : Group}
    {t : PatternTest} (ht : t ∈ number n 0 g.conditions) :
    t.re ∈ (matchClauses ignoreCase n field g).flatMap Clause.bound := by
  have hbound : t.re ∈ (t.binding ignoreCase).bound := by
    simp [PatternTest.binding, Clause.bound]
  refine List.mem_flatMap.2 ⟨t.binding ignoreCase, ?_, hbound⟩
  unfold matchClauses
  dsimp only
  split
  · exact List.mem_flatMap.2 ⟨t, ht, by simp⟩
  · exact List.mem_append_left _ (List.mem_map.2 ⟨t, ht, rfl⟩)

end OutlineQuery
