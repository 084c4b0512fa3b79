import OutlineQuery.Proofs.Compiled.Inversion
import OutlineQuery.Proofs.Plan.Scoping

/-!
Every compiled search is well scoped.
-/
namespace OutlineQuery.Compiled

/-- Reading the clauses of a compiled search in order, every variable is bound before it is used,
and the result of a call has no other source. Every result is bound and labelled, every rule that is
called is there, and there are rules only if one is called. -/
theorem wellScoped_of_ofSearch (config : Config) (s : Search) (c : Compiled)
    (hc : ofSearch config s = .ok c) : c.query.WellScoped c.columns := by
  obtain ⟨e, body, scope⟩ := s
  cases body with
  | groups set =>
    obtain ⟨-, group, -, rfl⟩ := ofSearch_groups_eq_ok_iff.1 hc
    exact Plan.wellScoped_select config e group.group scope
  | hierarchy r =>
    obtain ⟨-, left, right, -, -, rfl⟩ := ofSearch_hierarchy_eq_ok_iff.1 hc
    exact Plan.wellScoped_relate config left.group r.operator right.group scope

/-- A hierarchy that calls a rule in both branches of a disjunction, with a scope for every part of
the left side. -/
theorem wellScoped_of_ofSearch_letterRelation :
    let s : Search := ⟨.block, .hierarchy letterRelation, ⟨["x", " y"], ["z"], true⟩⟩
    ∃ c, ofSearch .default s = .ok c ∧ c.query.WellScoped c.columns := by
  intro s
  have hok : ∃ c, ofSearch .default s = .ok c := ⟨_, rfl⟩
  obtain ⟨c, hc⟩ := hok
  exact ⟨c, hc, wellScoped_of_ofSearch .default s c hc⟩

end OutlineQuery.Compiled
