import OutlineQuery.Proofs.Compiled.Noninterference

/-!
What compiling a search gives beside its query is a matter of the search's shape: the error, or the
columns, the tier and how much was merged.
-/
namespace OutlineQuery.Compiled

variable {config : Config}

/-- How often conditions are merged depends on the shape only. -/
theorem merges_eq_of_shape {set set' : GroupSet} (h : set.shape = set'.shape) {place : String}
    {c c' : Collapsed} (hc : collapse config place set = .ok c)
    (hc' : collapse config place set' = .ok c') : c.merges = c'.merges := by
  have hcollapse := GroupSet.collapse_shape_eq config.mergePlainOr h
  rw [(collapse_eq_ok_iff.1 hc).1, (collapse_eq_ok_iff.1 hc').1] at hcollapse
  exact congrArg Prod.snd (Except.ok.inj hcollapse)

/-- Two compiled searches that differ in their queries and what is reported about them only. -/
structure SameFrame (c c' : Compiled) : Prop where
  columns : c.columns = c'.columns
  tier : c.tier = c'.tier
  merges : c.merges = c'.merges

/-- Searches for one entity, of one shape, fail with one error, or both compile. The scope has no
part in this. -/
theorem ofSearch_cases (config : Config) {s s' : Search} (hentity : s.entity = s'.entity)
    (hbody : s.body.SameShape s'.body) :
    (∃ e, ofSearch config s = .error e ∧ ofSearch config s' = .error e) ∨
      ∃ c c', ofSearch config s = .ok c ∧ ofSearch config s' = .ok c' ∧ c.SameFrame c' := by
  obtain ⟨e, body, scope⟩ := s
  obtain ⟨e', body', scope'⟩ := s'
  obtain rfl : e = e' := hentity
  have hcount : body.conditionCount = body'.conditionCount := conditionCount_eq hbody
  -- Every decision on the way reads shapes: the count, then each side, the left one first.
  simp only [ofSearch, hcount]
  split
  · exact .inl ⟨_, rfl, rfl⟩
  · cases hbody with
    | groups hset =>
      rcases collapse_cases hset config "" with ⟨e, herr, herr'⟩ | ⟨c, c', hok, hok', -⟩
      · simp only [ofBody, herr, herr']
        exact .inl ⟨_, rfl, rfl⟩
      · have htier := GroupSet.tier_eq_of_shape hset
        have hmerges := merges_eq_of_shape hset hok hok'
        simp only [ofBody, hok, hok']
        exact .inr ⟨_, _, rfl, rfl, rfl, htier, hmerges⟩
    | hierarchy operator hleft hright =>
      rcases collapse_cases hleft config "hierarchy.left" with
        ⟨e, herr, herr'⟩ | ⟨l, l', hl, hl', -⟩
      · simp only [ofBody, herr, herr']
        exact .inl ⟨_, rfl, rfl⟩
      · rcases collapse_cases hright config "hierarchy.right" with
          ⟨e, herr, herr'⟩ | ⟨r, r', hr, hr', -⟩
        · simp only [ofBody, hl, hl', herr, herr']
          exact .inl ⟨_, rfl, rfl⟩
        · have htier := congrArg₂ Tier.worst (GroupSet.tier_eq_of_shape hleft)
            (GroupSet.tier_eq_of_shape hright)
          have hmerges := congrArg₂ (· + ·) (merges_eq_of_shape hleft hl hl')
            (merges_eq_of_shape hright hr hr')
          simp only [ofBody, hl, hl', hr, hr']
          exact .inr ⟨_, _, rfl, rfl, rfl, htier, hmerges⟩

end OutlineQuery.Compiled
