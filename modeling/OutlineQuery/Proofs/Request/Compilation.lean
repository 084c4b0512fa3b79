import OutlineQuery.Proofs.Compiled.Inversion
import OutlineQuery.Proofs.Group.Accounting
import OutlineQuery.Proofs.Request.Resolution
import OutlineQuery.Request.Compilation

/-!
How compiling a request can fail once it is resolved: only because a group set has the highest tier,
which its tiers tell beforehand.
-/
namespace OutlineQuery

/-- Collapsing takes up every condition, so it does not lose all of them. -/
theorem GroupSet.Filled.collapse_conditions_ne_nil {s : GroupSet} (h : s.Filled) {mergePlain : Bool}
    {c : Collapsed} (hc : s.collapse mergePlain = .ok c) : c.group.conditions ≠ [] := by
  obtain ⟨origins, harises⟩ := exists_arises_of_collapse hc
  have hsome : s.conditions ≠ [] :=
    GroupSet.conditions_ne_nil h.groups_ne_nil h.conditions_ne_nil
  rw [harises.conditions_eq]
  intro hnone
  obtain rfl := List.map_eq_nil_iff.1 hnone
  exact hsome (List.nil_perm.1 harises.members_perm)

theorem Search.Body.tiers_eq_map (b : Search.Body) : b.tiers.map Prod.snd = b.sets.map (·.tier) := by
  cases b <;> rfl

theorem Tier.number_le_worst (a b : Tier) :
    a.number ≤ (a.worst b).number ∧ b.number ≤ (a.worst b).number := by
  unfold worst
  split <;> omega

theorem Tier.worst_eq_or (a b : Tier) : a.worst b = a ∨ a.worst b = b := by
  unfold worst
  split
  · exact .inl rfl
  · exact .inr rfl

namespace Plan

/-- All that injecting a scope can report is that there is no place for it. -/
theorem notes_inject {q : Datalog.Query} {target : Scope.Target} {scope : Scope} {d : Diagnostic}
    (hd : d ∈ (Scope.inject q target scope).notes) : d.code = .injectionTargetNotFound := by
  unfold Scope.inject at hd
  split at hd
  · cases hd
  · dsimp only at hd
    unfold Scope.restrictBlock at hd
    split at hd
    · cases hd
    · dsimp only at hd
      split at hd
      · cases hd
      · obtain rfl := List.mem_singleton.1 hd
        rfl

end Plan

namespace Compiled

variable {config : Config} {s : Search}

/-- A set of the highest tier is refused, with what stands in its way. -/
theorem collapse_orDominant {set : GroupSet} (h : set.tier = .orDominant) (place : String) :
    collapse config place set = .error (.unsupportedShape .orDominant set.obstacle) := by
  simp [collapse, GroupSet.collapse, h]

/-- A set of a lower tier, without empty groups, can be collapsed. -/
theorem exists_collapse_of_filled (config : Config) (place : String) {set : GroupSet}
    (hfilled : set.Filled) (h : set.tier ≠ .orDominant) :
    ∃ c, collapse config place set = .ok c := by
  have hok : ∃ c, set.collapse config.mergePlainOr = .ok c := GroupSet.exists_collapse_iff.2 h
  obtain ⟨c, hc⟩ := hok
  exact ⟨c, collapse_eq_ok_iff.2 ⟨hc, hfilled.collapse_conditions_ne_nil hc⟩⟩

/-- A search with something to test everywhere, and not too much, compiles unless it has a group set
of the highest tier. -/
theorem exists_ofSearch_of_filled (hcount : s.body.conditionCount ≤ config.maxConditions)
    (hfilled : ∀ set ∈ s.body.sets, set.Filled) (htier : ∀ set ∈ s.body.sets, set.tier ≠ .orDominant) :
    ∃ c, ofSearch config s = .ok c := by
  obtain ⟨e, body, scope⟩ := s
  cases body with
  | groups set =>
    have hset : set ∈ (Search.Body.groups set).sets := by simp [Search.Body.sets]
    obtain ⟨group, hgroup⟩ := exists_collapse_of_filled config "" (hfilled set hset) (htier set hset)
    exact ⟨_, ofSearch_groups_eq_ok_iff.2 ⟨hcount, group, hgroup, rfl⟩⟩
  | hierarchy r =>
    have hl : r.left ∈ (Search.Body.hierarchy r).sets := by simp [Search.Body.sets]
    have hr : r.right ∈ (Search.Body.hierarchy r).sets := by simp [Search.Body.sets]
    obtain ⟨left, hleft⟩ :=
      exists_collapse_of_filled config "hierarchy.left" (hfilled _ hl) (htier _ hl)
    obtain ⟨right, hright⟩ :=
      exists_collapse_of_filled config "hierarchy.right" (hfilled _ hr) (htier _ hr)
    exact ⟨_, ofSearch_hierarchy_eq_ok_iff.2 ⟨hcount, left, right, hleft, hright, rfl⟩⟩

/-- With a group set of the highest tier there is no query, and that is the reason. The left side is
looked at first, but fails only for the same reason. -/
theorem ofSearch_of_orDominant (hcount : s.body.conditionCount ≤ config.maxConditions)
    (hfilled : ∀ set ∈ s.body.sets, set.Filled) (htier : ∃ set ∈ s.body.sets, set.tier = .orDominant) :
    ∃ obstacle, ofSearch config s = .error (.unsupportedShape .orDominant obstacle) := by
  obtain ⟨e, body, scope⟩ := s
  have hbody : ofSearch config ⟨e, body, scope⟩ = ofBody config e scope body := by
    simp [ofSearch, Nat.not_lt.2 hcount]
  rw [hbody]
  cases body with
  | groups set =>
    have hset : set.tier = .orDominant := by simpa [Search.Body.sets] using htier
    simp only [ofBody, collapse_orDominant hset]
    exact ⟨_, rfl⟩
  | hierarchy r =>
    by_cases hleft : r.left.tier = .orDominant
    · simp only [ofBody, collapse_orDominant hleft]
      exact ⟨_, rfl⟩
    · -- The left side collapses, so compiling gets to the right one and fails there.
      have hright : r.right.tier = .orDominant := by
        simpa [Search.Body.sets, hleft] using htier
      obtain ⟨left, hok⟩ := exists_collapse_of_filled config "hierarchy.left"
        (hfilled r.left (by simp [Search.Body.sets])) hleft
      simp only [ofBody, hok, collapse_orDominant hright]
      exact ⟨_, rfl⟩

/-- A compiled search has the highest of the tiers of its group sets. -/
theorem tier_of_ofSearch {c : Compiled} (hc : ofSearch config s = .ok c) :
    c.tier ∈ s.body.tiers.map Prod.snd ∧
      ∀ t ∈ s.body.tiers.map Prod.snd, t.number ≤ c.tier.number := by
  obtain ⟨e, body, scope⟩ := s
  cases body with
  | groups set =>
    obtain ⟨-, group, -, rfl⟩ := ofSearch_groups_eq_ok_iff.1 hc
    simp [Search.Body.tiers, ofPlan]
  | hierarchy r =>
    obtain ⟨-, left, right, -, -, rfl⟩ := ofSearch_hierarchy_eq_ok_iff.1 hc
    have hor := Tier.worst_eq_or r.left.tier r.right.tier
    have hle := Tier.number_le_worst r.left.tier r.right.tier
    simpa [Search.Body.tiers, ofPlan] using ⟨hor, hle⟩

/-- Planning reports nothing but identifiers that it could not use. -/
theorem exists_notes_of_ofSearch {c : Compiled} (hc : ofSearch config s = .ok c) :
    ∃ notes, c.diagnostics = notes ++ mergeNotes c.merges ∧
      ∀ d ∈ notes, d.code = .injectionTargetNotFound := by
  obtain ⟨e, body, scope⟩ := s
  cases body with
  | groups set =>
    obtain ⟨-, group, -, rfl⟩ := ofSearch_groups_eq_ok_iff.1 hc
    exact ⟨_, rfl, fun d hd => Plan.notes_inject hd⟩
  | hierarchy r =>
    obtain ⟨-, left, right, -, -, rfl⟩ := ofSearch_hierarchy_eq_ok_iff.1 hc
    exact ⟨_, rfl, fun d hd => Plan.notes_inject hd⟩

/-- Merging is noted only where something was merged. -/
theorem code_of_mem_mergeNotes {merges : Nat} {d : Diagnostic} (hd : d ∈ mergeNotes merges) :
    0 < merges ∧ ∃ message, d = .note .disjunctionMerged message := by
  unfold mergeNotes at hd
  split at hd
  · cases hd
  · exact ⟨by omega, _, List.mem_singleton.1 hd⟩

theorem mergeNotes_ne_nil {merges : Nat} (h : 0 < merges) :
    ∃ message, .note .disjunctionMerged message ∈ mergeNotes merges := by
  simp [mergeNotes, Nat.ne_of_gt h]

/-- Merging is reported exactly if something was merged, whatever else was reported before. -/
theorem reports_merge_iff {c : Compiled} (hc : ofSearch config s = .ok c)
    {earlier : List Diagnostic} (hearlier : ∀ d ∈ earlier, d.code ≠ .disjunctionMerged) :
    (∃ d ∈ earlier ++ c.diagnostics, d.code = .disjunctionMerged) ↔ 0 < c.merges := by
  obtain ⟨notes, hnotes, hcodes⟩ := exists_notes_of_ofSearch hc
  rw [hnotes]
  constructor
  · rintro ⟨d, hd, hcode⟩
    rcases List.mem_append.1 hd with hd | hd
    · exact absurd hcode (hearlier d hd)
    · rcases List.mem_append.1 hd with hd | hd
      · rw [hcodes d hd] at hcode
        cases hcode
      · exact (code_of_mem_mergeNotes hd).1
  · intro hmerges
    obtain ⟨message, hmem⟩ := mergeNotes_ne_nil hmerges
    exact ⟨_, List.mem_append_right _ (List.mem_append_right _ hmem), rfl⟩

end Compiled

namespace Request

/-- A request that is resolved compiles unless it has a group set of the highest tier, which is then
the reason that is given. The compiled search has the highest tier there is; its reports come after
those of resolution, and one of them is about merging exactly if something was merged. -/
theorem compile_of_resolve (config : Config) (r : Request) (search : Noted Search)
    (h : r.resolve config = .ok search) :
    let tiers := search.value.body.tiers.map Prod.snd
    (∀ e, Compiled.ofSearch config search.value = .error e →
      (∃ obstacle, e = .unsupportedShape .orDominant obstacle) ∧ r.compile config = .error e) ∧
    ((∃ tier obstacle,
        Compiled.ofSearch config search.value = .error (.unsupportedShape tier obstacle)) ↔
      .orDominant ∈ tiers) ∧
    (.orDominant ∉ tiers → ∃ c, Compiled.ofSearch config search.value = .ok c ∧
      (c.tier ∈ tiers ∧ ∀ t ∈ tiers, t.number ≤ c.tier.number) ∧
      r.compile config = .ok { c with diagnostics := search.notes ++ c.diagnostics } ∧
      ((∃ message, .note .disjunctionMerged message ∈ c.diagnostics) ↔ 0 < c.merges) ∧
      ((∃ d ∈ search.notes ++ c.diagnostics, d.code = .disjunctionMerged) ↔ 0 < c.merges)) := by
  intro tiers
  have htiers : tiers = search.value.body.sets.map (·.tier) := search.value.body.tiers_eq_map
  obtain ⟨-, entity, body, -, hbody, hcount, rfl⟩ := resolve_eq_ok_iff.1 h
  obtain ⟨hfilled, hreported⟩ := resolveBody_filled hbody
  have hcompile : r.compile config = (Compiled.ofSearch config
      ⟨entity, body.value, r.scope.getD .everything⟩).map (·.withEarlier body.notes) := by
    simp only [compile, h]
    rfl
  -- Resolution has codes of its own, and merging is none of them.
  have hearlier : ∀ d ∈ body.notes, d.code ≠ .disjunctionMerged := by
    intro d hd hcode
    have hmem := hreported d hd
    rw [hcode] at hmem
    exact absurd hmem (by decide)
  -- A resolved search is filled and not too large, so its tiers alone decide.
  by_cases htier : ∃ set ∈ body.value.sets, set.tier = .orDominant
  · have hlisted : .orDominant ∈ tiers := by
      rw [htiers]
      exact List.mem_map.2 htier
    obtain ⟨obstacle, herror⟩ := Compiled.ofSearch_of_orDominant
      (s := ⟨entity, body.value, r.scope.getD .everything⟩) hcount hfilled htier
    refine ⟨?_, ?_, fun hnot => absurd hlisted hnot⟩
    · intro e he
      obtain rfl := Except.error.inj (herror.symm.trans he)
      exact ⟨⟨obstacle, rfl⟩, by rw [hcompile, herror]; rfl⟩
    · exact iff_of_true ⟨_, obstacle, herror⟩ hlisted
  · have hnot : .orDominant ∉ tiers := by
      rw [htiers]
      exact fun hmem => htier (List.mem_map.1 hmem)
    obtain ⟨c, hc⟩ := Compiled.exists_ofSearch_of_filled
      (s := ⟨entity, body.value, r.scope.getD .everything⟩) hcount hfilled
      (fun set hset hdominant => htier ⟨set, hset, hdominant⟩)
    refine ⟨?_, ?_, fun _ => ⟨c, hc, Compiled.tier_of_ofSearch hc, ?_, ?_,
      Compiled.reports_merge_iff hc hearlier⟩⟩
    · intro e he
      rw [hc] at he
      cases he
    · refine iff_of_false ?_ hnot
      rintro ⟨tier, obstacle, herror⟩
      rw [hc] at herror
      cases herror
    · rw [hcompile, hc]
      rfl
    · -- Without earlier reports it is the same statement about the reports of the search alone.
      have hiff := Compiled.reports_merge_iff hc (List.forall_mem_nil _)
      constructor
      · rintro ⟨message, hmem⟩
        exact hiff.1 ⟨_, hmem, rfl⟩
      · intro hmerges
        obtain ⟨notes, hnotes, -⟩ := Compiled.exists_notes_of_ofSearch hc
        obtain ⟨message, hmem⟩ := Compiled.mergeNotes_ne_nil hmerges
        exact ⟨message, hnotes ▸ List.mem_append_right _ hmem⟩

/-- A condition as written, of no kind and no mode. -/
def writtenFor (value : String) (negated : Bool) : ConditionSpec :=
  ⟨none, value, none, negated, none, none⟩

def letterGroup : GroupSpec :=
  ⟨[writtenFor "a" false, writtenFor "b" false, writtenFor "c" true], some "any"⟩

/-- A hierarchy as written. The left side loses a group that says nothing, and with it the choice
between groups that it asks for; the right side has two groups that must both hold. -/
def letterRequest : Request where
  version := 1
  entity := some "Blocks"
  body := ⟨none, none, none, none⟩
  hierarchy := some
    { left := ⟨none, none, some [letterGroup, ⟨[writtenFor " " false], none⟩], some "or"⟩
      operator := "Child-Of"
      right := ⟨none, none,
        some [⟨[writtenFor "d" false], none⟩, ⟨[writtenFor "e" true], none⟩], none⟩ }
  scope := none

/-- The same left group beside one that says something: a choice that cannot be asked for. -/
def choiceRequest : Request :=
  { letterRequest with
    body := ⟨none, none, some [letterGroup, ⟨[writtenFor "d" false], none⟩], some "or"⟩
    hierarchy := none }

theorem compile_of_resolve_letterRequest :
    (∃ search c, letterRequest.resolve .default = .ok search ∧
      letterRequest.compile .default = .ok c ∧ c.tier = .andDominant ∧ 0 < c.merges ∧
      ∃ d ∈ c.diagnostics, d.code = .disjunctionMerged) ∧
    ∃ search obstacle, choiceRequest.resolve .default = .ok search ∧
      choiceRequest.compile .default = .error (.unsupportedShape .orDominant obstacle) := by
  constructor
  · have hresolve : ∃ search, letterRequest.resolve .default = .ok search ∧
        search.value.body.tiers.map Prod.snd = [.flat, .andDominant] ∧
        ∃ c, Compiled.ofSearch .default search.value = .ok c ∧ c.merges = 1 :=
      ⟨_, rfl, rfl, _, rfl, rfl⟩
    obtain ⟨search, hsearch, htiers, c, hc, hmerges⟩ := hresolve
    obtain ⟨-, -, hok⟩ := compile_of_resolve .default letterRequest search hsearch
    rw [htiers] at hok
    obtain ⟨d, hd, ⟨hmem, hmax⟩, hcompile, -, hreport⟩ := hok (by decide)
    obtain rfl := Except.ok.inj (hc.symm.trans hd)
    have htier : c.tier = .andDominant := by
      rcases List.mem_pair.1 hmem with hflat | htier
      · have hle := hmax .andDominant (by simp)
        rw [hflat] at hle
        exact absurd hle (by decide)
      · exact htier
    have hpos : 0 < c.merges := by omega
    exact ⟨search, _, hsearch, hcompile, htier, hpos, hreport.2 hpos⟩
  · have hresolve : ∃ search, choiceRequest.resolve .default = .ok search ∧
        search.value.body.tiers.map Prod.snd = [.orDominant] := ⟨_, rfl, rfl⟩
    obtain ⟨search, hsearch, htiers⟩ := hresolve
    obtain ⟨herror, hiff, -⟩ := compile_of_resolve .default choiceRequest search hsearch
    rw [htiers] at hiff
    obtain ⟨tier, obstacle, he⟩ := hiff.2 (by decide)
    obtain ⟨⟨obstacle', hshape⟩, hcompile⟩ := herror _ he
    exact ⟨search, obstacle', hsearch, hshape ▸ hcompile⟩

end Request

end OutlineQuery
