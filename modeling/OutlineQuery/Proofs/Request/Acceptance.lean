import OutlineQuery.Proofs.Request.Resolution

/-!
Which requests are resolved, told from the request alone. Names are asked for wherever they decide
something, also in a group that says nothing; a name that decides nothing may be anything.
-/
namespace OutlineQuery

namespace Request

structure Acceptable (config : Config) (r : Request) : Prop where
  version : r.version = 1
  entity : Known Entity.names r.entity
  /-- A hierarchy stands alone and relates blocks by an operator that there is. -/
  hierarchy : ∀ h ∈ r.hierarchy, r.body.conditions = none ∧ r.body.groups = none ∧
    (∀ name ∈ r.entity, Text.canonicalName name ∈ Entity.names .block) ∧
    (Operator.ofString? h.operator).isSome = true
  sides : ∀ side ∈ r.sides, side.2.Acceptable
  count : (ConditionSpec.usable r.conditionSpecs).length ≤ config.maxConditions

variable {config : Config} {r : Request}

/-- Conditions that are left out do not count for the limit. -/
theorem conditionCount_of_bodyMeant? {body : Search.Body} (h : r.bodyMeant? = some body) :
    body.conditionCount = (ConditionSpec.usable r.conditionSpecs).length := by
  rw [body.conditionCount_eq_length, conditions_of_bodyMeant? h, List.length_map]

/-- A hierarchy stands alone, and its entity is the block. -/
theorem alone_iff (hentity : Known Entity.names r.entity) :
    (∀ h ∈ r.hierarchy, r.body.isEmpty = true ∧ Entity.meant r.entity = .block) ↔
      ∀ h ∈ r.hierarchy, r.body.conditions = none ∧ r.body.groups = none ∧
        ∀ name ∈ r.entity, Text.canonicalName name ∈ Entity.names .block := by
  simp only [BodySpec.isEmpty, Bool.and_eq_true, Option.isNone_iff_eq_none,
    Entity.meant_eq_block_iff hentity, and_assoc]

/-- An acceptable request gets through every step. -/
theorem Acceptable.exists_resolve (h : r.Acceptable config) :
    ∃ search, r.resolve config = .ok search := by
  have hoperator := fun spec hspec => (h.hierarchy spec hspec).2.2.2
  obtain ⟨body, hbody⟩ := r.exists_bodyMeant?_iff.2 hoperator
  have halone := (alone_iff h.entity).2 fun spec hspec =>
    ⟨(h.hierarchy spec hspec).1, (h.hierarchy spec hspec).2.1, (h.hierarchy spec hspec).2.2.1⟩
  have hresolved : r.resolveBody (Entity.meant r.entity) = .ok ⟨body, r.notes⟩ :=
    resolveBody_eq_ok_iff.2 ⟨halone, h.sides, hbody, rfl⟩
  have hcount : body.conditionCount ≤ config.maxConditions := by
    rw [conditionCount_of_bodyMeant? hbody]
    exact h.count
  exact ⟨_, resolve_eq_ok_iff.2 ⟨h.version, _, _,
    Entity.resolveEntity_eq_ok_iff.2 ⟨h.entity, rfl⟩, hresolved, hcount, rfl⟩⟩

/-- A request that gets through every step is acceptable. -/
theorem acceptable_of_resolve {search : Noted Search} (h : r.resolve config = .ok search) :
    r.Acceptable config := by
  obtain ⟨hversion, entity, ⟨body, notes⟩, hentity, hbody, hcount, -⟩ := resolve_eq_ok_iff.1 h
  obtain ⟨hknown, rfl⟩ := Entity.resolveEntity_eq_ok_iff.1 hentity
  obtain ⟨halone, hsides, hmeant, -⟩ := resolveBody_eq_ok_iff.1 hbody
  refine ⟨hversion, hknown, ?_, hsides, ?_⟩
  · intro spec hspec
    obtain ⟨hconditions, hgroups, hblock⟩ := (alone_iff hknown).1 halone spec hspec
    exact ⟨hconditions, hgroups, hblock, r.exists_bodyMeant?_iff.1 ⟨body, hmeant⟩ spec hspec⟩
  · rw [← conditionCount_of_bodyMeant? hmeant]
    exact hcount

theorem filled_of_resolve {search : Noted Search} (h : r.resolve config = .ok search) :
    ∀ set ∈ search.value.body.sets, set.Filled := by
  obtain ⟨-, entity, body, -, hbody, -, rfl⟩ := resolve_eq_ok_iff.1 h
  exact (resolveBody_filled hbody).1

theorem value_of_mem_conditions {search : Noted Search} (h : r.resolve config = .ok search)
    {set : GroupSet} (hset : set ∈ search.value.body.sets) {c : Condition}
    (hc : c ∈ set.conditions) : Text.isBlankText c.value = false := by
  have hmem : c ∈ search.value.body.sets.flatMap (·.conditions) :=
    List.mem_flatMap.2 ⟨set, hset, hc⟩
  rw [conditions_of_bodyMeant? (eq_meant_of_resolve h).1] at hmem
  obtain ⟨spec, hspec, rfl⟩ := List.mem_map.1 hmem
  have husable : spec.isUsable = true := (List.mem_filter.1 hspec).2
  have hvalue : Text.isBlankText spec.value = false := by
    simpa [ConditionSpec.isUsable] using husable
  exact hvalue

/-- A request is resolved exactly if it can be accepted, and then every group set has a group, every
group a condition and every condition a value. -/
theorem resolve_ok_iff_acceptable (config : Config) (r : Request) :
    ((∃ search, r.resolve config = .ok search) ↔ r.Acceptable config) ∧
      ∀ search, r.resolve config = .ok search → ∀ set ∈ search.value.body.sets,
        set.groups ≠ [] ∧ ∀ g ∈ set.groups, g.conditions ≠ [] ∧
          ∀ c ∈ g.conditions, Text.isBlankText c.value = false := by
  refine ⟨⟨?_, Acceptable.exists_resolve⟩, ?_⟩
  · rintro ⟨search, h⟩
    exact acceptable_of_resolve h
  · intro search h set hset
    have hfilled : set.Filled := filled_of_resolve h set hset
    refine ⟨hfilled.groups_ne_nil, ?_⟩
    intro g hg
    refine ⟨hfilled.conditions_ne_nil g hg, ?_⟩
    intro c hc
    exact value_of_mem_conditions h hset (List.mem_flatMap.2 ⟨g, hg, hc⟩)

/-- A choice of pages beside a group that says nothing and has the given combinator. The combinator
of a list of conditions decides nothing here. -/
def besideNothing (combinator : Option String) : Request where
  version := 1
  entity := some " Pages"
  body :=
    { conditions := none
      combinator := some "neither"
      groups := some
        [⟨[⟨none, "a", none, false, none, none⟩, ⟨none, "", none, true, none, none⟩], some "ANY"⟩,
          ⟨[⟨some "tag", " ", none, false, none, none⟩], combinator⟩]
      groupCombinator := some "&&" }
  hierarchy := none
  scope := none

theorem resolve_ok_iff_acceptable_besideNothing :
    (∃ search, (besideNothing none).resolve .default = .ok search ∧
      ∀ set ∈ search.value.body.sets, set.groups ≠ [] ∧ ∀ g ∈ set.groups, g.conditions ≠ []) ∧
    ¬∃ search, (besideNothing (some "xor")).resolve .default = .ok search := by
  constructor
  · have hresolve : ∃ search, (besideNothing none).resolve .default = .ok search := ⟨_, rfl⟩
    obtain ⟨search, hsearch⟩ := hresolve
    have hkept := (resolve_ok_iff_acceptable .default (besideNothing none)).2 search hsearch
    refine ⟨search, hsearch, ?_⟩
    intro set hset
    obtain ⟨hgroups, hconditions⟩ := hkept set hset
    exact ⟨hgroups, fun g hg => (hconditions g hg).1⟩
  · rw [(resolve_ok_iff_acceptable .default (besideNothing (some "xor"))).1]
    intro h
    have hside := h.sides _ List.mem_cons_self
    have hknown : Known Combinator.names (some "xor") :=
      hside.known _ (by decide)
    rw [known_some_iff Combinator.ofString?_eq_some_iff] at hknown
    exact absurd hknown (by decide)

end Request

end OutlineQuery
