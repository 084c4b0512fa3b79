import OutlineQuery.Proofs.Request.Meaning

/-!
What resolution gives: no group is without a condition, no group set without a group, and the number
of conditions is within the limit. What it reports is always about the request.
-/
namespace OutlineQuery

/-- There is a group, and in every group a condition. -/
structure GroupSet.Filled (s : GroupSet) : Prop where
  groups_ne_nil : s.groups ≠ []
  conditions_ne_nil : ∀ g ∈ s.groups, g.conditions ≠ []

/-- What there is to report about a request as it is written. -/
def Request.codes : List DiagnosticCode :=
  [.emptyValue, .unknownKind, .emptyGroup, .suspectPattern]

/-- Nothing is reported but what is written in the request. -/
def Request.Reported (notes : List Diagnostic) : Prop :=
  ∀ d ∈ notes, d.code ∈ codes

/-- What a diagnostic is about and how much it matters, without its text. -/
def Diagnostic.tag (d : Diagnostic) : Severity × DiagnosticCode :=
  (d.severity, d.code)

namespace ConditionSpec

def reports (c : ConditionSpec) : List DiagnosticCode :=
  if Text.isBlankText c.value then [.emptyValue]
  else
    c.unknownKind?.toList.map (fun _ => .unknownKind) ++
      c.unknownMode?.toList.map (fun _ => .unknownKind) ++
      if c.isSuspect then [.suspectPattern] else []

/-- The notes of a condition are warnings, with the codes that it reports and in their order. -/
theorem map_tag_notes (place : String) (c : ConditionSpec) :
    (c.notes place).map Diagnostic.tag = c.reports.map (Prod.mk .warning) := by
  unfold notes reports
  split
  · rfl
  · simp only [List.map_append, List.map_map]
    split <;> rfl

theorem reports_subset (c : ConditionSpec) : ∀ code ∈ c.reports, code ∈ Request.codes := by
  unfold reports
  split
  · decide
  · intro code hcode
    have hcode : code = .unknownKind ∨ code = .suspectPattern := by grind
    rcases hcode with rfl | rfl <;> decide

end ConditionSpec

namespace GroupSpec

def reports (g : GroupSpec) : List DiagnosticCode :=
  g.conditions.flatMap ConditionSpec.reports ++ if g.isUsable then [] else [.emptyGroup]

/-- A group is noted after its conditions. -/
theorem map_tag_notes (place : String) (g : GroupSpec) :
    (g.notes place).map Diagnostic.tag = g.reports.map (Prod.mk .warning) := by
  have hconditions : g.conditions.flatMap (fun c => c.reports.map (Prod.mk Severity.warning)) =
      g.conditions.zipIdx.flatMap fun c => c.1.reports.map (Prod.mk Severity.warning) := by
    conv_lhs => rw [← List.zipIdx_map_fst 0 g.conditions, List.flatMap_map]
  simp only [notes, reports, List.map_append, List.map_flatMap, ConditionSpec.map_tag_notes,
    hconditions]
  split <;> rfl

theorem reports_subset (g : GroupSpec) : ∀ code ∈ g.reports, code ∈ Request.codes := by
  refine List.forall_mem_append.2 ⟨?_, ?_⟩
  · intro code hcode
    obtain ⟨c, -, hc⟩ := List.mem_flatMap.1 hcode
    exact c.reports_subset code hc
  · split <;> decide

end GroupSpec

namespace BodySpec

variable {b : BodySpec}

theorem map_tag_notes (place : String) (b : BodySpec) :
    (b.notes place).map Diagnostic.tag =
      (b.groupSpecs.flatMap GroupSpec.reports).map (Prod.mk .warning) := by
  simp only [notes, List.map_flatMap, GroupSpec.map_tag_notes, ← map_snd_sites place b,
    List.flatMap_map]

/-- A body that is accepted has a condition in each of its groups. -/
theorem Acceptable.filled_meant (hb : b.Acceptable) : b.meant.Filled := by
  refine ⟨fun hnone => b.meant_groups_eq_nil_iff.1 hnone hb.usable, ?_⟩
  intro g hg
  obtain ⟨spec, hspec, rfl⟩ := List.mem_map.1 hg
  have husable : spec.isUsable = true := (List.mem_filter.1 hspec).2
  simpa [GroupSpec.meant, husable] using spec.isEmpty_usable

end BodySpec

namespace Request

variable {r : Request}

/-- All that is noted when a request is resolved are warnings, whichever side they come from. -/
theorem map_tag_notes (r : Request) : r.notes.map Diagnostic.tag =
    (r.groupSpecs.flatMap GroupSpec.reports).map (Prod.mk .warning) := by
  simp only [notes, groupSpecs, List.map_flatMap, BodySpec.map_tag_notes, List.flatMap_assoc]

theorem map_code_notes (r : Request) :
    r.notes.map (·.code) = r.groupSpecs.flatMap GroupSpec.reports := by
  have htags := congrArg (List.map Prod.snd) r.map_tag_notes
  rw [List.map_map, List.map_map] at htags
  exact htags.trans (List.map_id _)

theorem reported_notes (r : Request) : Reported r.notes := by
  intro d hd
  have hcode : d.code ∈ r.notes.map (·.code) := List.mem_map_of_mem hd
  rw [map_code_notes] at hcode
  obtain ⟨g, -, hg⟩ := List.mem_flatMap.1 hcode
  exact g.reports_subset d.code hg

theorem resolveBody_filled {e : Entity} {n : Noted Search.Body} (h : r.resolveBody e = .ok n) :
    (∀ set ∈ n.value.sets, set.Filled) ∧ Reported n.notes := by
  obtain ⟨-, hsides, hbody, hnotes⟩ := resolveBody_eq_ok_iff.1 h
  rw [sets_of_bodyMeant? hbody, hnotes]
  refine ⟨?_, r.reported_notes⟩
  intro set hset
  obtain ⟨side, hside, rfl⟩ := List.mem_map.1 hset
  exact (hsides side hside).filled_meant

/-- A request is resolved step by step: version, entity, body, and number of conditions. -/
theorem resolve_eq_ok_iff {config : Config} {search : Noted Search} :
    r.resolve config = .ok search ↔
      r.version = 1 ∧ ∃ entity body, resolveEntity r.entity = .ok entity ∧
        r.resolveBody entity = .ok body ∧ body.value.conditionCount ≤ config.maxConditions ∧
        search = ⟨⟨entity, body.value, r.scope.getD .everything⟩, body.notes⟩ := by
  unfold resolve
  by_cases hversion : r.version = 1
  · simp only [hversion, ne_eq, not_true_eq_false, if_false, true_and, except_bind_eq_ok_iff]
    refine exists_congr fun entity => ?_
    simp only [← exists_and_left]
    refine exists_congr fun body => ?_
    by_cases hcount : config.maxConditions < body.value.conditionCount
    · simp [hcount, Nat.not_le.2 hcount]
    · simp [hcount, Nat.le_of_not_lt hcount, pure, Except.pure, eq_comm]
  · simp [hversion]

/-- A request that is resolved means what is written in it, and reports all that it has to. -/
theorem eq_meant_of_resolve {config : Config} {search : Noted Search}
    (h : r.resolve config = .ok search) :
    r.bodyMeant? = some search.value.body ∧ search.notes = r.notes := by
  obtain ⟨-, entity, body, -, hbody, -, rfl⟩ := resolve_eq_ok_iff.1 h
  exact (resolveBody_eq_ok_iff.1 hbody).2.2

end Request

end OutlineQuery
