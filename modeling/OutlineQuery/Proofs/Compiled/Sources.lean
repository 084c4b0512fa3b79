import OutlineQuery.Proofs.Expansion.Shape
import OutlineQuery.Proofs.Group.Accounting
import OutlineQuery.Proofs.Plan.Sources
import OutlineQuery.Proofs.Request.Compilation

/-!
The patterns of a compiled request and the conditions that each comes from. The switch that makes a
pattern ignore case is added as the settings say, and never to a raw pattern, except where
conditions were merged: there it is always added.
-/
namespace OutlineQuery

namespace Compiled

/-- The patterns of a compiled search have these origins, which take up some conditions; and the
merges that are reported are those among them. -/
structure Arises (c : Compiled) (ignoreCase : Bool) (origins : List Origin) (cs : List Condition) :
    Prop where
  sources_eq : c.query.sources = origins.map (Origin.source ignoreCase)
  merges_eq : c.merges = origins.countP Origin.isMerged
  members_perm : (origins.flatMap Origin.members).Perm cs

variable {config : Config} {s : Search} {c : Compiled}

/-- Every pattern of a compiled search has an origin, and the origins take up every condition
once. -/
theorem exists_arises_of_ofSearch (h : ofSearch config s = .ok c) :
    ∃ origins, c.Arises config.caseInsensitive origins s.body.conditions := by
  obtain ⟨e, body, scope⟩ := s
  cases body with
  | groups set =>
    obtain ⟨-, group, hgroup, rfl⟩ := ofSearch_groups_eq_ok_iff.1 h
    obtain ⟨origins, harises⟩ := GroupSet.exists_arises_of_collapse (collapse_eq_ok_iff.1 hgroup).1
    refine ⟨origins, ?_, harises.merges_eq, harises.members_perm⟩
    show (Plan.select _ _ _ _).query.sources = _
    rw [Plan.sources_select, harises.conditions_eq, List.map_map]
    rfl
  | hierarchy r =>
    obtain ⟨-, left, right, hleft, hright, rfl⟩ := ofSearch_hierarchy_eq_ok_iff.1 h
    obtain ⟨ls, hls⟩ := GroupSet.exists_arises_of_collapse (collapse_eq_ok_iff.1 hleft).1
    obtain ⟨rs, hrs⟩ := GroupSet.exists_arises_of_collapse (collapse_eq_ok_iff.1 hright).1
    refine ⟨ls ++ rs, ?_, ?_, ?_⟩
    · show (Plan.relate _ _ _ _ _).query.sources = _
      rw [Plan.sources_relate, hls.conditions_eq, hrs.conditions_eq, ← List.map_append,
        List.map_map]
      rfl
    · rw [List.countP_append, ← hls.merges_eq, ← hrs.merges_eq]
      rfl
    · rw [List.flatMap_append]
      exact hls.members_perm.append hrs.members_perm

end Compiled

namespace Request

variable {config : Config} {r : Request} {c : Compiled}

/-- A request is compiled by compiling what it is resolved to, with the earlier notes in front. -/
theorem compile_eq_ok_iff : r.compile config = .ok c ↔
    ∃ search compiled, r.resolve config = .ok search ∧
      Compiled.ofSearch config search.value = .ok compiled ∧
      c = compiled.withEarlier search.notes := by
  unfold compile
  simp only [except_bind_eq_ok_iff, pure, Except.pure, Except.ok.injEq, eq_comm (a := c),
    ← exists_and_left]

/-- Every pattern of a compiled request has an origin among the conditions it is resolved to. -/
theorem exists_arises_of_compile (h : r.compile config = .ok c) :
    ∃ search origins, r.resolve config = .ok search ∧
      c.Arises config.caseInsensitive origins search.value.body.conditions := by
  obtain ⟨search, compiled, hsearch, hcompiled, rfl⟩ := compile_eq_ok_iff.1 h
  obtain ⟨origins, harises⟩ := Compiled.exists_arises_of_ofSearch hcompiled
  exact ⟨search, origins, hsearch, harises.sources_eq, harises.merges_eq, harises.members_perm⟩

/-- The patterns of a compiled request come from its conditions, all of them and each once. A raw
pattern that stands alone is used as it is. The switch for case is added only where the settings ask
for it and no condition is a raw pattern, with one exception: it is added to every merged pattern,
so it is there against the settings, or for raw patterns, if such conditions were merged. -/
theorem switches_of_compile (config : Config) (r : Request) (c : Compiled)
    (h : r.compile config = .ok c) :
    ∃ (search : Noted Search) (origins : List Origin), r.resolve config = .ok search ∧
      c.query.sources = origins.map (fun o =>
        (if o.addsSwitch config.caseInsensitive then Pattern.ignoreCase else "") ++ o.body) ∧
      (origins.flatMap Origin.members).Perm search.value.body.conditions ∧
      c.merges = origins.countP Origin.isMerged ∧
      ∀ o ∈ origins,
        (∀ d, o = .single d → d.isRaw = true →
          o.addsSwitch config.caseInsensitive = false ∧ o.body = d.value) ∧
        (o.SwitchAllowed config.caseInsensitive ↔
          (o.isMerged = true →
            config.caseInsensitive = true ∧ ∀ d ∈ o.members, d.isRaw = false)) := by
  obtain ⟨search, origins, hsearch, harises⟩ := exists_arises_of_compile h
  refine ⟨search, origins, hsearch, ?_, harises.members_perm, harises.merges_eq, ?_⟩
  · rw [harises.sources_eq]
    exact List.map_congr_left fun o _ => o.source_eq config.caseInsensitive
  · intro o _
    refine ⟨?_, o.switchAllowed_iff⟩
    rintro d rfl hraw
    simp [Origin.addsSwitch, Origin.body, Condition.fragment, hraw]

def rawFor (value : String) : ConditionSpec :=
  ⟨some "regex", value, none, false, none, none⟩

def anyOf (conditions : List ConditionSpec) : Request :=
  ⟨1, none, ⟨some conditions, some "or", none, none⟩, none, none⟩

/-- Settings under which alternatives are merged. -/
def merging (caseInsensitive : Bool) : Config :=
  { Config.default with caseInsensitive, mergePlainOr := true }

theorem switches_of_compile_merging :
    ∃ c, (anyOf [writtenFor "AI" false, writtenFor "ML" false]).compile (merging false) = .ok c ∧
      ∃ o : Origin, o.isMerged = true ∧ ¬o.SwitchAllowed false ∧
        Pattern.ignoreCase ++ o.body ∈ c.query.sources := by
  have hcompile : ∃ c, (anyOf [writtenFor "AI" false, writtenFor "ML" false]).compile
      (merging false) = .ok c ∧ c.merges = 1 := ⟨_, rfl, rfl⟩
  obtain ⟨c, hc, hmerges⟩ := hcompile
  obtain ⟨search, origins, -, hsources, -, hcount, hswitch⟩ := switches_of_compile _ _ c hc
  have hpos : 0 < origins.countP Origin.isMerged := by omega
  obtain ⟨o, ho, hmerged⟩ := List.countP_pos_iff.1 hpos
  have hbarred : ¬o.SwitchAllowed false := by
    intro hallowed
    exact absurd ((hswitch o ho).2.1 hallowed hmerged).1 (by decide)
  refine ⟨c, hc, o, hmerged, hbarred, ?_⟩
  have hadds : o.addsSwitch (merging false).caseInsensitive = true := by
    by_contra hnot
    exact hbarred fun hadds => absurd hadds hnot
  rw [hsources, List.mem_map]
  exact ⟨o, ho, by rw [if_pos hadds]⟩

/-- The switch is added where the settings turn it off, and to two raw patterns. -/
theorem switch_added_by_merging :
    ((anyOf [writtenFor "AI" false, writtenFor "ML" false]).compile (merging false)).map
        (·.query.sources) = .ok ["(?i)(?:.*AI.*)|(?:.*ML.*)"] ∧
      ((anyOf [rawFor "AI", rawFor "ML"]).compile (merging true)).map (·.query.sources) =
        .ok ["(?i)(?:AI)|(?:ML)"] := by
  constructor <;> rfl

end Request

end OutlineQuery
