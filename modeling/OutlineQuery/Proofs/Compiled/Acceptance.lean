import OutlineQuery.Proofs.Compiled.Sources
import OutlineQuery.Proofs.Pattern.Acceptance
import OutlineQuery.Proofs.Request.Patterns

/-!
Which patterns of a compiled request are accepted, if each raw pattern in it is. A pattern that was
not merged is. A merged one is unless two of its parts name a group alike, one nests too deep to
have a group around it, or one ends in a comment: each of these can be the case, and nothing is
reported.
-/
namespace OutlineQuery

open Regex (isValid isAccepted endsInComment groupNames depth nestingLimit caseText)

namespace Condition

variable {c : Condition} {cs : List Condition}

/-- The patterns of some conditions name no group alike, and none is so deep that there is no room
for the group around it, for the bars and, in the first, for the switch. -/
structure FitTogether (cs : List Condition) : Prop where
  names_apart : cs.Pairwise fun a b => ∀ n ∈ groupNames b.fragment, n ∉ groupNames a.fragment
  first_shallow : ∀ c ∈ cs.head?, depth c.fragment + 3 ≤ nestingLimit
  others_shallow : ∀ c ∈ cs.tail, depth c.fragment + 2 ≤ nestingLimit

/-- The switch for case makes no invalid pattern valid. -/
theorem isValid_fragment_of_source {ignoreCase : Bool} (h : isValid (c.source ignoreCase) = true) :
    isValid c.fragment = true := by
  cases hraw : c.isRaw with
  | false => exact isValid_fragment hraw
  | true => simpa [source, hraw] using h

/-- Merging conditions with valid patterns gives a valid one if they fit together. -/
theorem isValid_merged_iff (hmany : 2 ≤ cs.length) (hvalid : ∀ c ∈ cs, isValid c.fragment = true)
    (hcomment : ∀ c ∈ cs, endsInComment c.fragment = false) :
    isValid (Pattern.ignoreCase ++ Pattern.alternation (cs.map fragment)) = true ↔
      FitTogether cs := by
  obtain ⟨c, rest, rfl⟩ := List.exists_cons_of_length_pos (l := cs) (by omega)
  have hne : rest.map fragment ≠ [] := by
    intro hnil
    rw [List.map_eq_nil_iff.1 hnil, List.length_singleton] at hmany
    omega
  have hparts : ∀ q ∈ (c :: rest).map fragment, isValid q = true ∧ endsInComment q = false :=
    List.forall_mem_map.2 fun d hd => ⟨hvalid d hd, hcomment d hd⟩
  have htext : (Pattern.ignoreCase ++ Pattern.alternation ((c :: rest).map fragment)).toList =
      caseText true ++ (Pattern.alternation ((c :: rest).map fragment)).toList :=
    String.toList_append
  rw [Regex.isValid_alternation_iff htext hparts hne, ← List.map_cons, List.pairwise_map,
    List.forall_mem_map]
  constructor
  · rintro ⟨hnames, hfirst, hothers⟩
    exact ⟨hnames, by simpa using hfirst, hothers⟩
  · rintro ⟨hnames, hfirst, hothers⟩
    exact ⟨hnames, by simpa using hfirst, hothers⟩

end Condition

theorem isValid_of_isAccepted {pattern : String} (h : isAccepted pattern = true) :
    isValid pattern = true := by
  unfold isAccepted at h
  unfold isValid
  split at h
  · cases h
  · exact (Bool.and_eq_true_iff.1 h).1

/-- The pattern of a raw condition is its value, and any other is accepted whatever the value is. -/
theorem RawAccepted.isValid_source {cs : List Condition} (h : RawAccepted cs) (ignoreCase : Bool) :
    ∀ c ∈ cs, isValid (c.source ignoreCase) = true := by
  intro c hc
  cases hraw : c.isRaw with
  | false => exact Condition.isValid_source hraw ignoreCase
  | true =>
    have hvalue : c.source ignoreCase = c.value := by
      simp [Condition.source, Condition.fragment, hraw]
    rw [hvalue]
    exact isValid_of_isAccepted (h c hc hraw)

namespace Request

/-- Merging conditions with valid patterns, none of which ends in a comment, gives a valid pattern
exactly if they fit together. So if a request is compiled and no raw pattern in it is reported, any
pattern that is not valid was merged from valid ones, of which one ends in a comment or which do not
fit together. -/
theorem validity_under_merging (config : Config) :
    (∀ cs : List Condition, 2 ≤ cs.length →
      (∀ c ∈ cs, c.negated = false ∧ isValid (c.source config.caseInsensitive) = true) →
      (∀ c ∈ cs, endsInComment c.fragment = false) →
      ∃ merged, Condition.merge? cs = some merged ∧
        (isValid merged.value = true ↔ Condition.FitTogether cs)) ∧
    (∀ (r : Request) (c : Compiled), r.compile config = .ok c →
      (∀ d ∈ c.diagnostics, d.code ≠ .suspectPattern) →
      ∃ search, r.resolve config = .ok search ∧ ∀ source ∈ c.query.sources,
        isValid source = true ∨
          ∃ cs merged, 2 ≤ cs.length ∧ cs ⊆ search.value.body.conditions ∧
            (∀ d ∈ cs, d.negated = false ∧ isValid (d.source config.caseInsensitive) = true) ∧
            Condition.merge? cs = some merged ∧ source = merged.value ∧
            ((∃ d ∈ cs, endsInComment d.fragment = true) ∨ ¬Condition.FitTogether cs)) := by
  constructor
  · intro cs hmany hcs hcomment
    refine ⟨_, Origin.merge?_eq hmany fun c hc => (hcs c hc).1, ?_⟩
    exact Condition.isValid_merged_iff hmany
      (fun c hc => Condition.isValid_fragment_of_source (hcs c hc).2) hcomment
  · intro r c hcompile hdiagnostics
    obtain ⟨search, compiled, hsearch, hcompiled, rfl⟩ := compile_eq_ok_iff.1 hcompile
    have hnotes : Unsuspected search.notes := (unsuspected_append.1 hdiagnostics).1
    have hvalid := (rawAccepted_resolve hsearch hnotes).isValid_source config.caseInsensitive
    obtain ⟨origins, harises⟩ := Compiled.exists_arises_of_ofSearch hcompiled
    refine ⟨search, hsearch, fun source hsource => ?_⟩
    have hsources : source ∈ origins.map (Origin.source config.caseInsensitive) :=
      harises.sources_eq ▸ hsource
    obtain ⟨o, ho, rfl⟩ := List.mem_map.1 hsources
    have hmembers : o.members ⊆ search.value.body.conditions := fun d hd =>
      harises.members_perm.subset (List.mem_flatMap.2 ⟨o, ho, hd⟩)
    -- Only a merged pattern can be wrong: the parts are valid, so all else has to be ruled out.
    cases o with
    | single d => exact .inl (hvalid d (hmembers (List.mem_singleton.2 rfl)))
    | merged cs several positive =>
      by_cases hmerged : isValid ((Origin.merged cs several positive).source
        config.caseInsensitive) = true
      · exact .inl hmerged
      · refine .inr ⟨cs, _, several, hmembers, fun d hd => ⟨positive d hd, hvalid d (hmembers hd)⟩,
          Origin.merge?_eq several positive, rfl, ?_⟩
        by_contra hbad
        rw [not_or, not_not] at hbad
        refine hmerged ((Condition.isValid_merged_iff several ?_ ?_).2 hbad.2)
        · exact fun d hd => Condition.isValid_fragment_of_source (hvalid d (hmembers hd))
        · intro d hd
          by_contra hcomment
          exact hbad.1 ⟨d, hd, by simpa using hcomment⟩

/-- The patterns that a request is compiled to, and the kinds of what is reported. -/
def outcome (config : Config) (r : Request) :
    Except CompileError (List String × List DiagnosticCode) :=
  (r.compile config).map fun c => (c.query.sources, c.diagnostics.map (·.code))

/-- Two groups with different names can be merged, and two with the same name cannot. -/
theorem validity_under_merging_groups :
    (∃ merged, Condition.merge? [.ofPattern "(?<n>a)", .ofPattern "(?<m>b)"] = some merged ∧
      isValid merged.value = true) ∧
    ∃ c cs, (anyOf [rawFor "(?<n>a)", rawFor "(?<n>b)"]).compile (merging true) = .ok c ∧
      (∀ d ∈ c.diagnostics, d.code ≠ .suspectPattern) ∧
      (∀ d ∈ cs, isValid (d.source true) = true) ∧
      ((∃ d ∈ cs, endsInComment d.fragment = true) ∨ ¬Condition.FitTogether cs) := by
  constructor
  · have hvalid : ∀ c ∈ [Condition.ofPattern "(?<n>a)", Condition.ofPattern "(?<m>b)"],
        c.negated = false ∧ isValid (c.source true) = true := by
      refine List.forall_mem_cons.2 ⟨⟨rfl, ?_⟩, List.forall_mem_singleton.2 ⟨rfl, ?_⟩⟩
      · decide +kernel
      · decide +kernel
    have hcomment : ∀ c ∈ [Condition.ofPattern "(?<n>a)", Condition.ofPattern "(?<m>b)"],
        endsInComment c.fragment = false := by
      refine List.forall_mem_cons.2 ⟨?_, List.forall_mem_singleton.2 ?_⟩
      · decide +kernel
      · decide +kernel
    obtain ⟨merged, hmerged, hiff⟩ :=
      (validity_under_merging (merging true)).1 _ (by decide) hvalid hcomment
    refine ⟨merged, hmerged, hiff.2 ⟨?_, ?_, ?_⟩⟩
    · decide +kernel
    · decide +kernel
    · decide +kernel
  · have hcompile : ∃ c,
        (anyOf [rawFor "(?<n>a)", rawFor "(?<n>b)"]).compile (merging true) = .ok c ∧
        c.query.sources = ["(?i)(?:(?<n>a))|(?:(?<n>b))"] ∧
        c.diagnostics.map (·.code) = [.disjunctionMerged] := ⟨_, rfl, rfl, rfl⟩
    obtain ⟨c, hc, hsources, hcodes⟩ := hcompile
    have hdiagnostics : ∀ d ∈ c.diagnostics, d.code ≠ .suspectPattern := by
      intro d hd hcode
      have hmem := List.mem_map_of_mem (f := (·.code)) hd
      rw [hcodes, hcode] at hmem
      exact absurd hmem (by decide)
    obtain ⟨search, -, hall⟩ := (validity_under_merging (merging true)).2 _ c hc hdiagnostics
    have hinvalid : isValid "(?i)(?:(?<n>a))|(?:(?<n>b))" = false := by decide +kernel
    rcases hall _ (hsources ▸ List.mem_singleton.2 rfl) with
      hvalid | ⟨cs, merged, -, -, hcs, -, -, hbad⟩
    · rw [hinvalid] at hvalid
      cases hvalid
    · exact ⟨c, cs, hc, hdiagnostics, fun d hd => (hcs d hd).2, hbad⟩

/-- Valid raw patterns of which nothing is reported, but that merge into a pattern that is not
valid: two that name a group alike, and one that ends in a comment. -/
theorem merging_breaks_validity :
    (isValid "(?<n>a)" = true ∧ isValid "(?<n>b)" = true ∧
      (anyOf [rawFor "(?<n>a)", rawFor "(?<n>b)"]).outcome (merging true) =
        .ok (["(?i)(?:(?<n>a))|(?:(?<n>b))"], [.disjunctionMerged]) ∧
      isValid "(?i)(?:(?<n>a))|(?:(?<n>b))" = false) ∧
    (isValid "(?x)a#" = true ∧ isValid "b" = true ∧
      (anyOf [rawFor "(?x)a#", rawFor "b"]).outcome (merging true) =
        .ok (["(?i)(?:(?x)a#)|(?:b)"], [.disjunctionMerged]) ∧
      isValid "(?i)(?:(?x)a#)|(?:b)" = false) := by
  refine ⟨⟨?_, ?_, rfl, ?_⟩, ⟨?_, ?_, rfl, ?_⟩⟩
  all_goals decide +kernel

end Request

end OutlineQuery
