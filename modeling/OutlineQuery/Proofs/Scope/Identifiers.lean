import Mathlib.Data.List.Basic
import OutlineQuery.Proofs.Plan.Relate
import OutlineQuery.Proofs.Scope.Outcome
import OutlineQuery.Request.Compilation

/-!
Lists of identifiers stand for sets. What comes of a scope, in a compiled search or in the text of a
query, depends on which trimmed entries its lists have, and not on their order, on repetitions or on
blanks; only what is reported may differ.
-/
namespace OutlineQuery

open Datalog (Var Clause Query)

/-- A set is known by its members. -/
theorem Text.StringSet.eq_of_mem_iff {s t : StringSet} (h : ∀ x, x ∈ s ↔ x ∈ t) : s = t := by
  have hnodup (s : StringSet) : s.toList.Nodup := by
    refine s.ascending.imp ?_
    rintro x _ hlt rfl
    exact String.lt_irrefl x hlt
  have hperm : s.toList.Perm t.toList := (List.perm_ext_iff_of_nodup (hnodup s) (hnodup t)).2 h
  have hlists : s.toList = t.toList :=
    hperm.eq_of_pairwise (fun _ _ _ _ hab hba => absurd hba (String.lt_asymm hab)) s.ascending
      t.ascending
  cases s
  cases t
  cases hlists
  rfl

namespace Scope

/-- Scopes whose lists have the same trimmed entries, but for blank ones, and of which both or
neither exclude journals. -/
structure SameIdentifiers (s s' : Scope) : Prop where
  blocks : ∀ id, Lists s.blockIds id ↔ Lists s'.blockIds id
  pages : ∀ id, Lists s.pageIds id ↔ Lists s'.pageIds id
  journals : s.excludeJournals = s'.excludeJournals

/-- The set of identifiers is told by which of them are listed, and tells that. -/
theorem lists_iff_iff_identifiers_eq {ids ids' : List String} :
    (∀ id, Lists ids id ↔ Lists ids' id) ↔ identifiers ids = identifiers ids' := by
  simp only [← mem_identifiers]
  constructor
  · exact Text.StringSet.eq_of_mem_iff
  · intro h id
    rw [h]

theorem sameIdentifiers_iff {s s' : Scope} :
    s.SameIdentifiers s' ↔ identifiers s.blockIds = identifiers s'.blockIds ∧
      identifiers s.pageIds = identifiers s'.pageIds ∧ s.excludeJournals = s'.excludeJournals := by
  simp only [← lists_iff_iff_identifiers_eq]
  exact ⟨fun h => ⟨h.blocks, h.pages, h.journals⟩, fun ⟨hb, hp, hj⟩ => ⟨hb, hp, hj⟩⟩

instance (s s' : Scope) : Decidable (s.SameIdentifiers s') :=
  decidable_of_iff _ sameIdentifiers_iff.symm

variable {ids ids' : List String}

theorem membership?_congr (h : ∀ id, Lists ids id ↔ Lists ids' id) (id : Var) :
    membership? id ids = membership? id ids' := by
  rw [membership?, membership?, lists_iff_iff_identifiers_eq.1 h]

theorem restriction_congr_ids (h : ∀ id, Lists ids id ↔ Lists ids' id) (present : Var → Bool)
    (entity : Var) : restriction present entity ids = restriction present entity ids' := by
  rw [restriction, restriction, membership?_congr h]

theorem hasEntry_congr (h : ∀ id, Lists ids id ↔ Lists ids' id) : HasEntry ids ↔ HasEntry ids' := by
  simp only [hasEntry_iff_lists, h]

variable {s s' : Scope}

/-- Whether the lists themselves are empty does not matter for what is added to a query. -/
theorem additions_congr (h : s.SameIdentifiers s') (q : Query) (target : Target) :
    additions q target s = additions q target s' := by
  have hblocks : (restriction q.mentions · s.blockIds) = (restriction q.mentions · s'.blockIds) :=
    funext fun entity => restriction_congr_ids h.blocks q.mentions entity
  rw [additions, additions, hblocks, h.journals]
  simp only [restriction_congr_ids h.pages]

theorem SameIdentifiers.effective (h : s.SameIdentifiers s') (config : Config) :
    (Plan.effectiveScope config s).SameIdentifiers (Plan.effectiveScope config s') :=
  ⟨h.blocks, h.pages, congrArg (· || config.excludeJournals) h.journals⟩

end Scope

namespace QueryText

open Scope (Lists)

variable {text : String} {blockIds pageIds blockIds' pageIds' : List String}

theorem clausesFor_nil (text : List Char) : clausesFor text [] [] = [] := rfl

/-- Where the text has what there are identifiers for, the clauses go to the end of its block; that
holds also where there are no lists, since then there are no clauses. -/
theorem inject_of_hasTargets {k : Nat} (hend : whereEnd text.toList = some k)
    (htargets : HasTargets text.toList blockIds pageIds) :
    (inject text blockIds pageIds).1 = String.ofList (text.toList.take k ++
      addedText (clausesFor text.toList blockIds pageIds) ++ text.toList.drop k) := by
  by_cases hempty : blockIds = [] ∧ pageIds = []
  · obtain ⟨rfl, rfl⟩ := hempty
    simp [clausesFor_nil, addedText, inject, restricted]
  · have hout := restricted_eq_ok_iff.2 (.inr ⟨not_and_or.1 hempty, htargets, k, hend, rfl⟩)
    rw [inject, hout]

/-- A text with no place for what is to be added is left alone. -/
theorem inject_of_not_hasTargets
    (h : ¬((whereEnd text.toList).isSome = true ∧ HasTargets text.toList blockIds pageIds)) :
    (inject text blockIds pageIds).1 = text := by
  rcases hreport : (inject text blockIds pageIds).2 with _ | d
  · obtain ⟨rfl, rfl⟩ := (inject_none_iff.1 hreport).resolve_right h
    simp [inject, restricted]
  · exact (inject_of_diagnostic hreport).1

/-- What a text becomes depends on which identifiers are listed only. -/
theorem inject_congr (hblocks : ∀ id, Lists blockIds id ↔ Lists blockIds' id)
    (hpages : ∀ id, Lists pageIds id ↔ Lists pageIds' id) (text : String) :
    (inject text blockIds pageIds).1 = (inject text blockIds' pageIds').1 := by
  have htargets : HasTargets text.toList blockIds pageIds ↔
      HasTargets text.toList blockIds' pageIds' := by
    rw [hasTargets_iff, hasTargets_iff, Scope.hasEntry_congr hblocks, Scope.hasEntry_congr hpages]
  have hclauses : clausesFor text.toList blockIds pageIds =
      clausesFor text.toList blockIds' pageIds' := by
    rw [clausesFor_eq, clausesFor_eq, Scope.restriction_congr_ids hblocks,
      Scope.restriction_congr_ids hpages]
  by_cases h : (whereEnd text.toList).isSome = true ∧ HasTargets text.toList blockIds pageIds
  · obtain ⟨k, hend⟩ := Option.isSome_iff_exists.1 h.1
    rw [inject_of_hasTargets hend h.2, inject_of_hasTargets hend (htargets.1 h.2), hclauses]
  · rw [inject_of_not_hasTargets h, inject_of_not_hasTargets (by rwa [← htargets])]

end QueryText

namespace Compiled

/-- A compiled search without what was reported on the way. -/
def withoutReports (c : Compiled) : Compiled :=
  { c with diagnostics := [] }

theorem withoutReports_eq_iff {c c' : Compiled} : c.withoutReports = c'.withoutReports ↔
    c.text = c'.text ∧ c.columns = c'.columns ∧ c.tier = c'.tier ∧ c.merges = c'.merges ∧
      c.query = c'.query := by
  simp [withoutReports]

variable {s s' : Scope}

/-- Reports apart, a compiled search is told by the query and the columns of its plan. -/
theorem withoutReports_ofPlan {p p' : Plan} (hquery : p.query = p'.query)
    (hcolumns : p.columns = p'.columns) (tier : Tier) (merges : Nat) :
    (ofPlan p tier merges).withoutReports = (ofPlan p' tier merges).withoutReports := by
  rw [withoutReports_eq_iff, ofPlan, ofPlan, hquery, hcolumns]
  exact ⟨rfl, rfl, rfl, rfl, rfl⟩

/-- Reports apart, scopes of the same identifiers compile alike, or fail alike. -/
theorem ofBody_congr (h : s.SameIdentifiers s') (config : Config) (e : Entity)
    (body : Search.Body) :
    (ofBody config e s body).map withoutReports = (ofBody config e s' body).map withoutReports := by
  cases body with
  | groups set =>
    rcases hset : collapse config "" set with error | c
    · simp only [ofBody, hset]
      rfl
    · have hquery : (Plan.select config e c.group s).query =
          (Plan.select config e c.group s').query := by
        rw [Plan.select_query, Plan.select_query]
        simp only [Scope.additions_congr (h.effective config)]
      simp only [ofBody, hset]
      exact congrArg Except.ok (withoutReports_ofPlan hquery rfl _ _)
  | hierarchy r =>
    rcases hleft : collapse config "hierarchy.left" r.left with error | left
    · simp only [ofBody, hleft]
      rfl
    · rcases hright : collapse config "hierarchy.right" r.right with error | right
      · simp only [ofBody, hleft, hright]
        rfl
      · have hquery : (Plan.relate config left.group r.operator right.group s).query =
            (Plan.relate config left.group r.operator right.group s').query := by
          rw [Plan.relate_query, Plan.relate_query]
          simp only [Scope.additions_congr (h.effective config)]
        simp only [ofBody, hleft, hright]
        exact congrArg Except.ok (withoutReports_ofPlan hquery rfl _ _)

theorem ofSearch_congr_scope (h : s.SameIdentifiers s') (config : Config) (search : Search) :
    (ofSearch config { search with scope := s }).map withoutReports =
      (ofSearch config { search with scope := s' }).map withoutReports := by
  simp only [ofSearch]
  split
  · rfl
  · exact ofBody_congr h config search.entity search.body

end Compiled

namespace Request

/-- The scope of a request goes over into the search and has no other part in resolving it. -/
theorem resolve_scope (config : Config) (r : Request) (s : Scope) :
    resolve config { r with scope := some s } = (resolve config { r with scope := none }).map
      fun search => ⟨{ search.value with scope := s }, search.notes⟩ := by
  simp only [resolve]
  split
  · rfl
  · rcases resolveEntity r.entity with error | e
    · rfl
    · have hbody (scope : Option Scope) :
          ({ r with scope } : Request).resolveBody e = r.resolveBody e := rfl
      simp only [hbody, bind, Except.bind]
      rcases r.resolveBody e with error | body
      · rfl
      · dsimp only
        split <;> rfl

theorem compile_congr_scope {s s' : Scope} (h : s.SameIdentifiers s') (config : Config)
    (r : Request) :
    (compile config { r with scope := some s }).map Compiled.withoutReports =
      (compile config { r with scope := some s' }).map Compiled.withoutReports := by
  simp only [compile, resolve_scope]
  rcases resolve config { r with scope := none } with error | search
  · rfl
  · have hsearch := Compiled.ofSearch_congr_scope h config search.value
    simp only [Except.map, bind, Except.bind]
    rcases hs : Compiled.ofSearch config { search.value with scope := s } with error | c <;>
      rcases hs' : Compiled.ofSearch config { search.value with scope := s' } with error' | c' <;>
      rw [hs, hs'] at hsearch
    · cases hsearch
      rfl
    · cases hsearch
    · cases hsearch
    · exact congrArg Except.ok (Except.ok.inj hsearch)

end Request

namespace Scope

/-- Scopes with the same identifiers give the same error or the same compiled search but for what is
reported, from a search as from a request; and from any text the same restricted text. -/
theorem SameIdentifiers.same_outcomes (config : Config) (s s' : Scope) (h : s.SameIdentifiers s') :
    (∀ search : Search, (Compiled.ofSearch config { search with scope := s }).map
        Compiled.withoutReports =
      (Compiled.ofSearch config { search with scope := s' }).map Compiled.withoutReports) ∧
    (∀ r : Request, (Request.compile config { r with scope := some s }).map
        Compiled.withoutReports =
      (Request.compile config { r with scope := some s' }).map Compiled.withoutReports) ∧
    ∀ text, (QueryText.inject text s.blockIds s.pageIds).1 =
      (QueryText.inject text s'.blockIds s'.pageIds).1 :=
  ⟨Compiled.ofSearch_congr_scope h config, Request.compile_congr_scope h config,
    QueryText.inject_congr h.blocks h.pages⟩

/-- A search for pages with identifiers of blocks, in two spellings: all that differs is how many of
them are reported to be ignored. -/
theorem SameIdentifiers.same_outcomes_spellings :
    let s : Scope := ⟨[" y", "x", "", "x "], ["z\n"], true⟩
    let s' : Scope := ⟨["x", "y"], ["\t", "z"], true⟩
    s.SameIdentifiers s' ∧
      (∃ c c', Compiled.ofSearch .default ⟨.page, .groups letters, s⟩ = .ok c ∧
        Compiled.ofSearch .default ⟨.page, .groups letters, s'⟩ = .ok c' ∧
        c.text = c'.text ∧ c.columns = c'.columns ∧ c.tier = c'.tier ∧ c.merges = c'.merges ∧
        c.diagnostics ≠ c'.diagnostics) ∧
      ∀ text, (QueryText.inject text s.blockIds s.pageIds).1 =
        (QueryText.inject text s'.blockIds s'.pageIds).1 := by
  intro s s'
  have hsame : s.SameIdentifiers s' := by decide
  obtain ⟨hsearch, -, htext⟩ := SameIdentifiers.same_outcomes .default s s' hsame
  refine ⟨hsame, ?_, htext⟩
  have hok : ∃ c c', Compiled.ofSearch .default ⟨.page, .groups letters, s⟩ = .ok c ∧
      Compiled.ofSearch .default ⟨.page, .groups letters, s'⟩ = .ok c' ∧
      c.diagnostics ≠ c'.diagnostics := ⟨_, _, rfl, rfl, by decide⟩
  obtain ⟨c, c', hc, hc', hreports⟩ := hok
  have hequal := hsearch ⟨.page, .groups letters, s⟩
  rw [hc, hc'] at hequal
  obtain ⟨htext, hcolumns, htier, hmerges, -⟩ :=
    Compiled.withoutReports_eq_iff.1 (Except.ok.inj hequal)
  exact ⟨c, c', hc, hc', htext, hcolumns, htier, hmerges, hreports⟩

end Scope

end OutlineQuery
