import OutlineQuery.Proofs.Compiled.Inversion
import OutlineQuery.Proofs.Plan.Scoping
import OutlineQuery.Proofs.Plan.Vocabulary
import OutlineQuery.Proofs.Scope.QueryText

/-!
Restricting the text of a compiled search gives the text of the search with that scope.
-/
namespace OutlineQuery

open Datalog (Var Clause Query)
open QueryText (Scanned isPlain isQuiet isSymbolChar)

theorem Datalog.Var.HasRole.isPlain {v : Var} (h : v.HasRole) : isPlain v = true := by
  have hchars : nameChars.all (fun c => isSymbolChar c && c != '?') = true := by decide
  exact List.all_eq_true.2 fun c hc => List.all_eq_true.1 hchars c (h.name_subset hc)

/-- No word of plans has a variable in it. -/
theorem isQuiet_of_mem_vocabulary : ∀ s ∈ vocabulary, isQuiet none s.toList = true := by
  decide

namespace Plan

variable {config : Config}

/-- The text of a query for entities is one that scans can be trusted with. -/
theorem scanned_select (config : Config) (e : Entity) (g : Group) (scope : Scope) :
    Scanned (select config e g scope).query where
  wellFormed := wellFormed_select config scope e g
  rules := (select_find_and_rules config scope e g).2
  find _ hv := Query.mentions_of_mem_dataVars ((wellScoped_select config e g scope).find_bound hv)
  vars c hc v hv := ((worded_select config scope e g c hc).vars v hv).isPlain
  names c hc s hs :=
    isQuiet_of_mem_vocabulary s ((worded_select config scope e g c hc).names hs)

/-- Without identifiers and without the exclusion of journals a scope adds nothing. -/
theorem select_everything (hconfig : config.excludeJournals = false) (e : Entity) (g : Group) :
    (select config e g .everything).query =
      unscoped config.caseInsensitive g (Subject.ofEntity e .root) := by
  rw [select_query]
  cases e <;>
    simp [Scope.additions, Scope.everything, effectiveScope, target, hconfig, Scope.restriction_nil,
      Query.append]

/-- A configuration that includes journals leaves a scope as it is. -/
theorem effectiveScope_of_journals (hconfig : config.excludeJournals = false)
    (blockIds pageIds : List String) :
    effectiveScope config ⟨blockIds, pageIds, false⟩ = ⟨blockIds, pageIds, false⟩ := by
  simp [effectiveScope, hconfig]

/-- The text of a query for blocks, restricted, is that of the query with the restriction. -/
theorem inject_select_block (hconfig : config.excludeJournals = false) (g : Group)
    (blockIds pageIds : List String) :
    QueryText.inject (select config .block g .everything).query.render blockIds pageIds =
      ((select config .block g ⟨blockIds, pageIds, false⟩).query.render, none) := by
  have hscanned := scanned_select config .block g .everything
  have hunscoped := unscoped_block config.caseInsensitive g
  rw [select_everything hconfig] at hscanned ⊢
  have hmentions {r : Role} (hr : r ∈ [.block, .page, .content, .blockUuid, .pageName]) :=
    Query.mentions_of_mem_dataVars (q := unscoped config.caseInsensitive g (.ofBlock .root))
      (Subject.mem_dataVars_ofBlock config.caseInsensitive Naming.root_plain g hr)
  have hblock : (⟨"b"⟩ : Var) = Naming.root.roleVar .block := rfl
  have hpage : (⟨"p"⟩ : Var) = Naming.root.roleVar .page := rfl
  rw [hscanned.inject_render blockIds pageIds
    (fun _ => hmentions (r := .block) (by simp)) (fun _ => hmentions (r := .page) (by simp))]
  rw [select_block_query, effectiveScope_of_journals hconfig, hblock, hpage]
  dsimp only [Subject.ofEntity]
  rw [BlockAnswer.restriction_block hunscoped, BlockAnswer.restriction_page hunscoped]
  simp [Scope.blockAdditions, Scope.journalClauses]

/-- The text of a query for pages, restricted to pages, is that of the query with the restriction.
It has no block, which matters only if there are identifiers of blocks. -/
theorem inject_select_page (hconfig : config.excludeJournals = false) (g : Group)
    {blockIds : List String} (hnone : ¬∃ id, Scope.Lists blockIds id) (pageIds : List String) :
    QueryText.inject (select config .page g .everything).query.render blockIds pageIds =
      ((select config .page g ⟨blockIds, pageIds, false⟩).query.render, none) := by
  have hscanned := scanned_select config .page g .everything
  have hunscoped := unscoped_page config.caseInsensitive g
  have hblock : Scope.membership? (Scope.idVar ⟨"b"⟩) blockIds = none :=
    Scope.membership?_eq_none_iff.2 hnone
  rw [select_everything hconfig] at hscanned ⊢
  have hmentions {r : Role} (hr : r ∈ [.page, .title, .pageUuid]) :=
    Query.mentions_of_mem_dataVars (q := unscoped config.caseInsensitive g (.ofPage .root))
      (Subject.mem_dataVars_ofPage config.caseInsensitive Naming.root_plain g hr)
  have hpage : (⟨"p"⟩ : Var) = Naming.root.roleVar .page := rfl
  rw [hscanned.inject_render blockIds pageIds (fun h => absurd hblock h)
    (fun _ => hmentions (r := .page) (by simp))]
  rw [select_page_query, effectiveScope_of_journals hconfig,
    Scope.restriction_eq_tested _ ⟨"b"⟩, Scope.tested, hblock, hpage]
  dsimp only [Subject.ofEntity]
  rw [PageAnswer.restriction_page hunscoped]
  simp [Scope.pageAdditions, Scope.journalClauses]

end Plan

namespace Compiled

/-- Restricting the text of a compiled search without a scope gives the text of the search with that
scope, and no report. For pages there must be no identifiers of blocks. -/
theorem inject_text_eq (config : Config) (hconfig : config.excludeJournals = false) (e : Entity)
    (set : GroupSet) (blockIds pageIds : List String)
    (hblocks : e = .page → ∀ entry ∈ blockIds, Text.trim entry = "") (c : Compiled)
    (hc : ofSearch config ⟨e, .groups set, .everything⟩ = .ok c) :
    ∃ d, ofSearch config ⟨e, .groups set, ⟨blockIds, pageIds, false⟩⟩ = .ok d ∧
      QueryText.inject c.text blockIds pageIds = (d.text, none) := by
  obtain ⟨hcount, group, hgroup, rfl⟩ := ofSearch_groups_eq_ok_iff.1 hc
  refine ⟨_, ofSearch_groups_eq_ok_iff.2 ⟨hcount, group, hgroup, rfl⟩, ?_⟩
  cases e with
  | block => exact Plan.inject_select_block hconfig group.group blockIds pageIds
  | page =>
    have hnone : ¬∃ id, Scope.Lists blockIds id := by
      rintro ⟨id, hid, entry, hentry, rfl⟩
      exact hid (hblocks rfl entry hentry)
    exact Plan.inject_select_page hconfig group.group hnone pageIds

/-- Conditions and identifiers that look like the text around them, and a blank one among those of
blocks for a search for pages. -/
theorem inject_text_eq_brackets :
    let set : GroupSet := ⟨[⟨[askFor "] :where ?b-id \"" false, askFor "?p \\" true], .or⟩], .and⟩
    (∃ c d, ofSearch .default ⟨.block, .groups set, .everything⟩ = .ok c ∧
      ofSearch .default ⟨.block, .groups set, ⟨["\"]", " x"], [")"], false⟩⟩ = .ok d ∧
      QueryText.inject c.text ["\"]", " x"] [")"] = (d.text, none)) ∧
    ∃ c d, ofSearch .default ⟨.page, .groups set, .everything⟩ = .ok c ∧
      ofSearch .default ⟨.page, .groups set, ⟨["\n "], ["?p-id"], false⟩⟩ = .ok d ∧
      QueryText.inject c.text ["\n "] ["?p-id"] = (d.text, none) := by
  intro set
  have hok (e : Entity) : ∃ c, ofSearch .default ⟨e, .groups set, .everything⟩ = .ok c := ⟨_, rfl⟩
  constructor
  · obtain ⟨c, hc⟩ := hok .block
    obtain ⟨d, hd, htext⟩ := inject_text_eq .default rfl .block set ["\"]", " x"] [")"]
      (fun h => nomatch h) c hc
    exact ⟨c, d, hc, hd, htext⟩
  · obtain ⟨c, hc⟩ := hok .page
    obtain ⟨d, hd, htext⟩ := inject_text_eq .default rfl .page set ["\n "] ["?p-id"]
      (fun _ => by decide +kernel) c hc
    exact ⟨c, d, hc, hd, htext⟩

end Compiled

end OutlineQuery
