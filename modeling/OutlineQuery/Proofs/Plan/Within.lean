import OutlineQuery.Proofs.Plan.Answer

/-!
What the clauses that a scope adds mean for the answer that a valuation chooses: it is within the
scope, and the variables of identifiers are the written uuids.
-/
namespace OutlineQuery

open Datalog (Var Clause Query Value Interpretation Builtins Store)
open Datalog.Clause (HoldsAll)
open Scope (Lists Restricted)

variable {α : Type} {I : Interpretation α} {scope : List Var} {σ : Var → Value α} {n : Naming}

/-- Journals are excluded if the request or the configuration says so. -/
theorem effectiveScope_excludes (config : Config) (s : Scope) :
    (Plan.effectiveScope config s).excludeJournals = true ↔
      s.excludeJournals = true ∨ config.excludeJournals = true := by
  simp [Plan.effectiveScope]

namespace BlockAnswer

/-- A query with a side for blocks and nothing that a scope would add: it has the uuid of the block,
and neither the uuid of the page nor an identifier. -/
structure Unscoped (n : Naming) (q : Query) : Prop where
  blockUuid : q.mentions (n.roleVar .blockUuid) = true
  blockId : q.mentions (n.roleVar .blockId) = false
  pageUuid : q.mentions (n.roleVar .pageUuid) = false
  pageId : q.mentions (n.roleVar .pageId) = false

/-- The variables of a side for blocks that a scope is about. -/
def target (n : Naming) : Scope.Target :=
  ⟨some (n.roleVar .block), n.roleVar .page⟩

theorem target_ofBlock (hn : n.Plain) : Plan.target .block (Subject.ofBlock n) = target n := by
  rw [Subject.ofBlock_eq hn]
  rfl

/-- What a scope adds to a query for blocks holds if each of its three parts does: blocks, pages,
and journals. -/
theorem holdsAll_additions_iff {q : Query} {s : Scope} (hq : Unscoped n q)
    (hpage : n.roleVar .page ∈ scope) :
    HoldsAll I (Scope.additions q (target n) s) scope σ ↔
      ((∃ other, Lists s.blockIds other) →
        σ (n.roleVar .blockId) = .text (I.builtins.str (σ (n.roleVar .blockUuid))) ∧
        Lists s.blockIds (I.builtins.str (σ (n.roleVar .blockUuid)))) ∧
      ((∃ other, Lists s.pageIds other) →
        I.store.Has (σ (n.roleVar .page)) Datalog.Attr.uuid (σ (n.roleVar .pageUuid)) ∧
        σ (n.roleVar .pageId) = .text (I.builtins.str (σ (n.roleVar .pageUuid))) ∧
        Lists s.pageIds (I.builtins.str (σ (n.roleVar .pageUuid)))) ∧
      (s.excludeJournals = true →
        ¬I.store.Has (σ (n.roleVar .page)) Datalog.Attr.journal (.bool true)) := by
  have hid : q.mentions (Scope.idVar (n.roleVar .page)) = false := by
    rw [Naming.idVar_page]
    exact hq.pageId
  have hblock : ∀ b ∈ (target n).block, q.mentions (Scope.idVar b) = false ∧
      ¬Scope.Owns b (Scope.idVar (n.roleVar .page)) ∧
      ¬Scope.Owns b (Scope.uuidVar (n.roleVar .page)) := by
    intro b hb
    obtain rfl := Option.mem_some_iff.1 hb
    simp [Scope.Owns, Naming.idVar_block, Naming.uuidVar_block, Naming.idVar_page,
      Naming.uuidVar_page, hq.blockId]
  rw [Scope.holdsAll_additions_iff hpage hid hblock]
  simp [target, Restricted, Naming.idVar_block, Naming.uuidVar_block, Naming.idVar_page,
    Naming.uuidVar_page, hq.blockUuid, hq.pageUuid]

variable {config : Config} {s : Scope}

theorem within_of_holdsAll {q : Query} (hq : Unscoped n q) (hpage : n.roleVar .page ∈ scope)
    (h : HoldsAll I (Scope.additions q (target n) (Plan.effectiveScope config s)) scope σ) :
    (ofValuation n σ).Within I.builtins I.store config s := by
  obtain ⟨hblocks, hpages, hjournals⟩ := (holdsAll_additions_iff hq hpage).1 h
  rw [effectiveScope_excludes] at hjournals
  exact ⟨fun hlist => (hblocks hlist).2,
    fun hlist => ⟨_, (hpages hlist).1, (hpages hlist).2.2⟩, hjournals⟩

/-- The uuid by which a page is within a scope, or any value where no pages are listed. -/
theorem Within.exists_pageUuid {f : Builtins α} {store : Store α} {a : BlockAnswer α}
    (h : a.Within f store config s) :
    ∃ w, (∃ other, Lists s.pageIds other) →
      store.Has a.page Datalog.Attr.uuid w ∧ Lists s.pageIds (f.str w) := by
  by_cases hlist : ∃ other, Lists s.pageIds other
  · obtain ⟨w, hw⟩ := h.page hlist
    exact ⟨w, fun _ => hw⟩
  · exact ⟨a.page, fun hlist' => absurd hlist' hlist⟩

/-- For an answer within the scope the additions hold, with the identifiers as results of the
calls. -/
theorem holdsAll_of_within {q : Query} (hq : Unscoped n q) (hpage : n.roleVar .page ∈ scope)
    {a : BlockAnswer α} {ignoreCase : Bool} {cs : List Condition} {title w : Value α}
    (hσ : ∀ r, σ (n.roleVar r) = roleValues I.builtins ignoreCase cs a title w r)
    (ha : a.Within I.builtins I.store config s)
    (hw : (∃ other, Lists s.pageIds other) →
      I.store.Has a.page Datalog.Attr.uuid w ∧ Lists s.pageIds (I.builtins.str w)) :
    HoldsAll I (Scope.additions q (target n) (Plan.effectiveScope config s)) scope σ := by
  apply (holdsAll_additions_iff hq hpage).2
  rw [effectiveScope_excludes]
  simp only [hσ, roleValues]
  exact ⟨fun hlist => ⟨trivial, ha.block hlist⟩,
    fun hlist => ⟨(hw hlist).1, trivial, (hw hlist).2⟩, ha.journal⟩

end BlockAnswer

namespace PageAnswer

/-- A query with a side for pages and nothing that a scope would add. -/
structure Unscoped (n : Naming) (q : Query) : Prop where
  pageUuid : q.mentions (n.roleVar .pageUuid) = true
  pageId : q.mentions (n.roleVar .pageId) = false

/-- The variables of a side for pages that a scope is about. -/
def target (n : Naming) : Scope.Target :=
  ⟨none, n.roleVar .page⟩

theorem target_ofPage (hn : n.Plain) : Plan.target .page (Subject.ofPage n) = target n := by
  rw [Subject.ofPage_eq hn]
  rfl

/-- For pages the additions hold if the answer is within the scope, as the query has read the uuid
of the page already. -/
theorem holdsAll_additions_iff {q : Query} {config : Config} {s : Scope} (hq : Unscoped n q)
    (hpage : n.roleVar .page ∈ scope) :
    HoldsAll I (Scope.additions q (target n) (Plan.effectiveScope config s)) scope σ ↔
      ((∃ other, Lists s.pageIds other) →
        σ (n.roleVar .pageId) = .text (I.builtins.str (σ (n.roleVar .pageUuid)))) ∧
      (ofValuation n σ).Within I.builtins I.store config s := by
  have hid : q.mentions (Scope.idVar (n.roleVar .page)) = false := by
    rw [Naming.idVar_page]
    exact hq.pageId
  rw [Scope.holdsAll_additions_iff hpage hid (by simp [target]), effectiveScope_excludes]
  simp only [target, Restricted, Naming.idVar_page, Naming.uuidVar_page, hq.pageUuid]
  constructor
  · rintro ⟨-, hpages, hjournals⟩
    exact ⟨fun hlist => (hpages hlist).2.1, fun hlist => (hpages hlist).2.2, hjournals⟩
  · rintro ⟨hval, hlists, hjournals⟩
    refine ⟨by simp, fun hlist => ⟨by simp, hval hlist, hlists hlist⟩, hjournals⟩

end PageAnswer

end OutlineQuery
