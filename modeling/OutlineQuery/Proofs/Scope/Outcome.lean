import OutlineQuery.Proofs.Scope.Places
import OutlineQuery.Proofs.Scope.Restriction

/-!
When the text of a query is restricted. A variable counts as bound when it stands anywhere in the
text, be it among the results, behind `:in` or in a rule; whether it stands in the `:where` block,
where the clauses go, is not asked.
-/
namespace OutlineQuery

open Datalog (Position Var Clause)

namespace Scope

def HasEntry (ids : List String) : Prop :=
  ∃ entry ∈ ids, Text.trim entry ≠ ""

theorem hasEntry_iff_lists {ids : List String} : HasEntry ids ↔ ∃ id, Lists ids id := by
  constructor
  · rintro ⟨entry, hentry, hblank⟩
    exact ⟨Text.trim entry, hblank, entry, hentry, rfl⟩
  · rintro ⟨_, hblank, entry, hentry, rfl⟩
    exact ⟨entry, hentry, hblank⟩

theorem membership?_eq_none_iff_not_hasEntry {id : Var} {ids : List String} :
    membership? id ids = none ↔ ¬HasEntry ids := by
  rw [membership?_eq_none_iff, hasEntry_iff_lists]

theorem restriction_of_not_hasEntry {ids : List String} (h : ¬HasEntry ids) (present : Var → Bool)
    (entity : Var) : restriction present entity ids = [] := by
  rw [restriction, membership?_eq_none_iff_not_hasEntry.2 h]

theorem not_hasEntry_nil : ¬HasEntry [] := by
  rintro ⟨_, hentry, -⟩
  cases hentry

end Scope

namespace QueryText

/-- The variables of a text that identifiers are about, each with its identifiers. -/
def targets (blockIds pageIds : List String) : List (Var × List String) :=
  [(⟨"b"⟩, blockIds), (⟨"p"⟩, pageIds)]

def clausesFor (text : List Char) (blockIds pageIds : List String) : List Clause :=
  (targets blockIds pageIds).flatMap fun t => Scope.restriction (hasVar text) t.1 t.2

def HasTargets (text : List Char) (blockIds pageIds : List String) : Prop :=
  ∀ t ∈ targets blockIds pageIds, Scope.HasEntry t.2 → hasVar text t.1 = true

/-- Only entities that are restricted have to be there. -/
theorem hasTargets_iff {text : List Char} {blockIds pageIds : List String} :
    HasTargets text blockIds pageIds ↔
      (Scope.HasEntry blockIds → hasVar text ⟨"b"⟩ = true) ∧
        (Scope.HasEntry pageIds → hasVar text ⟨"p"⟩ = true) := by
  simp [HasTargets, targets]

/-- Clauses for blocks come before those for pages. -/
theorem clausesFor_eq (text : List Char) (blockIds pageIds : List String) :
    clausesFor text blockIds pageIds = Scope.restriction (hasVar text) ⟨"b"⟩ blockIds ++
      Scope.restriction (hasVar text) ⟨"p"⟩ pageIds := by
  simp [clausesFor, targets]

/-- Restricting an entity fails only where something is listed and the entity is not there. -/
theorem addedFor_eq_ok_iff {text : List Char} {entity : Var} {ids : List String}
    {cs : List Clause} :
    addedFor text entity ids = .ok cs ↔ (Scope.HasEntry ids → hasVar text entity = true) ∧
      cs = Scope.restriction (hasVar text) entity ids := by
  rcases htest : Scope.membership? (Scope.idVar entity) ids with _ | test
  · have hblank := Scope.membership?_eq_none_iff_not_hasEntry.1 htest
    rw [addedFor, htest, Scope.restriction_of_not_hasEntry hblank]
    constructor
    · intro h
      exact ⟨fun hentry => absurd hentry hblank, (Except.ok.inj h).symm⟩
    · rintro ⟨-, rfl⟩
      rfl
  · have hentry : Scope.HasEntry ids := by
      by_contra hblank
      rw [Scope.membership?_eq_none_iff_not_hasEntry.2 hblank] at htest
      cases htest
    rw [addedFor, htest]
    by_cases hvar : hasVar text entity = true
    · simp [hvar, eq_comm]
    · simp [hvar, hentry]

/-- Both entities are looked for in the text as it was. -/
theorem added_eq_ok_iff {text : List Char} {blockIds pageIds : List String} {cs : List Clause} :
    added text blockIds pageIds = .ok cs ↔
      HasTargets text blockIds pageIds ∧ cs = clausesFor text blockIds pageIds := by
  rw [hasTargets_iff, clausesFor_eq]
  constructor
  · intro h
    rcases hblocks : addedFor text ⟨"b"⟩ blockIds with failure | blocks
    · rw [added, hblocks] at h
      cases h
    · rcases hpages : addedFor text ⟨"p"⟩ pageIds with failure | pages
      · rw [added, hblocks, hpages] at h
        cases h
      · rw [added, hblocks, hpages] at h
        obtain ⟨hblock, rfl⟩ := addedFor_eq_ok_iff.1 hblocks
        obtain ⟨hpage, rfl⟩ := addedFor_eq_ok_iff.1 hpages
        exact ⟨⟨hblock, hpage⟩, (Except.ok.inj h).symm⟩
  · rintro ⟨⟨hblock, hpage⟩, rfl⟩
    rw [added, addedFor_eq_ok_iff.2 ⟨hblock, rfl⟩, addedFor_eq_ok_iff.2 ⟨hpage, rfl⟩]
    rfl

/-- A text is left as it is without identifiers, and otherwise the clauses go where its `:where`
block ends. -/
theorem restricted_eq_ok_iff {text out : List Char} {blockIds pageIds : List String} :
    restricted text blockIds pageIds = .ok out ↔
      (blockIds = [] ∧ pageIds = [] ∧ out = text) ∨
      ((blockIds ≠ [] ∨ pageIds ≠ []) ∧ HasTargets text blockIds pageIds ∧
        ∃ k, whereEnd text = some k ∧
          out = text.take k ++ addedText (clausesFor text blockIds pageIds) ++ text.drop k) := by
  by_cases hempty : blockIds = [] ∧ pageIds = []
  · obtain ⟨rfl, rfl⟩ := hempty
    simp [restricted, eq_comm]
  · have hsome : blockIds ≠ [] ∨ pageIds ≠ [] := not_and_or.1 hempty
    have hlists : (blockIds.isEmpty && pageIds.isEmpty) = false := by
      simpa using hempty
    rw [restricted, hlists, if_neg Bool.false_ne_true]
    constructor
    · intro h
      -- The place is looked for first, and without one the entities are not looked at.
      rcases hend : whereEnd text with _ | k
      · rw [hend] at h
        cases h
      · rcases hadded : added text blockIds pageIds with failure | cs
        · rw [hend, hadded] at h
          cases h
        · rw [hend, hadded] at h
          obtain ⟨htargets, rfl⟩ := added_eq_ok_iff.1 hadded
          exact .inr ⟨hsome, htargets, k, rfl, (Except.ok.inj h).symm⟩
    · rintro (⟨hblocks, hpages, -⟩ | ⟨-, htargets, k, hend, rfl⟩)
      · exact absurd ⟨hblocks, hpages⟩ hempty
      · rw [hend, added_eq_ok_iff.2 ⟨htargets, rfl⟩]
        rfl

theorem inject_eq_iff {text out : String} {blockIds pageIds : List String} :
    inject text blockIds pageIds = (out, none) ↔
      restricted text.toList blockIds pageIds = .ok out.toList := by
  unfold inject
  rcases restricted text.toList blockIds pageIds with failure | cs
  · simp
  · simp only [Prod.mk.injEq, and_true, Except.ok.injEq]
    rw [← String.toList_inj, String.toList_ofList]

/-- A report is a warning that something was not found, and the text is as it was. -/
theorem inject_of_diagnostic {text : String} {blockIds pageIds : List String} {d : Diagnostic}
    (h : (inject text blockIds pageIds).2 = some d) :
    (inject text blockIds pageIds).1 = text ∧ d.severity = .warning ∧
      d.code = .injectionTargetNotFound := by
  rcases hfailed : restricted text.toList blockIds pageIds with failure | cs
  · rw [inject, hfailed] at h ⊢
    obtain rfl := Option.some.inj h
    cases failure <;> exact ⟨rfl, rfl, rfl⟩
  · rw [inject, hfailed] at h
    cases h

/-- When nothing is reported. -/
theorem inject_none_iff {text : String} {blockIds pageIds : List String} :
    (inject text blockIds pageIds).2 = none ↔ (blockIds = [] ∧ pageIds = []) ∨
      ((whereEnd text.toList).isSome = true ∧ HasTargets text.toList blockIds pageIds) := by
  have hout : (inject text blockIds pageIds).2 = none ↔
      ∃ out, restricted text.toList blockIds pageIds = .ok out := by
    unfold inject
    rcases restricted text.toList blockIds pageIds with failure | cs
    · simp
    · simp
  rw [hout]
  constructor
  · rintro ⟨out, h⟩
    rcases restricted_eq_ok_iff.1 h with ⟨hblocks, hpages, -⟩ | ⟨-, htargets, k, hend, -⟩
    · exact .inl ⟨hblocks, hpages⟩
    · exact .inr ⟨by rw [hend]; rfl, htargets⟩
  · intro h
    by_cases hempty : blockIds = [] ∧ pageIds = []
    · exact ⟨_, restricted_eq_ok_iff.2 (.inl ⟨hempty.1, hempty.2, rfl⟩)⟩
    · obtain ⟨hend, htargets⟩ := h.resolve_left hempty
      obtain ⟨k, hk⟩ := Option.isSome_iff_exists.1 hend
      rw [not_and_or] at hempty
      exact ⟨_, restricted_eq_ok_iff.2 (.inr ⟨hempty, htargets, k, hk, rfl⟩)⟩

/-- A variable stands in the `:where` block of a text. -/
def InWhereBlock (v : Var) (text : List Char) : Prop :=
  ∃ before block after, WhereBlock text before block after ∧ UsedIn v before block after

/-- Identifiers constrain only variables of the `:where` block: where something is added they stand
there, and where one of them does not the text is left as it is with a warning. -/
structure ConstrainsUsed (text : String) (blockIds pageIds : List String) : Prop where
  used : (inject text blockIds pageIds).2 = none →
    ∀ t ∈ targets blockIds pageIds, Scope.HasEntry t.2 → InWhereBlock t.1 text.toList
  reported : ∀ t ∈ targets blockIds pageIds, Scope.HasEntry t.2 → ¬InWhereBlock t.1 text.toList →
    (inject text blockIds pageIds).1 = text ∧ ∃ d, (inject text blockIds pageIds).2 = some d ∧
      d.severity = .warning ∧ d.code = .injectionTargetNotFound

theorem constrainsUsed_iff {text : String} {blockIds pageIds : List String} :
    ConstrainsUsed text blockIds pageIds ↔ ((inject text blockIds pageIds).2 = none →
      ∀ t ∈ targets blockIds pageIds, Scope.HasEntry t.2 → InWhereBlock t.1 text.toList) := by
  constructor
  · exact fun h => h.used
  · intro h
    refine ⟨h, ?_⟩
    intro t ht hentry hunused
    rcases hreport : (inject text blockIds pageIds).2 with _ | d
    · exact absurd (h hreport t ht hentry) hunused
    · obtain ⟨htext, hwarning⟩ := inject_of_diagnostic hreport
      exact ⟨htext, d, rfl, hwarning⟩

/-- Nothing is reported exactly if there are no lists, or there is a `:where` block and each
variable with an entry stands anywhere in the text. So a variable outside of the block can be
constrained, and is exactly if none of the variables with an entry is missing and one of them is not
in the block. -/
theorem inject_targets (text : String) (blockIds pageIds : List String) :
    (∀ d, (inject text blockIds pageIds).2 = some d → (inject text blockIds pageIds).1 = text ∧
      d.severity = .warning ∧ d.code = .injectionTargetNotFound) ∧
    ((inject text blockIds pageIds).2 = none ↔ (blockIds = [] ∧ pageIds = []) ∨
      ((whereEnd text.toList).isSome = true ∧
        ∀ t ∈ targets blockIds pageIds, Scope.HasEntry t.2 →
          ∃ before after, text.toList = before ++ after ∧ VarAt t.1 before after)) ∧
    (¬ConstrainsUsed text blockIds pageIds ↔ (whereEnd text.toList).isSome = true ∧
      (∀ t ∈ targets blockIds pageIds, Scope.HasEntry t.2 →
        ∃ before after, text.toList = before ++ after ∧ VarAt t.1 before after) ∧
      ∃ t ∈ targets blockIds pageIds, Scope.HasEntry t.2 ∧ ¬InWhereBlock t.1 text.toList) := by
  have htargets : HasTargets text.toList blockIds pageIds ↔
      ∀ t ∈ targets blockIds pageIds, Scope.HasEntry t.2 →
        ∃ before after, text.toList = before ++ after ∧ VarAt t.1 before after := by
    unfold HasTargets
    simp only [hasVar_iff]
  refine ⟨fun d hd => inject_of_diagnostic hd, ?_, ?_⟩
  · rw [inject_none_iff, htargets]
  · rw [constrainsUsed_iff, inject_none_iff, htargets]
    push Not
    constructor
    · rintro ⟨⟨rfl, rfl⟩ | ⟨hend, hvars⟩, t, ht, hentry, hunused⟩
      · -- Without lists there is no variable with an entry.
        have hblank : t.2 = [] := by
          simp only [targets, List.mem_cons, List.not_mem_nil, or_false] at ht
          rcases ht with rfl | rfl <;> rfl
        rw [hblank] at hentry
        exact absurd hentry Scope.not_hasEntry_nil
      · exact ⟨hend, hvars, t, ht, hentry, hunused⟩
    · rintro ⟨hend, hvars, hunused⟩
      exact ⟨.inr ⟨hend, hvars⟩, hunused⟩

/-- A variable that is not found in the block of conditions is not in it, wherever else it
stands. -/
theorem not_inWhereBlock {v : Var} (hv : isPlain v = true) {text before block after : List Char}
    (h : WhereBlock text before block after) (hblock : hasVar block v = false) :
    ¬InWhereBlock v text := by
  rintro ⟨before', block', after', h', hused⟩
  obtain ⟨rfl, rfl, rfl⟩ := h.unique h'
  rw [(h.usedIn_iff hv).1 hused] at hblock
  cases hblock

/-- A block that is only asked for, and one that only a rule has, are constrained all the same. -/
theorem results_and_rules_are_constrained :
    (inject "[:find ?b :where [?x :block/content ?c]]" ["u"] [] =
      ("[:find ?b :where [?x :block/content ?c]\n [?b :block/uuid ?b-uuid]\n " ++
        "[(str ?b-uuid) ?b-id]\n [(= ?b-id \"u\")]]", none) ∧
      ¬ConstrainsUsed "[:find ?b :where [?x :block/content ?c]]" ["u"] []) ∧
    ¬ConstrainsUsed
      "\x7b:query [:find ?x :where (up ?x ?y)] :rules [[(up ?a ?b) [?b :block/parent ?a]]]\x7d"
      ["u"] [] := by
  have hentry : Scope.HasEntry ["u"] := ⟨"u", List.mem_singleton_self _, by decide⟩
  have hplain : isPlain ⟨"b"⟩ = true := by decide
  have htarget : ((⟨"b"⟩ : Var), ["u"]) ∈ targets ["u"] [] := List.mem_cons_self
  have hfails {text before block after : String}
      (hblock : WhereBlock text.toList before.toList block.toList after.toList)
      (hvar : hasVar block.toList ⟨"b"⟩ = false) (hnone : (inject text ["u"] []).2 = none) :
      ¬ConstrainsUsed text ["u"] [] := by
    intro h
    have hused := h.used hnone _ htarget hentry
    exact not_inWhereBlock hplain hblock hvar hused
  have hresults : WhereBlock "[:find ?b :where [?x :block/content ?c]]".toList
      "[:find ?b ".toList " [?x :block/content ?c]".toList "".toList := by decide
  have hrules : WhereBlock
      "\x7b:query [:find ?x :where (up ?x ?y)] :rules [[(up ?a ?b) [?b :block/parent ?a]]]\x7d".toList
      "\x7b:query [:find ?x ".toList " (up ?x ?y)".toList
      " :rules [[(up ?a ?b) [?b :block/parent ?a]]]\x7d".toList := by decide
  exact ⟨⟨by decide, hfails hresults (by decide) (by decide)⟩,
    hfails hrules (by decide) (by decide)⟩

end QueryText

end OutlineQuery
