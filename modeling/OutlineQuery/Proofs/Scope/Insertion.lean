import OutlineQuery.Proofs.Scope.Outcome

/-!
Restricting a text that has been restricted. The clauses that were added are passed over whatever
their identifiers are, so the end of the block is found again behind them. They add their own
variables to those of the text and hide none, so a restriction of both variables is one of each in
turn, and a variable whose identifier is there is only tested again.
-/
namespace OutlineQuery

open Datalog (Position Var Clause Query Token isName isRuleName)

namespace Scope

/-- A restriction looks for two variables only. -/
theorem restriction_congr {present present' : Var → Bool} {entity : Var}
    (hid : present (idVar entity) = present' (idVar entity))
    (huuid : present (uuidVar entity) = present' (uuidVar entity)) (ids : List String) :
    restriction present entity ids = restriction present' entity ids := by
  rw [restriction, restriction, idClauses, idClauses, hid, huuid]

/-- Where the identifier is there it is only tested. -/
theorem restriction_eq_membership? {present : Var → Bool} {entity : Var} {ids : List String}
    (h : HasEntry ids → present (idVar entity) = true) :
    restriction present entity ids = (membership? (idVar entity) ids).toList := by
  by_cases hentry : HasEntry ids
  · rw [restriction, idClauses, h hentry]
    cases membership? (idVar entity) ids <;> rfl
  · rw [restriction_of_not_hasEntry hentry, membership?_eq_none_iff_not_hasEntry.2 hentry]
    rfl

/-- Where there is an entry its test is added, which has the identifier. -/
theorem exists_idVar_mem_restriction {ids : List String} (h : HasEntry ids) (present : Var → Bool)
    (entity : Var) : ∃ c ∈ restriction present entity ids, idVar entity ∈ c.vars := by
  rcases htest : membership? (idVar entity) ids with _ | test
  · exact absurd h (membership?_eq_none_iff_not_hasEntry.1 htest)
  · obtain ⟨call, rfl, hvars, -⟩ := exists_call_of_membership? htest
    refine ⟨.test call, ?_, ?_⟩
    · rw [restriction, htest]
      exact List.mem_append_right _ (List.mem_singleton_self _)
    · rw [Clause.vars, hvars]
      exact List.mem_singleton_self _

/-- The words of a restriction that are no variables. -/
def restrictionNames : List String :=
  [Datalog.Attr.uuid, "str", "=", "contains?"]

theorem names_subset_of_mem_restriction {present : Var → Bool} {entity : Var} {ids : List String}
    {c : Clause} (hc : c ∈ restriction present entity ids) : c.names ⊆ restrictionNames := by
  rcases mem_restriction_cases hc with rfl | rfl | htest
  · have hattr : Datalog.Attr.uuid ∈ restrictionNames := by decide
    exact List.cons_subset.2 ⟨hattr, List.nil_subset _⟩
  · have hfunc : "str" ∈ restrictionNames := by decide
    exact List.cons_subset.2 ⟨hfunc, List.nil_subset _⟩
  · obtain ⟨call, rfl, -, hfunc⟩ := exists_call_of_membership? htest
    have hnames : ["=", "contains?"] ⊆ restrictionNames := by decide
    exact List.cons_subset.2 ⟨hnames hfunc, List.nil_subset _⟩

end Scope

namespace QueryText

/-- A scan finds the variables of the clauses that are added, and no others. -/
theorem hasVar_addedText {cs : List Clause} (hcs : ∀ c ∈ cs, Legible c) {v : Var}
    (hv : isPlain v = true) : hasVar (addedText cs) v = true ↔ ∃ c ∈ cs, v ∈ c.vars := by
  have hreadable : Token.Readable (Query.clauseTokens cs) := by
    apply Token.readable_append_flatMap (f := fun c : Clause => .mark ' ' :: c.tokens)
      (by decide) Token.readable_nil
    intro c hc
    exact Token.readable_mark_cons.2 ⟨by decide, Clause.readable_tokens (hcs c hc).wellNamed⟩
  have hmem {s : String} : .word s ∈ Query.clauseTokens cs ↔ ∃ c ∈ cs, .word s ∈ c.tokens := by
    simp [Query.clauseTokens]
  have hwords : ∀ s, .word s ∈ Query.clauseTokens cs → Scannable s := by
    intro s hs
    obtain ⟨c, hc, hs⟩ := hmem.1 hs
    exact (hcs c hc).scannable hs
  rw [addedText, ← Query.spell_clauseTokens, hasVar,
    hasSymbolFrom_spell hv hreadable hwords fun _ => rfl, decide_eq_true_iff, hmem]
  constructor
  · rintro ⟨c, hc, hs⟩
    exact ⟨c, hc, (hcs c hc).text_mem_tokens.1 hs⟩
  · rintro ⟨c, hc, hmem⟩
    exact ⟨c, hc, (hcs c hc).text_mem_tokens.2 hmem⟩

/-- What is added leaves no bracket open. -/
theorem complete_addedText {cs : List Clause} (h : ∀ c ∈ cs, c.isWellNamed = true) :
    Complete (addedText cs) := by
  rw [addedText, ← Query.spell_clauseTokens]
  exact complete_clauses h

/-- What is added does not continue a name before it. -/
theorem head?_addedText (cs : List Clause) :
    (addedText cs).head?.any isSymbolChar = false := by
  have hline : isSymbolChar '\n' = false := isSymbolChar_of_isMark (by decide)
  cases cs with
  | nil => rfl
  | cons c cs => exact hline

theorem addedText_append (cs ds : List Clause) :
    addedText (cs ++ ds) = addedText cs ++ addedText ds :=
  List.flatMap_append

def entities : List Var :=
  [⟨"b"⟩, ⟨"p"⟩]

theorem mem_entities {blockIds pageIds : List String} {t : Var × List String}
    (ht : t ∈ targets blockIds pageIds) : t.1 ∈ entities := by
  simp only [targets, List.mem_cons, List.not_mem_nil, or_false] at ht
  rcases ht with rfl | rfl
  · exact List.mem_cons_self
  · exact List.mem_cons_of_mem _ List.mem_cons_self

theorem isPlain_of_owns {entity v : Var} (hentity : entity ∈ entities)
    (hv : Scope.Owns entity v) : isPlain v = true ∧ isName v.text = true := by
  have hall : ∀ e ∈ entities, ∀ w ∈ [e, Scope.uuidVar e, Scope.idVar e],
      isPlain w = true ∧ isName w.text = true := by decide
  apply hall entity hentity
  rcases hv with rfl | rfl | rfl <;> simp

/-- The clauses of a restriction have names that a scan reads as they are. -/
theorem legible_of_mem_restriction {present : Var → Bool} {entity : Var} {ids : List String}
    (hentity : entity ∈ entities) {c : Clause} (hc : c ∈ Scope.restriction present entity ids) :
    Legible c := by
  have hnames : ∀ s ∈ Scope.restrictionNames,
      isQuiet none s.toList = true ∧ isRuleName s = true := by decide
  have hsubset := Scope.names_subset_of_mem_restriction hc
  have hvars (v : Var) (hv : v ∈ c.vars) : isPlain v = true ∧ isName v.text = true :=
    isPlain_of_owns hentity (Scope.owns_of_mem_restriction hc hv)
  refine ⟨?_, fun v hv => (hvars v hv).1, fun s hs => (hnames s (hsubset hs)).1⟩
  exact Clause.isWellNamed_of_names (fun v hv => (hvars v hv).2)
    fun s hs => (hnames s (hsubset hs)).2

theorem legible_of_mem_clausesFor {text : List Char} {blockIds pageIds : List String} {c : Clause}
    (hc : c ∈ clausesFor text blockIds pageIds) : Legible c := by
  obtain ⟨t, ht, hc⟩ := List.mem_flatMap.1 hc
  exact legible_of_mem_restriction (mem_entities ht) hc

/-- A text is another one with more at the end of its `:where` block. -/
def Extends (text added out : List Char) : Prop :=
  ∃ before block after, WhereBlock text before block after ∧
    WhereBlock out before (block ++ added) after

namespace Extends

variable {text mid out : List Char}

theorem out_eq {added : List Char} (h : Extends text added out) :
    ∃ k, whereEnd text = some k ∧ out = text.take k ++ added ++ text.drop k := by
  obtain ⟨before, block, after, hold, hnew⟩ := h
  have htext : text = (before ++ (":where".toList ++ block)) ++ ']' :: after := by
    simp [hold.text_eq]
  refine ⟨_, hold.ends, ?_⟩
  rw [htext, List.take_left, List.drop_left, hnew.text_eq]
  simp

/-- What was added can be added in two steps. -/
theorem cancel {x y : List Char} (hout : Extends text (x ++ y) out) (hmid : Extends text x mid) :
    Extends mid y out := by
  obtain ⟨before, block, after, hold, hnew⟩ := hout
  obtain ⟨before', block', after', hold', hnew'⟩ := hmid
  obtain ⟨rfl, rfl, rfl⟩ := hold.unique hold'
  rw [← List.append_assoc] at hnew
  exact ⟨before, block ++ x, after, hnew', hnew⟩

/-- A scan finds in the extended text what it found before and what was added. -/
theorem hasVar_iff {cs : List Clause} (h : Extends text (addedText cs) out)
    (hcs : ∀ c ∈ cs, Legible c) {v : Var} (hv : isPlain v = true) :
    hasVar out v = true ↔ hasVar text v = true ∨ ∃ c ∈ cs, v ∈ c.vars := by
  obtain ⟨before, block, after, hold, hnew⟩ := h
  have hcomplete := complete_addedText fun c hc => (hcs c hc).wellNamed
  rw [hnew.text_eq, hold.hasVar_extend hv hcomplete (head?_addedText cs), Bool.or_eq_true,
    hasVar_addedText hcs hv]

end Extends

theorem exists_extends {text : List Char} {k : Nat} (h : whereEnd text = some k) {cs : List Clause}
    (hcs : ∀ c ∈ cs, c.isWellNamed = true) : ∃ out, Extends text (addedText cs) out := by
  obtain ⟨before, block, after, hblock, -⟩ := exists_whereBlock h
  exact ⟨_, before, block, after, hblock,
    hblock.extend (complete_addedText hcs) (head?_addedText cs)⟩

/-- Well-named clauses extend a text by standing where its block of conditions ends. -/
theorem extends_iff {text out : List Char} {cs : List Clause}
    (hcs : ∀ c ∈ cs, c.isWellNamed = true) :
    Extends text (addedText cs) out ↔ ∃ k, whereEnd text = some k ∧
      out = text.take k ++ addedText cs ++ text.drop k := by
  constructor
  · exact Extends.out_eq
  · rintro ⟨k, hend, rfl⟩
    obtain ⟨out, hout⟩ := exists_extends hend hcs
    obtain ⟨k', hend', rfl⟩ := hout.out_eq
    obtain rfl := Option.some.inj (hend.symm.trans hend')
    exact hout

/-- With identifiers, the clauses extend the `:where` block. -/
theorem restricted_eq_ok_iff_extends {text out : List Char} {blockIds pageIds : List String}
    (hlists : blockIds ≠ [] ∨ pageIds ≠ []) :
    restricted text blockIds pageIds = .ok out ↔ HasTargets text blockIds pageIds ∧
      Extends text (addedText (clausesFor text blockIds pageIds)) out := by
  rw [restricted_eq_ok_iff, extends_iff fun c hc => (legible_of_mem_clausesFor hc).wellNamed]
  constructor
  · rintro (⟨hblocks, hpages, -⟩ | ⟨-, htargets, hout⟩)
    · exact absurd hlists (by simp [hblocks, hpages])
    · exact ⟨htargets, hout⟩
  · exact fun h => .inr ⟨hlists, h⟩

/-- The page is looked for in the same way when the block has been restricted. -/
theorem hasVar_page {text mid : List Char} {blockIds : List String}
    (h : Extends text (addedText (Scope.restriction (hasVar text) ⟨"b"⟩ blockIds)) mid) {v : Var}
    (hv : Scope.Owns ⟨"p"⟩ v) : hasVar mid v = hasVar text v := by
  have hplain := (isPlain_of_owns (List.mem_cons_of_mem _ List.mem_cons_self) hv).1
  have hother : ¬Scope.Owns ⟨"b"⟩ v := by
    rintro (rfl | rfl | rfl) <;> rcases hv with hv | hv | hv <;> revert hv <;> decide
  rw [Bool.eq_iff_iff, h.hasVar_iff (fun c hc =>
    legible_of_mem_restriction List.mem_cons_self hc) hplain]
  constructor
  · rintro (hvar | ⟨c, hc, hmem⟩)
    · exact hvar
    · exact absurd (Scope.owns_of_mem_restriction hc hmem) hother
  · exact .inl

/-- Restricting to blocks and pages is restricting to blocks and then to pages. -/
theorem restricted_pages {text mid out : List Char} {blockIds pageIds : List String}
    (hpages : pageIds ≠ []) (hout : restricted text blockIds pageIds = .ok out)
    (hmid : restricted text blockIds [] = .ok mid) (hblocks : blockIds ≠ []) :
    restricted mid [] pageIds = .ok out := by
  obtain ⟨htargets, hextends⟩ := (restricted_eq_ok_iff_extends (.inl hblocks)).1 hout
  obtain ⟨-, hfirst⟩ := (restricted_eq_ok_iff_extends (.inl hblocks)).1 hmid
  rw [clausesFor_eq, addedText_append] at hextends
  rw [clausesFor_eq, Scope.restriction_nil, List.append_nil] at hfirst
  have hsame := fun v (hv : Scope.Owns ⟨"p"⟩ v) => hasVar_page hfirst hv
  apply (restricted_eq_ok_iff_extends (.inr hpages)).2
  constructor
  · rw [hasTargets_iff] at htargets ⊢
    refine ⟨fun hentry => absurd hentry Scope.not_hasEntry_nil, ?_⟩
    intro hentry
    rw [hsame _ (.inl rfl)]
    exact htargets.2 hentry
  · rw [clausesFor_eq, Scope.restriction_nil, List.nil_append,
      Scope.restriction_congr (hsame _ (.inr (.inr rfl))) (hsame _ (.inr (.inl rfl)))]
    exact hextends.cancel hfirst

theorem exists_restricted_blocks {text out : List Char} {blockIds pageIds : List String}
    (hblocks : blockIds ≠ []) (hout : restricted text blockIds pageIds = .ok out) :
    ∃ mid, restricted text blockIds [] = .ok mid := by
  obtain ⟨htargets, hextends⟩ := (restricted_eq_ok_iff_extends (.inl hblocks)).1 hout
  obtain ⟨k, hend, -⟩ := hextends.out_eq
  have hnamed : ∀ c ∈ clausesFor text blockIds [], c.isWellNamed = true :=
    fun c hc => (legible_of_mem_clausesFor hc).wellNamed
  obtain ⟨mid, hmid⟩ := exists_extends hend hnamed
  refine ⟨mid, (restricted_eq_ok_iff_extends (.inl hblocks)).2 ⟨?_, hmid⟩⟩
  rw [hasTargets_iff] at htargets ⊢
  exact ⟨htargets.1, fun hentry => absurd hentry Scope.not_hasEntry_nil⟩

/-- The tests of the identifiers in two lists, where a list has any. -/
def tests (blockIds pageIds : List String) : List Clause :=
  (targets blockIds pageIds).filterMap fun t => Scope.membership? (Scope.idVar t.1) t.2

theorem tests_eq (blockIds pageIds : List String) :
    tests blockIds pageIds = (Scope.membership? (Scope.idVar ⟨"b"⟩) blockIds).toList ++
      (Scope.membership? (Scope.idVar ⟨"p"⟩) pageIds).toList := by
  simp [tests, targets, List.filterMap_eq_flatMap_toList]

/-- A variable that was restricted has its identifier in the text. -/
theorem hasVar_idVar {text out : List Char} {blockIds pageIds : List String}
    (h : Extends text (addedText (clausesFor text blockIds pageIds)) out) {entity : Var}
    {ids : List String} (ht : (entity, ids) ∈ targets blockIds pageIds)
    (hentry : Scope.HasEntry ids) : hasVar out (Scope.idVar entity) = true := by
  have hplain := (isPlain_of_owns (mem_entities ht) (.inr (.inr rfl))).1
  obtain ⟨c, hc, hmem⟩ := Scope.exists_idVar_mem_restriction hentry (hasVar text) entity
  apply (h.hasVar_iff (fun c hc => legible_of_mem_clausesFor hc) hplain).2
  exact .inr ⟨c, List.mem_flatMap.2 ⟨(entity, ids), ht, hc⟩, hmem⟩

/-- A text that was restricted is restricted again by tests alone, as far as the lists then had
entries. -/
theorem restricted_again {text out : List Char} {blockIds pageIds blockIds' pageIds' : List String}
    (hlists : blockIds ≠ [] ∨ pageIds ≠ []) (hout : restricted text blockIds pageIds = .ok out)
    (hblocks : Scope.HasEntry blockIds' → Scope.HasEntry blockIds)
    (hpages : Scope.HasEntry pageIds' → Scope.HasEntry pageIds) :
    ∃ k, whereEnd out = some k ∧ restricted out blockIds' pageIds' =
      .ok (out.take k ++ addedText (tests blockIds' pageIds') ++ out.drop k) := by
  obtain ⟨htargets, hextends⟩ := (restricted_eq_ok_iff_extends hlists).1 hout
  rw [hasTargets_iff] at htargets
  have hend : ∃ k, whereEnd out = some k := by
    obtain ⟨before, block, after, -, hnew⟩ := hextends
    exact ⟨_, hnew.ends⟩
  obtain ⟨k, hk⟩ := hend
  refine ⟨k, hk, restricted_eq_ok_iff.2 ?_⟩
  by_cases hempty : blockIds' = [] ∧ pageIds' = []
  · obtain ⟨rfl, rfl⟩ := hempty
    exact .inl ⟨rfl, rfl, List.append_nil _ ▸ List.take_append_drop k out⟩
  · -- The variables are still there, and now their identifiers are there as well.
    have hkept (v : Var) (hv : v ∈ entities) (hvar : hasVar text v = true) :
        hasVar out v = true := by
      have hplain : isPlain v = true := (isPlain_of_owns hv (.inl rfl)).1
      exact (hextends.hasVar_iff (fun c hc => legible_of_mem_clausesFor hc) hplain).2 (.inl hvar)
    have hclauses : clausesFor out blockIds' pageIds' = tests blockIds' pageIds' := by
      rw [clausesFor_eq, tests_eq]
      congr 1
      · have hblock : (⟨"b"⟩, blockIds) ∈ targets blockIds pageIds := List.mem_cons_self
        apply Scope.restriction_eq_membership?
        exact fun h => hasVar_idVar hextends hblock (hblocks h)
      · have hpage : (⟨"p"⟩, pageIds) ∈ targets blockIds pageIds :=
          List.mem_cons_of_mem _ List.mem_cons_self
        apply Scope.restriction_eq_membership?
        exact fun h => hasVar_idVar hextends hpage (hpages h)
    refine .inr ⟨not_and_or.1 hempty, ?_, k, hk, by rw [hclauses]⟩
    rw [hasTargets_iff]
    constructor
    · exact fun h => hkept _ List.mem_cons_self (htargets.1 (hblocks h))
    · exact fun h => hkept _ (List.mem_cons_of_mem _ List.mem_cons_self) (htargets.2 (hpages h))

/-- A text that can be restricted to blocks and pages can be restricted to the blocks first and then
to the pages, with the same result. When it has been restricted it can be again, for all that had
entries, and then only the tests are added. -/
theorem inject_inject {text out : String} {blockIds pageIds : List String}
    (h : inject text blockIds pageIds = (out, none)) :
    (∃ mid, inject text blockIds [] = (mid, none) ∧ inject mid [] pageIds = (out, none)) ∧
    (blockIds ≠ [] ∨ pageIds ≠ [] → ∀ blockIds' pageIds' : List String,
      (Scope.HasEntry blockIds' → Scope.HasEntry blockIds) →
      (Scope.HasEntry pageIds' → Scope.HasEntry pageIds) →
      ∃ k, whereEnd out.toList = some k ∧ inject out blockIds' pageIds' =
        (String.ofList (out.toList.take k ++ addedText (tests blockIds' pageIds') ++
          out.toList.drop k), none)) := by
  have hout := inject_eq_iff.1 h
  constructor
  · -- Without blocks the first pass leaves the text alone, without pages the second.
    by_cases hblocks : blockIds = []
    · subst hblocks
      exact ⟨text, inject_eq_iff.2 rfl, h⟩
    · by_cases hpages : pageIds = []
      · subst hpages
        exact ⟨out, h, inject_eq_iff.2 rfl⟩
      · obtain ⟨mid, hmid⟩ := exists_restricted_blocks hblocks hout
        refine ⟨String.ofList mid, inject_eq_iff.2 ?_, inject_eq_iff.2 ?_⟩
        · rw [String.toList_ofList]
          exact hmid
        · rw [String.toList_ofList]
          exact restricted_pages hpages hout hmid hblocks
  · intro hlists blockIds' pageIds' hblocks hpages
    obtain ⟨k, hend, hagain⟩ := restricted_again hlists hout hblocks hpages
    refine ⟨k, hend, inject_eq_iff.2 ?_⟩
    rw [String.toList_ofList]
    exact hagain

/-- Identifiers that look like the text around them. -/
theorem inject_inject_brackets :
    let text := "[:find ?b :where [?b :block/page ?p] [?p :block/uuid ?p-uuid]]"
    let out := "[:find ?b :where [?b :block/page ?p] [?p :block/uuid ?p-uuid]" ++
      "\n [?b :block/uuid ?b-uuid]\n [(str ?b-uuid) ?b-id]\n [(= ?b-id \"\\\"] ?p-id\")]" ++
      "\n [(str ?p-uuid) ?p-id]\n [(= ?p-id \":where (\")]]"
    inject text ["\"] ?p-id"] [":where ("] = (out, none) ∧
    (∃ mid, inject text ["\"] ?p-id"] [] = (mid, none) ∧
      inject mid [] [":where ("] = (out, none)) ∧
    ∃ k, whereEnd out.toList = some k ∧ inject out [")"] [" "] =
      (String.ofList (out.toList.take k ++ addedText (tests [")"] [" "]) ++
        out.toList.drop k), none) := by
  intro text out
  have hinject : inject text ["\"] ?p-id"] [":where ("] = (out, none) := by decide +kernel
  have hentry : Scope.HasEntry ["\"] ?p-id"] := ⟨_, List.mem_cons_self, by decide⟩
  have hblank : ¬Scope.HasEntry [" "] := by
    rintro ⟨entry, hentry, hblank⟩
    obtain rfl := List.mem_singleton.1 hentry
    exact hblank (by decide)
  obtain ⟨hmid, hagain⟩ := inject_inject hinject
  exact ⟨hinject, hmid, hagain (.inl (List.cons_ne_nil _ _)) [")"] [" "] (fun _ => hentry)
    fun h => absurd h hblank⟩

end QueryText

end OutlineQuery
