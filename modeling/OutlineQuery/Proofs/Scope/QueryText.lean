import OutlineQuery.Proofs.Datalog.Scoping
import OutlineQuery.Proofs.Scope.Scanning

/-!
Restricting the text of a query. Where scans find in the text what the query has, restricting the
text gives the text of the restricted query.
-/
namespace OutlineQuery.QueryText

open Datalog (Var Clause Query Token isName)
open Datalog.Token (spell)

/-- A query without rules in whose text scans find its variables. Results are among the variables of
its clauses. -/
structure Scanned (q : Query) : Prop where
  wellFormed : q.WellFormed
  rules : q.rules = []
  find : ∀ v ∈ q.find, q.mentions v = true
  vars : ∀ c ∈ q.clauses, ∀ v ∈ c.vars, isPlain v = true
  names : ∀ c ∈ q.clauses, ∀ s ∈ c.names, isQuiet none s.toList = true

namespace Scanned

variable {q : Query}

theorem isPlain_of_mentions (h : Scanned q) {v : Var} (hv : q.mentions v = true) :
    isPlain v = true := by
  obtain ⟨c, hc, hv⟩ := Query.mentions_iff.1 hv
  exact h.vars c hc v hv

/-- The words of the text are the results, the words of clauses and two keywords. -/
theorem word_mem_tokens (h : Scanned q) {s : String} :
    .word s ∈ q.tokens ↔ s = ":find" ∨ (∃ v ∈ q.find, s = v.text) ∨ s = ":where" ∨
      ∃ c ∈ q.clauses, .word s ∈ c.tokens := by
  rw [tokens_eq_openTokens h.rules]
  simp [openTokens, Query.clauseTokens, Var.word_mem_tokens]

theorem legible (h : Scanned q) {c : Clause} (hc : c ∈ q.clauses) : Legible c :=
  ⟨h.wellFormed.clauses c hc, h.vars c hc, h.names c hc⟩

theorem scannable (h : Scanned q) {s : String} (hs : .word s ∈ q.tokens) : Scannable s := by
  rcases h.word_mem_tokens.1 hs with rfl | ⟨v, hv, rfl⟩ | rfl | ⟨c, hc, hs⟩
  · exact .inl (by decide)
  · exact .inr ⟨v, h.isPlain_of_mentions (h.find v hv), rfl⟩
  · exact .inl (by decide)
  · exact (h.legible hc).scannable hs

/-- The variables among the words of the text are those of the clauses. -/
theorem text_mem_tokens (h : Scanned q) {v : Var} :
    .word v.text ∈ q.tokens ↔ q.mentions v = true := by
  constructor
  · intro hs
    rcases h.word_mem_tokens.1 hs with hs | ⟨w, hw, hs⟩ | hs | ⟨c, hc, hs⟩
    · exact absurd hs (text_ne_of_isQuiet (by decide))
    · rw [Var.text_injective hs]
      exact h.find w hw
    · exact absurd hs (text_ne_of_isQuiet (by decide))
    · exact Query.mentions_iff.2 ⟨c, hc, (h.legible hc).text_mem_tokens.1 hs⟩
  · intro hv
    obtain ⟨c, hc, hv⟩ := Query.mentions_iff.1 hv
    exact h.word_mem_tokens.2 (.inr (.inr (.inr ⟨c, hc, Clause.text_mem_tokens hv⟩)))

/-- A scan finds a variable in the text exactly if the query has it. -/
theorem hasVar_render (h : Scanned q) {v : Var} (hv : isPlain v = true) :
    hasVar q.render.toList v = q.mentions v := by
  rw [hasVar, Query.toList_render, hasSymbolFrom_spell hv h.wellFormed.readable_tokens
    (fun _ hs => h.scannable hs) (fun _ => rfl), Bool.eq_iff_iff, decide_eq_true_iff,
    h.text_mem_tokens]

/-- The text of a query is open before its last character. -/
theorem toList_render (h : Scanned q) :
    q.render.toList = spell (openTokens q.find q.clauses) ++ [']'] := by
  rw [Query.toList_render, tokens_eq_openTokens h.rules, Token.spell_append]
  rfl

/-- The block of conditions of a rendered query ends where its last clause does. -/
theorem whereEnd_render (h : Scanned q) :
    whereEnd q.render.toList = some (spell (openTokens q.find q.clauses)).length := by
  rw [h.toList_render]
  apply whereEnd_openTokens _ h.wellFormed.clauses
  intro v hv
  have hplain := isSymbolChar_of_mem_text (h.isPlain_of_mentions (h.find v hv))
  have hcolon : isSymbolChar ':' = false := by decide
  constructor
  · intro hc
    rw [hplain _ hc] at hcolon
    cases hcolon
  · intro hc
    have hquote := isSymbolChar_quote
    rw [hplain _ hc] at hquote
    cases hquote

/-- Clauses that are added stand between the last clause and the closing bracket. -/
theorem toList_render_append (h : Scanned q) (cs : List Clause) :
    (q.append cs).render.toList =
      spell (openTokens q.find q.clauses) ++ addedText cs ++ [']'] := by
  have htokens := tokens_eq_openTokens (show (q.append cs).rules = [] from h.rules)
  rw [Query.toList_render, htokens]
  simp only [Query.append, openTokens_append, Token.spell_append, Query.spell_clauseTokens]
  rfl

/-- Adding clauses to the text where its `:where` block ends adds them to the query. -/
theorem restricted_render (h : Scanned q) {blockIds pageIds : List String} {cs : List Clause}
    (hadded : added q.render.toList blockIds pageIds = .ok cs) :
    restricted q.render.toList blockIds pageIds = .ok (q.append cs).render.toList := by
  rw [restricted, h.whereEnd_render, hadded]
  split
  · rename_i hempty
    simp only [Bool.and_eq_true, List.isEmpty_iff] at hempty
    obtain ⟨rfl, rfl⟩ := hempty
    obtain rfl : [] = cs := Except.ok.inj hadded
    simp [Query.append]
  · simp only [bind, Except.bind, pure, Except.pure]
    rw [h.toList_render_append, h.toList_render, List.take_left, List.drop_left]

/-- What is added for an entity of the query is what restricts it in the query. -/
theorem addedFor_render (h : Scanned q) {entity : Var} {ids : List String}
    (hid : isPlain (Scope.idVar entity) = true) (huuid : isPlain (Scope.uuidVar entity) = true)
    (hentity : Scope.membership? (Scope.idVar entity) ids ≠ none → q.mentions entity = true) :
    addedFor q.render.toList entity ids = .ok (Scope.restriction q.mentions entity ids) := by
  have hneeds : Scope.idClauses (hasVar q.render.toList) entity =
      Scope.idClauses q.mentions entity := by
    rw [Scope.idClauses, Scope.idClauses, h.hasVar_render hid, h.hasVar_render huuid]
  rw [addedFor, Scope.restriction, Scope.restriction]
  rcases htest : Scope.membership? (Scope.idVar entity) ids with _ | test
  · rfl
  · have hmentions := hentity (by simp [htest])
    have hvar := h.hasVar_render (h.isPlain_of_mentions hmentions)
    simp only [hvar, hmentions, if_true, hneeds]

/-- Restricting the text restricts the query, if the query has what there are identifiers for. -/
theorem inject_render (h : Scanned q) (blockIds pageIds : List String)
    (hblock : Scope.membership? (Scope.idVar ⟨"b"⟩) blockIds ≠ none → q.mentions ⟨"b"⟩ = true)
    (hpage : Scope.membership? (Scope.idVar ⟨"p"⟩) pageIds ≠ none → q.mentions ⟨"p"⟩ = true) :
    inject q.render blockIds pageIds =
      ((q.append (Scope.restriction q.mentions ⟨"b"⟩ blockIds ++
        Scope.restriction q.mentions ⟨"p"⟩ pageIds)).render, none) := by
  have hadded : added q.render.toList blockIds pageIds = .ok
      (Scope.restriction q.mentions ⟨"b"⟩ blockIds ++
        Scope.restriction q.mentions ⟨"p"⟩ pageIds) := by
    rw [added, h.addedFor_render (by decide) (by decide) hblock,
      h.addedFor_render (by decide) (by decide) hpage]
    rfl
  rw [inject, h.restricted_render hadded]
  simp

end Scanned

end OutlineQuery.QueryText
