import OutlineQuery.Proofs.Datalog.Lexing

/-!
Queries whose text can be read back. Every name in them can be read as a word, and rules are not
named like the two kinds of clauses that are written like calls of rules.
-/
namespace OutlineQuery.Datalog

open Token (joined space lineBreak Readable)

def isRuleName (s : String) : Bool :=
  isName s && s != "not" && s != "or-join"

namespace Term

def isWellNamed : Term → Bool
  | var v => isName v.text
  | _ => true

end Term

namespace Call

def isWellNamed (call : Call) : Bool :=
  isName call.func && call.args.all (·.isWellNamed)

end Call

namespace Clause

mutual

/-- Whether all names in a clause can be read back, nested clauses included. -/
def isWellNamed : Clause → Bool
  | triple entity attr value => isName entity.text && isName attr && value.isWellNamed
  | binding call out => call.isWellNamed && isName out.text
  | test call => call.isWellNamed
  | orJoin shared branches => shared.all (isName ·.text) && allWellNamed branches
  | absent body => allWellNamed body
  | rule name args => isRuleName name && args.all (isName ·.text)

def allWellNamed : List Clause → Bool
  | [] => true
  | c :: rest => isWellNamed c && allWellNamed rest

end

theorem allWellNamed_iff {cs : List Clause} :
    allWellNamed cs = true ↔ ∀ c ∈ cs, c.isWellNamed = true := by
  induction cs with
  | nil => simp [allWellNamed]
  | cons c rest ih => simp [allWellNamed, ih]

end Clause

/-- What it takes for the text of a query to be read back: names that can be read, no two rules of
one name, and no rule without a body. -/
structure Query.WellFormed (q : Query) : Prop where
  find : ∀ v ∈ q.find, isName v.text = true
  clauses : ∀ c ∈ q.clauses, c.isWellNamed = true
  ruleNames : ∀ r ∈ q.rules, isRuleName r.name = true
  params : ∀ r ∈ q.rules, ∀ v ∈ r.params, isName v.text = true
  bodies : ∀ r ∈ q.rules, ∀ body ∈ r.bodies, ∀ c ∈ body, c.isWellNamed = true
  distinct : (q.rules.map (·.name)).Nodup
  inhabited : ∀ r ∈ q.rules, r.bodies ≠ []

instance (q : Query) : Decidable q.WellFormed :=
  decidable_of_iff ((∀ v ∈ q.find, isName v.text = true) ∧
      (∀ c ∈ q.clauses, c.isWellNamed = true) ∧ (∀ r ∈ q.rules, isRuleName r.name = true) ∧
      (∀ r ∈ q.rules, ∀ v ∈ r.params, isName v.text = true) ∧
      (∀ r ∈ q.rules, ∀ body ∈ r.bodies, ∀ c ∈ body, c.isWellNamed = true) ∧
      (q.rules.map (·.name)).Nodup ∧ ∀ r ∈ q.rules, r.bodies ≠ [])
    ⟨fun ⟨hfind, hclauses, hnames, hparams, hbodies, hdistinct, hinhabited⟩ =>
      ⟨hfind, hclauses, hnames, hparams, hbodies, hdistinct, hinhabited⟩,
    fun h => ⟨h.find, h.clauses, h.ruleNames, h.params, h.bodies, h.distinct, h.inhabited⟩⟩

theorem isName_of_isRuleName {s : String} (h : isRuleName s = true) : isName s = true := by
  simp only [isRuleName, Bool.and_eq_true] at h
  exact h.1.1

theorem Var.readable_tokens {vs : List Var} (h : ∀ v ∈ vs, isName v.text = true) :
    Readable (Var.tokens vs) := by
  apply Token.readable_joined_space
  intro p hp
  obtain ⟨v, hv, rfl⟩ := List.mem_map.1 hp
  exact Token.readable_singleton.2 (h v hv)

/-- Literals are readable whatever they contain; only names have to be checked. -/
theorem Term.readable_tokens {t : Term} (h : t.isWellNamed = true) : Readable t.tokens := by
  cases t with
  | var v => exact Token.readable_singleton.2 h
  | str s => exact Token.readable_singleton.2 rfl
  | bool b => cases b <;> exact Token.readable_singleton.2 (by decide)
  | set items =>
    have hitems : Readable (joined space (items.toList.map ([.literal ·]))) := by
      apply Token.readable_joined_space
      intro p hp
      obtain ⟨s, -, rfl⟩ := List.mem_map.1 hp
      exact Token.readable_singleton.2 rfl
    have hname : isName "#" = true := by decide
    simp [tokens, isMark, hitems, hname]

theorem Call.readable_tokens {call : Call} (h : call.isWellNamed = true) :
    Readable call.tokens := by
  simp only [isWellNamed, Bool.and_eq_true, List.all_eq_true] at h
  have hfunc : Readable [.word call.func] := Token.readable_singleton.2 h.1
  have hargs : Readable ([.word call.func] ++ call.args.flatMap (.mark ' ' :: ·.tokens)) :=
    Token.readable_append_flatMap (by decide) hfunc fun t ht => Term.readable_tokens (h.2 t ht)
  have hclosed : Readable (([.word call.func] ++ call.args.flatMap (.mark ' ' :: ·.tokens)) ++
      [.mark ')']) := Token.readable_append_mark_cons.2 ⟨hargs, by decide, by simp⟩
  exact Token.readable_mark_cons.2 ⟨by decide, hclosed⟩

namespace Clause

theorem readable_joined_tokens {cs : List Clause} (h : ∀ c ∈ cs, Readable c.tokens) :
    Readable (joined space (tokensAll cs)) := by
  rw [tokensAll_eq_map]
  apply Token.readable_joined_space
  intro p hp
  obtain ⟨c, hc, rfl⟩ := List.mem_map.1 hp
  exact h c hc

/-- The tokens of a clause with proper names can be read back, at every depth. -/
theorem readable_tokens {c : Clause} (h : c.isWellNamed = true) : Readable c.tokens := by
  induction c with
  | triple entity attr value =>
    simp only [isWellNamed, Bool.and_eq_true] at h
    simp [tokens, isMark, h, Term.readable_tokens h.2]
  | binding call out =>
    simp only [isWellNamed, Bool.and_eq_true] at h
    simp [tokens, isMark, h, Call.readable_tokens h.1]
  | test call => simp [tokens, isMark, Call.readable_tokens h]
  | orJoin shared branches ih =>
    simp only [isWellNamed, Bool.and_eq_true, allWellNamed_iff, List.all_eq_true] at h
    have hbranches := readable_joined_tokens fun c hc => ih c hc (h.2 c hc)
    have hname : isName "or-join" = true := by decide
    simp [tokens, isMark, Var.readable_tokens h.1, hbranches, hname]
  | absent body ih =>
    simp only [isWellNamed, allWellNamed_iff] at h
    have hbody := readable_joined_tokens fun c hc => ih c hc (h c hc)
    have hname : isName "not" = true := by decide
    simp [tokens, isMark, hbody, hname]
  | rule name args =>
    simp only [isWellNamed, Bool.and_eq_true, List.all_eq_true] at h
    simp [tokens, isMark, isName_of_isRuleName h.1, Var.readable_tokens h.2]

end Clause

theorem Rule.readable_bodyTokens {name : String} {params : List Var} {body : List Clause}
    (hname : isRuleName name = true) (hparams : ∀ v ∈ params, isName v.text = true)
    (hbody : ∀ c ∈ body, c.isWellNamed = true) : Readable (bodyTokens name params body) := by
  have hclauses := Clause.readable_joined_tokens fun c hc => Clause.readable_tokens (hbody c hc)
  simp [bodyTokens, isMark, isName_of_isRuleName hname, Var.readable_tokens hparams, hclauses]

namespace Query

theorem WellFormed.readable_vectorTokens {q : Query} (h : q.WellFormed) :
    Readable q.vectorTokens := by
  have hfind : Readable (Var.tokens q.find ++ q.inputTokens) := by
    have hin : isName ":in" = true := by decide
    have hstore : isName "$" = true := by decide
    have hrules : isName "%" = true := by decide
    unfold inputTokens
    split
    · simpa using Var.readable_tokens h.find
    · simp [isMark, Token.isProper, Var.readable_tokens h.find, hin, hstore, hrules]
  have hwhere : Readable ([.word ":where"] ++ clauseTokens q.clauses) := by
    have hlines : ∀ c ∈ q.clauses, Readable (.mark ' ' :: c.tokens) := fun c hc =>
      Token.readable_mark_cons.2 ⟨by decide, Clause.readable_tokens (h.clauses c hc)⟩
    exact Token.readable_append_flatMap (by decide) (Token.readable_singleton.2 (by decide)) hlines
  have hclosed : Readable (([.word ":where"] ++ clauseTokens q.clauses) ++ [.mark ']']) :=
    Token.readable_append_mark_cons.2 ⟨hwhere, by decide, by simp⟩
  have hlines : Readable ((Var.tokens q.find ++ q.inputTokens) ++ .mark '\n' :: .mark ' ' ::
      (([.word ":where"] ++ clauseTokens q.clauses) ++ [.mark ']'])) :=
    Token.readable_append_mark_cons.2
      ⟨hfind, by decide, Token.readable_mark_cons.2 ⟨by decide, hclosed⟩⟩
  rw [List.append_assoc] at hlines
  exact Token.readable_mark_cons.2
    ⟨by decide, Token.readable_word_mark_cons.2 ⟨by decide, by decide, hlines⟩⟩

/-- A well-formed query can be read back token by token. -/
theorem WellFormed.readable_tokens {q : Query} (h : q.WellFormed) : Readable q.tokens := by
  have hrules : Readable (joined lineBreak (q.rules.flatMap Rule.tokens)) := by
    apply Token.readable_joined_lineBreak
    intro p hp
    obtain ⟨r, hr, hp⟩ := List.mem_flatMap.1 hp
    obtain ⟨body, hbody, rfl⟩ := List.mem_map.1 hp
    exact Rule.readable_bodyTokens (h.ruleNames r hr) (h.params r hr) (h.bodies r hr body hbody)
  have hquery : isName ":query" = true := by decide
  have hname : isName ":rules" = true := by decide
  unfold tokens
  split
  · exact h.readable_vectorTokens
  · simp [isMark, Token.isProper, h.readable_vectorTokens, hrules, hquery, hname]

end Query

end OutlineQuery.Datalog
