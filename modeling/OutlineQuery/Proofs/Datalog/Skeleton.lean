import OutlineQuery.Proofs.Datalog.WellFormed

/-!
The structure of a query text: what is left when every string literal in it is emptied. It depends
on the tokens of the text only up to what their literals stand for.
-/
namespace OutlineQuery.Datalog

open Token (spell)

namespace Position

/-- A text with its literals emptied: of a literal only the two quotes are left. -/
def emptyLiterals : Position → List Char → List Char
  | _, [] => []
  | p, c :: rest =>
    if p = code ∨ p.step c = code then c :: emptyLiterals (p.step c) rest
    else emptyLiterals (p.step c) rest

theorem Inside.ne_code {p : Position} {cs : List Char} (h : Inside p cs) : p ≠ code := by
  cases cs with
  | nil => exact h
  | cons c cs => exact h.1

/-- What is inside a literal goes. -/
theorem emptyLiterals_inside {p : Position} {cs : List Char} (h : Inside p cs) (rest : List Char) :
    emptyLiterals p (cs ++ rest) = emptyLiterals (p.after cs) rest := by
  induction cs generalizing p with
  | nil => rfl
  | cons c cs ih =>
    have hkept : ¬(p = code ∨ p.step c = code) := not_or.2 ⟨h.1, h.2.ne_code⟩
    rw [List.cons_append, emptyLiterals, if_neg hkept, ih h.2, after_cons]

/-- A literal is emptied as a whole, and the text after it is read as before. -/
theorem emptyLiterals_encode (cs rest : List Char) :
    emptyLiterals code (StringLiteral.encode cs ++ rest) =
      StringLiteral.encode [] ++ emptyLiterals code rest := by
  obtain ⟨hinside, hafter⟩ := inside_escapes cs
  have hbody := emptyLiterals_inside hinside ('"' :: rest)
  rw [hafter] at hbody
  simp [StringLiteral.encode, emptyLiterals, step, hbody]

/-- Code without quotes stays. -/
theorem emptyLiterals_code {cs : List Char} (h : '"' ∉ cs) (rest : List Char) :
    emptyLiterals code (cs ++ rest) = cs ++ emptyLiterals code rest := by
  induction cs with
  | nil => rfl
  | cons c cs ih =>
    simp only [List.mem_cons, not_or] at h
    have hstep := step_code (Ne.symm h.1)
    rw [List.cons_append, emptyLiterals, if_pos (.inl rfl), hstep, ih h.2, List.cons_append]

end Position

/-- A query text with its literals emptied. -/
def emptyLiterals (s : String) : String :=
  String.ofList (Position.code.emptyLiterals s.toList)

namespace Token

def emptied : Token → Token
  | literal _ => literal ""
  | t => t

/-- Emptying the literals of a text empties the literals among its tokens. -/
theorem emptyLiterals_spell {ts : List Token} (h : ∀ t ∈ ts, t.isProper = true) :
    Position.code.emptyLiterals (spell ts) = spell (ts.map emptied) := by
  induction ts with
  | nil => rfl
  | cons t ts ih =>
    obtain ⟨ht, hts⟩ := List.forall_mem_cons.1 h
    rw [spell_cons, List.map_cons, spell_cons, ← ih hts]
    cases t with
    | word s => exact Position.emptyLiterals_code (quote_not_mem_of_isName ht) _
    | literal s => exact Position.emptyLiterals_encode s.toList _
    | mark c =>
      have hc : '"' ∉ [c] := by simpa using (ne_quote_of_isMark ht).symm
      exact Position.emptyLiterals_code hc _

end Token

/-- Of a set only its size is left. -/
theorem Term.map_emptied_set {items items' : Text.StringSet}
    (h : items.toList.length = items'.toList.length) :
    (Term.set items).tokens.map Token.emptied = (Term.set items').tokens.map Token.emptied := by
  have hitems (l : List String) :
      (Token.joined Token.space (l.map ([.literal ·]))).map Token.emptied =
        Token.joined Token.space (List.replicate l.length [.literal ""]) := by
    cases l with
    | nil => rfl
    | cons s l =>
      simp only [List.map_cons, List.length_cons, List.replicate_succ, Token.joined_cons,
        List.map_append, List.map_flatMap, List.flatMap_map, ← List.map_const']
      rfl
  simp only [tokens, List.map_cons, List.map_append, hitems, h]

def Clause.skeleton (c : Clause) : List Token :=
  c.tokens.map Token.emptied

namespace Query

/-- Emptying the tokens of clauses leaves their skeletons, line by line. -/
theorem map_emptied_clauseTokens (cs : List Clause) :
    (clauseTokens cs).map Token.emptied =
      (cs.map Clause.skeleton).flatMap (.mark '\n' :: .mark ' ' :: ·) := by
  simp only [clauseTokens, List.map_flatMap, List.flatMap_map, List.map_cons, Token.emptied,
    Clause.skeleton]

/-- Queries that differ in literals only have the same text but for what is in literals. -/
theorem emptyLiterals_render_eq {q q' : Query} (hq : q.WellFormed) (hq' : q'.WellFormed)
    (hfind : q.find = q'.find) (hrules : q.rules = q'.rules)
    (hclauses : q.clauses.map Clause.skeleton = q'.clauses.map Clause.skeleton) :
    emptyLiterals q.render = emptyLiterals q'.render := by
  have hlines := congrArg (List.flatMap (.mark '\n' :: .mark ' ' :: ·)) hclauses
  rw [← map_emptied_clauseTokens, ← map_emptied_clauseTokens] at hlines
  have htokens : q.tokens.map Token.emptied = q'.tokens.map Token.emptied := by
    unfold tokens
    simp only [hrules]
    split <;> simp only [vectorTokens, inputTokens, hfind, hrules, List.map_append, List.map_cons,
      hlines]
  rw [emptyLiterals, emptyLiterals, toList_render, toList_render,
    Token.emptyLiterals_spell hq.readable_tokens.proper,
    Token.emptyLiterals_spell hq'.readable_tokens.proper, htokens]

end Query

end OutlineQuery.Datalog
