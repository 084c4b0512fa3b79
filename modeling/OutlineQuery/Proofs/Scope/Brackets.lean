import OutlineQuery.Proofs.Datalog.Names
import OutlineQuery.Scope.QueryText

/-!
Brackets in the text of a query. A text is matched when its brackets outside of string literals
close one another in pairs of one type. A search for a closing bracket passes over matched text,
and what the printer writes for clauses is matched.
-/
namespace OutlineQuery.QueryText

open Datalog (Position Var Term Call Clause Query Token isName isDelimiter)
open Datalog.Token (spell joined space)

def closer (o : Char) : Char :=
  if o = '[' then ']' else if o = '(' then ')' else '}'

/-- Every bracket outside of literals has its partner of the same type. A literal may be left open
at the end. -/
inductive Matched : Position → List Char → Prop
  | nil (p : Position) : Matched p []
  | skip {p : Position} {c : Char} {cs : List Char}
      (plain : p ≠ .code ∨ (isOpening c = false ∧ isClosing c = false))
      (rest : Matched (p.step c) cs) : Matched p (c :: cs)
  | pair {o : Char} {inner rest : List Char} (opening : isOpening o = true)
      (inner_matched : Matched .code inner) (inner_code : Position.code.after inner = .code)
      (rest_matched : Matched .code rest) : Matched .code (o :: (inner ++ closer o :: rest))

/-- Matched text in which no literal is left open. -/
structure Complete (cs : List Char) : Prop where
  matched : Matched .code cs
  code : Position.code.after cs = .code

theorem isOpening_cases {o : Char} (h : isOpening o = true) : o = '[' ∨ o = '(' ∨ o = '{' := by
  simp only [isOpening, Bool.or_eq_true, beq_iff_eq, or_assoc] at h
  exact h

theorem isClosing_closer {o : Char} (h : isOpening o = true) : isClosing (closer o) = true := by
  rcases isOpening_cases h with rfl | rfl | rfl <;> decide

theorem isOpening_of_isClosing {c : Char} (h : isClosing c = true) : isOpening c = false := by
  simp only [isClosing, Bool.or_eq_true, beq_iff_eq] at h
  rcases h with (rfl | rfl) | rfl <;> decide

/-- What a character is to the brackets at a position. -/
theorem bracket_cases (p : Position) (c : Char) :
    (p ≠ .code ∨ (isOpening c = false ∧ isClosing c = false)) ∨
      (p = .code ∧ isOpening c = true) ∨ (p = .code ∧ isClosing c = true) := by
  by_cases hp : p = .code
  · cases hopen : isOpening c with
    | true => exact .inr (.inl ⟨hp, rfl⟩)
    | false =>
      cases hclose : isClosing c with
      | true => exact .inr (.inr ⟨hp, rfl⟩)
      | false => exact .inl (.inr ⟨rfl, rfl⟩)
  · exact .inl (.inl hp)

/-- Of the three kinds only one closes the block of conditions. -/
theorem closer_eq_square_iff {o : Char} (h : isOpening o = true) : closer o = ']' ↔ o = '[' := by
  rcases isOpening_cases h with rfl | rfl | rfl <;> decide

theorem step_code_of_isOpening {c : Char} (h : isOpening c = true) :
    Position.code.step c = .code := by
  apply Position.step_code
  rintro rfl
  revert h
  decide

theorem step_code_of_isClosing {c : Char} (h : isClosing c = true) :
    Position.code.step c = .code := by
  apply Position.step_code
  rintro rfl
  revert h
  decide

/-- After a pair of brackets the text goes on as if there were none. -/
theorem after_pair {o : Char} {inner : List Char} (ho : isOpening o = true)
    (hinner : Position.code.after inner = .code) (rest : List Char) :
    Position.code.after (o :: (inner ++ closer o :: rest)) = Position.code.after rest := by
  rw [Position.after_cons, step_code_of_isOpening ho, Position.after_append, hinner,
    Position.after_cons, step_code_of_isClosing (isClosing_closer ho)]

namespace Matched

/-- Matched texts are matched together, with literals read on from one to the other. -/
theorem append {p : Position} {cs ds : List Char} (hcs : Matched p cs)
    (hds : Matched (p.after cs) ds) : Matched p (cs ++ ds) := by
  induction hcs with
  | nil p => exact hds
  | skip plain _ ih => exact .skip plain (ih hds)
  | @pair o inner rest opening inner_matched inner_code _ _ ih =>
    rw [after_pair opening inner_code] at hds
    rw [List.cons_append, List.append_assoc, List.cons_append]
    exact .pair opening inner_matched inner_code (ih hds)

end Matched

theorem map_add_map_add (o : Option Nat) (m k : Nat) :
    (o.map (· + m)).map (· + k) = o.map (· + (k + m)) := by
  rw [Option.map_map]
  congr 1
  funext i
  simp only [Function.comp_apply]
  omega

section Steps

variable {p : Position} {c : Char} {rest : List Char}

theorem closeFrom_skip (depth : Nat)
    (h : p ≠ .code ∨ (isOpening c = false ∧ isClosing c = false)) :
    closeFrom p depth (c :: rest) = (closeFrom (p.step c) depth rest).map (· + 1) := by
  rcases h with hp | ⟨hopen, hclose⟩
  · cases depth <;> simp [closeFrom, hp]
  · cases depth <;> simp [closeFrom, hopen, hclose]

theorem closeFrom_opening (depth : Nat) (h : isOpening c = true) :
    closeFrom .code depth (c :: rest) = (closeFrom .code (depth + 1) rest).map (· + 1) := by
  have hstep := step_code_of_isOpening h
  cases depth <;> simp [closeFrom, h, hstep]

theorem closeFrom_closing (depth : Nat) (h : isClosing c = true) :
    closeFrom .code (depth + 1) (c :: rest) = (closeFrom .code depth rest).map (· + 1) := by
  simp [closeFrom, h, isOpening_of_isClosing h, step_code_of_isClosing h]

/-- Where no bracket is open, the next closing one ends the search; it has to be a square one. -/
theorem closeFrom_end (h : isClosing c = true) :
    closeFrom .code 0 (c :: rest) = if c = ']' then some 0 else none := by
  simp [closeFrom, h, isOpening_of_isClosing h]

end Steps

/-- A search for the bracket that closes what a matched text stands in goes on after it. -/
theorem closeFrom_matched {p : Position} {cs : List Char} (h : Matched p cs) (depth : Nat)
    (rest : List Char) :
    closeFrom p depth (cs ++ rest) = (closeFrom (p.after cs) depth rest).map (· + cs.length) := by
  induction h generalizing depth rest with
  | nil p => simp
  | skip plain _ ih =>
    rw [List.cons_append, closeFrom_skip depth plain, ih, map_add_map_add, Position.after_cons,
      List.length_cons, Nat.add_comm]
  | @pair o inner tail opening _ inner_code _ ihinner ihtail =>
    have hclosing := isClosing_closer opening
    have hchars : o :: (inner ++ closer o :: tail) ++ rest =
        o :: (inner ++ closer o :: (tail ++ rest)) := by simp
    -- The depth goes up at the opening bracket and is back when the closing one has been passed.
    rw [hchars, closeFrom_opening depth opening, ihinner, inner_code,
      closeFrom_closing depth hclosing, ihtail, after_pair opening inner_code, map_add_map_add,
      map_add_map_add, map_add_map_add]
    simp only [List.length_cons, List.length_append]
    congr 2
    funext i
    omega

namespace Complete

theorem nil : Complete [] :=
  ⟨.nil _, rfl⟩

theorem append {cs ds : List Char} (hcs : Complete cs) (hds : Complete ds) :
    Complete (cs ++ ds) := by
  constructor
  · apply hcs.matched.append
    rw [hcs.code]
    exact hds.matched
  · rw [Position.after_append, hcs.code, hds.code]

theorem bracketed {cs : List Char} (hcs : Complete cs) {o : Char} (ho : isOpening o = true) :
    Complete (o :: (cs ++ [closer o])) := by
  constructor
  · exact .pair ho hcs.matched hcs.code (.nil _)
  · exact after_pair ho hcs.code []

theorem of_plain {cs : List Char}
    (h : ∀ c ∈ cs, (isOpening c = false ∧ isClosing c = false) ∧ c ≠ '"') : Complete cs := by
  induction cs with
  | nil => exact nil
  | cons c cs ih =>
    obtain ⟨⟨hbracket, hquote⟩, hcs⟩ := List.forall_mem_cons.1 h
    have hstep := Position.step_code hquote
    constructor
    · apply Matched.skip (.inr hbracket)
      rw [hstep]
      exact (ih hcs).matched
    · rw [Position.after_cons, hstep, (ih hcs).code]

end Complete

/-- Brackets in a literal do not count. -/
theorem Matched.of_inside {p : Position} {cs : List Char} (h : p.Inside cs) : Matched p cs := by
  induction cs generalizing p with
  | nil => exact .nil p
  | cons c cs ih => exact .skip (.inl h.1) (ih h.2)

/-- A literal is complete, whatever brackets it has in it. -/
theorem complete_encode (cs : List Char) : Complete (Datalog.StringLiteral.encode cs) := by
  obtain ⟨hinside, hafter⟩ := Position.inside_escapes cs
  have hopen : Position.code.step '"' = .literal := rfl
  constructor
  · apply Matched.skip (.inr (by decide))
    rw [hopen]
    apply (Matched.of_inside hinside).append
    rw [hafter]
    exact .skip (.inl (by decide)) (.nil _)
  · rw [Datalog.StringLiteral.encode, Position.after_cons, hopen, Position.after_append, hafter]
    rfl

/-! What the printer writes. -/

theorem complete_word {s : String} (h : isName s = true) : Complete s.toList := by
  apply Complete.of_plain
  intro c hc
  have hdelim := Datalog.not_isDelimiter_of_isName h hc
  simp only [isDelimiter, Bool.or_eq_false_iff, List.contains_eq_mem, decide_eq_false_iff_not,
    List.mem_cons, not_or] at hdelim
  simp [isOpening, isClosing, hdelim]

theorem complete_blank {c : Char} (h : c = ' ' ∨ c = '\n') : Complete [c] := by
  apply Complete.of_plain
  rw [List.forall_mem_singleton]
  rcases h with rfl | rfl <;> decide

theorem complete_flatMap {α : Type} {f : α → List Token} {xs : List α}
    (h : ∀ x ∈ xs, Complete (spell (f x))) : Complete (spell (xs.flatMap f)) := by
  induction xs with
  | nil => exact .nil
  | cons x xs ih =>
    obtain ⟨hx, hxs⟩ := List.forall_mem_cons.1 h
    rw [List.flatMap_cons, Token.spell_append]
    exact hx.append (ih hxs)

theorem complete_joined_space {ps : List (List Token)} (h : ∀ p ∈ ps, Complete (spell p)) :
    Complete (spell (joined space ps)) := by
  cases ps with
  | nil => exact .nil
  | cons p ps =>
    obtain ⟨hp, hps⟩ := List.forall_mem_cons.1 h
    rw [Token.joined_cons, Token.spell_append]
    apply hp.append
    apply complete_flatMap
    intro q hq
    rw [Token.spell_append]
    exact (complete_blank (.inl rfl)).append (hps q hq)

theorem complete_vars {vs : List Var} (h : ∀ v ∈ vs, isName v.text = true) :
    Complete (spell (Var.tokens vs)) := by
  apply complete_joined_space
  intro p hp
  obtain ⟨v, hv, rfl⟩ := List.mem_map.1 hp
  simpa [Token.chars] using complete_word (h v hv)

theorem complete_term {t : Term} (h : t.isWellNamed = true) : Complete (spell t.tokens) := by
  cases t with
  | var v => simpa [Term.tokens, Token.chars] using complete_word h
  | str s => simpa [Term.tokens, Token.chars] using complete_encode s.toList
  | bool b =>
    have hname : isName (if b then "true" else "false") = true := by cases b <;> decide
    simpa [Term.tokens, Token.chars] using complete_word hname
  | set items =>
    have hitems : Complete (spell (joined space (items.toList.map ([.literal ·])))) := by
      apply complete_joined_space
      intro p hp
      obtain ⟨s, -, rfl⟩ := List.mem_map.1 hp
      simpa [Token.chars] using complete_encode s.toList
    have hname : Complete "#".toList := complete_word (by decide)
    have hset := hname.append (hitems.bracketed (o := '{') (by decide))
    simpa [Term.tokens, Token.chars, closer] using hset

theorem complete_call {call : Call} (h : call.isWellNamed = true) :
    Complete (spell call.tokens) := by
  simp only [Call.isWellNamed, Bool.and_eq_true, List.all_eq_true] at h
  have hargs : Complete (spell (call.args.flatMap (.mark ' ' :: ·.tokens))) := by
    apply complete_flatMap
    intro t ht
    exact (complete_blank (.inl rfl)).append (complete_term (h.2 t ht))
  have hcall := ((complete_word h.1).append hargs).bracketed (o := '(') (by decide)
  simpa [Call.tokens, Token.chars, closer] using hcall

/-- Every clause stands in a pair of brackets. -/
theorem exists_bracketed_clause {c : Clause} (h : c.isWellNamed = true) :
    ∃ o inner, isOpening o = true ∧ Complete inner ∧
      spell c.tokens = o :: (inner ++ [closer o]) := by
  have hblank : Complete [' '] := complete_blank (.inl rfl)
  -- Branches and bodies stand side by side with blanks between them, each in its own brackets.
  have hnested {cs : List Clause} (hcs : ∀ c ∈ cs, ∃ o inner, isOpening o = true ∧
      Complete inner ∧ spell c.tokens = o :: (inner ++ [closer o])) :
      Complete (spell (joined space (Clause.tokensAll cs))) := by
    rw [Clause.tokensAll_eq_map]
    apply complete_joined_space
    intro p hp
    obtain ⟨c, hc, rfl⟩ := List.mem_map.1 hp
    obtain ⟨o, inner, ho, hinner, htokens⟩ := hcs c hc
    rw [htokens]
    exact hinner.bracketed ho
  induction c with
  | triple entity attr value =>
    simp only [Clause.isWellNamed, Bool.and_eq_true] at h
    have hinner := (complete_word h.1.1).append (hblank.append ((complete_word h.1.2).append
      (hblank.append (complete_term h.2))))
    exact ⟨'[', _, by decide, hinner, by simp [Clause.tokens, Token.chars, closer]⟩
  | binding call out =>
    simp only [Clause.isWellNamed, Bool.and_eq_true] at h
    have hinner := (complete_call h.1).append (hblank.append (complete_word h.2))
    exact ⟨'[', _, by decide, hinner, by simp [Clause.tokens, Token.chars, closer]⟩
  | test call =>
    exact ⟨'[', _, by decide, complete_call h, by simp [Clause.tokens, Token.chars, closer]⟩
  | orJoin shared branches ih =>
    simp only [Clause.isWellNamed, Bool.and_eq_true, Clause.allWellNamed_iff,
      List.all_eq_true] at h
    have hword : Complete "or-join".toList := complete_word (by decide)
    have hshared := (complete_vars h.1).bracketed (o := '[') (by decide)
    have hbranches := hnested fun c hc => ih c hc (h.2 c hc)
    have hinner := hword.append (hblank.append (hshared.append (hblank.append hbranches)))
    exact ⟨'(', _, by decide, hinner, by simp [Clause.tokens, Token.chars, closer]⟩
  | absent body ih =>
    simp only [Clause.isWellNamed, Clause.allWellNamed_iff] at h
    have hword : Complete "not".toList := complete_word (by decide)
    have hinner := hword.append (hblank.append (hnested fun c hc => ih c hc (h c hc)))
    exact ⟨'(', _, by decide, hinner, by simp [Clause.tokens, Token.chars, closer]⟩
  | rule name args =>
    simp only [Clause.isWellNamed, Bool.and_eq_true, List.all_eq_true] at h
    have hname := complete_word (Datalog.isName_of_isRuleName h.1)
    have hinner := hname.append (hblank.append (complete_vars h.2))
    exact ⟨'(', _, by decide, hinner, by simp [Clause.tokens, Token.chars, closer]⟩

/-- Well-named clauses are complete, each in brackets of its own. -/
theorem complete_clauses {cs : List Clause} (h : ∀ c ∈ cs, c.isWellNamed = true) :
    Complete (spell (Query.clauseTokens cs)) := by
  apply complete_flatMap
  intro c hc
  obtain ⟨o, inner, ho, hinner, htokens⟩ := exists_bracketed_clause (h c hc)
  have hline : Complete ("\n".toList ++ " ".toList) :=
    (complete_blank (.inr rfl)).append (complete_blank (.inl rfl))
  rw [Token.spell_cons, Token.spell_cons, htokens]
  exact hline.append (hinner.bracketed ho)

end OutlineQuery.QueryText
