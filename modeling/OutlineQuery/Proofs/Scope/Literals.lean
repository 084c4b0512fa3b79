import OutlineQuery.Proofs.Datalog.Skeleton
import OutlineQuery.Proofs.Scope.Places

/-!
Literals in query text mark their own ends. Whatever text a literal stands for and whatever follows
it, a reader gets that text back and stops behind the closing quote, and the scans of query text are
outside of literals again at just that place: nothing between the quotes is code to them.
-/
namespace OutlineQuery.QueryText

open Datalog (Position Var)
open Datalog.StringLiteral (decode encode escape quote)

theorem toList_quote (s : String) : (quote s).toList = encode s.toList :=
  String.toList_ofList

/-- A scan is outside of a literal at its two ends and nowhere between them. -/
theorem after_cut_encode {cs u v : List Char} (h : encode cs = u ++ v) :
    Position.code.after u = .code ↔ u = [] ∨ v = [] := by
  cases u with
  | nil => simp
  | cons c u =>
    obtain ⟨rfl, hbody⟩ : '"' = c ∧ cs.flatMap escape ++ ['"'] = u ++ v := by
      simpa [encode] using h
    rcases List.eq_nil_or_concat v with rfl | ⟨w, d, rfl⟩
    · rw [List.append_nil] at h
      simp [← h, (complete_encode cs).code]
    · -- The cut is before the closing quote, so what is before it is in the literal.
      rw [List.concat_eq_append, ← List.append_assoc] at hbody
      obtain ⟨hcut, -⟩ := List.append_inj' hbody rfl
      have hinside := (Position.inside_escapes cs).1
      rw [hcut, Position.inside_append] at hinside
      have hopen : Position.code.step '"' = .literal := rfl
      simp [hopen, hinside.2.ne_code]

/-- A character of no symbol before a text is as good as none. -/
theorem hasSymbolFrom_eq_none {previous : Option Char} (h : previous.any isSymbolChar = false)
    (symbol : List Char) (p : Position) (cs : List Char) :
    hasSymbolFrom symbol p previous cs = hasSymbolFrom symbol p none cs := by
  cases cs with
  | nil => rfl
  | cons c cs => simp [hasSymbolFrom, h]

/-- Inside a literal the keyword is not found. -/
theorem whereEndFrom_inside {p : Position} {cs : List Char} (h : p.Inside cs) (rest : List Char) :
    whereEndFrom p (cs ++ rest) = (whereEndFrom (p.after cs) rest).map (· + cs.length) := by
  induction cs generalizing p with
  | nil => simp
  | cons c cs ih =>
    have hp : (p == .code) = false := beq_false_of_ne h.1
    rw [List.cons_append, whereEndFrom, hp, Bool.false_and, if_neg Bool.false_ne_true, ih h.2,
      map_add_map_add, Position.after_cons, List.length_cons, Nat.add_comm]

/-- The keyword in a literal is not taken for the keyword. -/
theorem whereEnd_encode (cs rest : List Char) :
    whereEnd (encode cs ++ rest) = (whereEnd rest).map (· + (encode cs).length) := by
  -- The quotes are no part of the keyword, and between them every place is in the literal.
  obtain ⟨hinside, hafter⟩ := Position.inside_escapes cs
  have hopen : whereEnd (encode cs ++ rest) =
      (whereEndFrom .literal (cs.flatMap escape ++ '"' :: rest)).map (· + 1) := by
    simp [whereEnd, encode, whereEndFrom, startsWithSymbol, Position.step]
  have hclose : whereEndFrom .literal ('"' :: rest) = (whereEnd rest).map (· + 1) := by
    simp [whereEndFrom, whereEnd, Position.step]
  rw [hopen, whereEndFrom_inside hinside, hafter, hclose, map_add_map_add, map_add_map_add]
  congr 2
  funext i
  simp [encode]
  omega

/-- A literal in front of a text is read back as the text it stands for, and leaves the rest. A
scan that comes to it outside of literals is so again behind its closing quote and at no place
between the quotes, so that it finds the brackets, the keyword and the variables of the rest and
no others. -/
theorem quote_delimits (s t : String) :
    decode (quote s ++ t).toList = some (s.toList, t.toList) ∧
    (∀ u v, (quote s).toList = u ++ v → (Position.code.after u = .code ↔ u = [] ∨ v = [])) ∧
    (∀ (v : Var) previous, hasSymbolFrom v.text.toList .code previous (quote s ++ t).toList =
      hasVar t.toList v) ∧
    (∀ depth, closeFrom .code depth (quote s ++ t).toList =
      (closeFrom .code depth t.toList).map (· + (quote s).toList.length)) ∧
    whereEnd (quote s ++ t).toList = (whereEnd t.toList).map (· + (quote s).toList.length) := by
  rw [String.toList_append, toList_quote]
  refine ⟨Datalog.StringLiteral.decode_encode_append _ _, fun u v => after_cut_encode, ?_, ?_,
    whereEnd_encode _ _⟩
  · intro v previous
    have hquote : (some '"').any isSymbolChar = false := isSymbolChar_quote
    rw [hasSymbolFrom_encode, hasSymbolFrom_eq_none hquote, hasVar]
  · intro depth
    have hliteral := complete_encode s.toList
    rw [closeFrom_matched hliteral.matched, hliteral.code]

/-- A text with brackets, the keyword, a variable, quotes, and backslashes before its end. -/
def hostile : String :=
  "] :where \"?b) \\\\\""

theorem quote_delimits_hostile :
    decode (quote hostile ++ " ?c]").toList = some (hostile.toList, " ?c]".toList) ∧
      Position.code.after (quote hostile).toList.dropLast ≠ .code ∧
      hasVar (quote hostile ++ " ?c]").toList ⟨"b"⟩ = false ∧
      hasVar (quote hostile ++ " ?c]").toList ⟨"c"⟩ = true ∧
      closeFrom .code 0 (quote hostile ++ " ?c]").toList = some ((quote hostile).toList.length + 3) ∧
      whereEnd (quote hostile ++ " ?c]").toList = none := by
  obtain ⟨hdecode, hcut, hvar, hclose, hwhere⟩ := quote_delimits hostile " ?c]"
  refine ⟨hdecode, ?_, ?_, ?_, ?_, ?_⟩
  · have hlast : (quote hostile).toList = (quote hostile).toList.dropLast ++ ['"'] := by decide
    rw [Ne, hcut _ _ hlast]
    decide
  · exact (hvar ⟨"b"⟩ none).trans (by decide)
  · exact (hvar ⟨"c"⟩ none).trans (by decide)
  · have hrest : closeFrom .code 0 " ?c]".toList = some 3 := by decide
    rw [hclose, hrest, Option.map_some, Nat.add_comm]
  · have hrest : whereEnd " ?c]".toList = none := by decide
    rw [hwhere, hrest, Option.map_none]

end OutlineQuery.QueryText
