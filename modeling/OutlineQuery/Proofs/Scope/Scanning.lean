import OutlineQuery.Proofs.Scope.Brackets

/-!
How scans go over the text of a query. The search for the end of its `:where` block goes to the end
of the text, and a search for a variable finds it exactly where it is a word of its own; what stands
in string literals is not seen.
-/
namespace OutlineQuery.QueryText

open Datalog (Position Var Term Call Clause Query Token isName isMark isDelimiter)
open Datalog.Token (spell joined space Readable)

/-- Neither the marks nor the quote are parts of a symbol, but the sign of a variable is. -/
theorem isSymbolChar_signs : (['(', ')', '[', ']', '{', '}', ' ', '\n', '"'].all
    (!isSymbolChar ·) && isSymbolChar '?') = true := by
  decide

theorem isSymbolChar_of_isMark {c : Char} (h : isMark c = true) : isSymbolChar c = false := by
  have hsigns := List.all_eq_true.1 (Bool.and_eq_true_iff.1 isSymbolChar_signs).1 c
  simp only [isMark, List.contains_iff_mem] at h
  simpa using hsigns (List.mem_append_left ['"'] h)

theorem isSymbolChar_quote : isSymbolChar '"' = false := by
  have hsigns := List.all_eq_true.1 (Bool.and_eq_true_iff.1 isSymbolChar_signs).1 '"' (by simp)
  simpa using hsigns

theorem isSymbolChar_question : isSymbolChar '?' = true :=
  (Bool.and_eq_true_iff.1 isSymbolChar_signs).2

/-- Characters that neither start the word nor a literal are passed over by the search for it. -/
theorem whereEndFrom_code {cs : List Char} (hcolon : ':' ∉ cs) (hquote : '"' ∉ cs)
    (rest : List Char) :
    whereEndFrom .code (cs ++ rest) = (whereEndFrom .code rest).map (· + cs.length) := by
  induction cs with
  | nil => simp
  | cons c cs ih =>
    simp only [List.mem_cons, not_or] at hcolon hquote
    have hstep := Position.step_code (Ne.symm hquote.1)
    have hstart : startsWithSymbol ":where".toList (c :: (cs ++ rest)) = false := by
      simp [startsWithSymbol, hcolon.1]
    rw [List.cons_append, whereEndFrom]
    simp only [hstart, Bool.and_false, Bool.false_eq_true, if_false, hstep]
    rw [ih hcolon.2 hquote.2, map_add_map_add, List.length_cons, Nat.add_comm]

/-- The tokens of a query without rules, up to its closing bracket. -/
def openTokens (find : List Var) (cs : List Clause) : List Token :=
  .mark '[' :: .word ":find" :: .mark ' ' :: (Var.tokens find ++
    .mark '\n' :: .mark ' ' :: .word ":where" :: Query.clauseTokens cs)

theorem openTokens_append (find : List Var) (cs ds : List Clause) :
    openTokens find (cs ++ ds) = openTokens find cs ++ Query.clauseTokens ds := by
  simp [openTokens, Query.clauseTokens]

/-- A query without rules is closed by a single bracket. -/
theorem tokens_eq_openTokens {q : Query} (h : q.rules = []) :
    q.tokens = openTokens q.find q.clauses ++ [.mark ']'] := by
  simp [Query.tokens, Query.vectorTokens, Query.inputTokens, openTokens, h]

theorem mem_spell_vars {vs : List Var} {c : Char} (h : c ∈ spell (Var.tokens vs)) :
    c = ' ' ∨ ∃ v ∈ vs, c ∈ v.text.toList := by
  cases vs with
  | nil => cases h
  | cons v vs =>
    simp only [Var.tokens, List.map_cons, Token.joined_cons, List.flatMap_map, space,
      Token.spell_append, Token.spell_flatMap, Token.spell_cons, Token.spell_nil, Token.chars,
      List.append_nil, List.mem_append, List.mem_flatMap, List.mem_singleton] at h
    rcases h with h | ⟨w, hw, h | h⟩
    · exact .inr ⟨v, List.mem_cons_self, h⟩
    · exact .inl h
    · exact .inr ⟨w, List.mem_cons_of_mem v hw, h⟩

/-- The `:where` block is open to the end of the text. -/
theorem closeFrom_where {cs : List Clause} (hcs : ∀ c ∈ cs, c.isWellNamed = true) :
    closeFrom .code 0 (":where".toList ++ (spell (Query.clauseTokens cs) ++ [']'])) =
      some (":where".toList ++ spell (Query.clauseTokens cs)).length := by
  have hword : Complete ":where".toList := complete_word (by decide)
  have hblock := hword.append (complete_clauses hcs)
  rw [← List.append_assoc, closeFrom_matched hblock.matched, hblock.code]
  simp [closeFrom, isOpening, isClosing]

theorem whereEndFrom_of_startsWithSymbol {cs : List Char}
    (h : startsWithSymbol ":where".toList cs = true) :
    whereEndFrom .code cs = closeFrom .code 0 cs := by
  cases cs with
  | nil => simp [startsWithSymbol] at h
  | cons c cs =>
    rw [whereEndFrom, h]
    rfl

theorem startsWithSymbol_where (cs : List Clause) :
    startsWithSymbol ":where".toList
      (":where".toList ++ (spell (Query.clauseTokens cs) ++ [']'])) = true := by
  have hline : isSymbolChar '\n' = false := isSymbolChar_of_isMark (by decide)
  have hbracket : isSymbolChar ']' = false := isSymbolChar_of_isMark (by decide)
  cases cs <;> simp [startsWithSymbol, Query.clauseTokens, Token.chars, hline, hbracket]

/-- The `:where` block ends where the query does. -/
theorem whereEnd_openTokens {find : List Var} {cs : List Clause}
    (hfind : ∀ v ∈ find, ':' ∉ v.text.toList ∧ '"' ∉ v.text.toList)
    (hcs : ∀ c ∈ cs, c.isWellNamed = true) :
    whereEnd (spell (openTokens find cs) ++ [']']) = some (spell (openTokens find cs)).length := by
  -- No colon but that of `:find` stands before the word, and no literal does.
  have hplain : ∀ c ∈ "find ".toList ++ (spell (Var.tokens find) ++ "\n ".toList),
      c ≠ ':' ∧ c ≠ '"' := by
    refine List.forall_mem_append.2 ⟨by simp, List.forall_mem_append.2 ⟨?_, by simp⟩⟩
    intro c hc
    rcases mem_spell_vars hc with rfl | ⟨v, hv, hc⟩
    · decide
    · exact ⟨fun h => (hfind v hv).1 (h ▸ hc), fun h => (hfind v hv).2 (h ▸ hc)⟩
  have hchars : spell (openTokens find cs) ++ [']'] =
      ['['] ++ (':' :: (("find ".toList ++ (spell (Var.tokens find) ++ "\n ".toList)) ++
        (":where".toList ++ (spell (Query.clauseTokens cs) ++ [']'])))) := by
    simp [openTokens, Token.chars]
  have hcolon (rest : List Char) : whereEndFrom .code (':' :: ("find ".toList ++ rest)) =
      (whereEndFrom .code ("find ".toList ++ rest)).map (· + 1) := by
    rw [whereEndFrom]
    simp [startsWithSymbol, Position.step]
  have hlength := congrArg List.length hchars
  rw [whereEnd, hchars, whereEndFrom_code (by decide) (by decide), List.append_assoc, hcolon,
    ← List.append_assoc, whereEndFrom_code (fun h => (hplain _ h).1 rfl)
    (fun h => (hplain _ h).2 rfl), whereEndFrom_of_startsWithSymbol (startsWithSymbol_where cs),
    closeFrom_where hcs]
  simp only [Option.map_some, Option.some.injEq]
  simp only [List.length_append, List.length_cons, List.length_nil] at hlength ⊢
  omega

/-- Whether every question mark follows a character of a symbol, so that none starts a variable. -/
def isQuiet : Option Char → List Char → Bool
  | _, [] => true
  | previous, c :: rest => (c != '?' || previous.any isSymbolChar) && isQuiet (some c) rest

theorem isQuiet_eq_none {previous : Option Char} (h : previous.any isSymbolChar = false)
    (cs : List Char) : isQuiet previous cs = isQuiet none cs := by
  cases cs with
  | nil => rfl
  | cons c cs => simp [isQuiet, h]

/-- No variable starts inside a literal, after a character of a symbol, or but with its question
mark. -/
theorem hasSymbolFrom_skip {v : Var} {p : Position} {previous : Option Char} {c : Char}
    (h : p ≠ .code ∨ previous.any isSymbolChar = true ∨ c ≠ '?') (rest : List Char) :
    hasSymbolFrom v.text.toList p previous (c :: rest) =
      hasSymbolFrom v.text.toList (p.step c) (some c) rest := by
  rw [hasSymbolFrom]
  rcases h with hp | hprevious | hc
  · simp [hp]
  · simp [hprevious]
  · simp [startsWithSymbol, Var.text, Ne.symm hc]

/-- Where no variable starts, none is found. -/
theorem hasSymbolFrom_quiet {v : Var} {previous : Option Char} {cs : List Char}
    (h : isQuiet previous cs = true) (hquote : '"' ∉ cs) (rest : List Char) :
    hasSymbolFrom v.text.toList .code previous (cs ++ rest) =
      hasSymbolFrom v.text.toList .code (cs.getLast?.or previous) rest := by
  induction cs generalizing previous with
  | nil => simp
  | cons c cs ih =>
    simp only [isQuiet, Bool.and_eq_true, Bool.or_eq_true, bne_iff_ne] at h
    simp only [List.mem_cons, not_or] at hquote
    have hstep := Position.step_code (Ne.symm hquote.1)
    rw [List.cons_append, hasSymbolFrom_skip (.inr h.1.symm), hstep, ih h.2 hquote.2]
    simp [List.getLast?_cons]

/-- Inside a literal no variable is found. -/
theorem hasSymbolFrom_inside {v : Var} {p : Position} {cs : List Char} (h : p.Inside cs)
    (previous : Option Char) (rest : List Char) :
    hasSymbolFrom v.text.toList p previous (cs ++ rest) =
      hasSymbolFrom v.text.toList (p.after cs) (cs.getLast?.or previous) rest := by
  induction cs generalizing p previous with
  | nil => simp
  | cons c cs ih =>
    rw [List.cons_append, hasSymbolFrom_skip (.inl h.1), ih h.2]
    simp [List.getLast?_cons]

/-- A literal is passed over, whatever text it stands for. -/
theorem hasSymbolFrom_encode (v : Var) (previous : Option Char) (cs rest : List Char) :
    hasSymbolFrom v.text.toList .code previous (Datalog.StringLiteral.encode cs ++ rest) =
      hasSymbolFrom v.text.toList .code (some '"') rest := by
  obtain ⟨hinside, hafter⟩ := Position.inside_escapes cs
  have hchars : Datalog.StringLiteral.encode cs ++ rest =
      '"' :: (cs.flatMap Datalog.StringLiteral.escape ++ '"' :: rest) := by
    simp [Datalog.StringLiteral.encode]
  have hopen : Position.code.step '"' = .literal := rfl
  have hclose : Position.literal.step '"' = .code := rfl
  rw [hchars, hasSymbolFrom_skip (.inr (.inr (by decide))), hopen, hasSymbolFrom_inside hinside,
    hafter, hasSymbolFrom_skip (.inl (by decide)), hclose]

/-- A text starts with a symbol when that is all there is before the first other character. -/
theorem startsWithSymbol_iff {symbol cs : List Char}
    (h : ∀ c ∈ symbol, isSymbolChar c = true) :
    startsWithSymbol symbol cs = true ↔ cs.takeWhile isSymbolChar = symbol := by
  simp only [startsWithSymbol, Bool.and_eq_true, List.isPrefixOf_iff_prefix, Bool.not_eq_true']
  constructor
  · rintro ⟨⟨rest, rfl⟩, hend⟩
    rw [List.drop_left] at hend
    rw [List.takeWhile_append_of_pos h]
    cases rest with
    | nil => simp
    | cons c rest =>
      have hc : isSymbolChar c = false := by simpa using hend
      simp [hc]
  · rintro rfl
    refine ⟨List.takeWhile_prefix _, ?_⟩
    have hsplit := List.takeWhile_append_dropWhile (p := isSymbolChar) (l := cs)
    have hdrop := calc
      cs.drop (cs.takeWhile isSymbolChar).length =
          (cs.takeWhile isSymbolChar ++ cs.dropWhile isSymbolChar).drop
            (cs.takeWhile isSymbolChar).length := by rw [hsplit]
      _ = cs.dropWhile isSymbolChar := List.drop_left
    rw [hdrop]
    -- A symbol is over at the end of the text or at a character of none.
    cases hrest : cs.dropWhile isSymbolChar with
    | nil => rfl
    | cons c rest =>
      have hne : cs.dropWhile isSymbolChar ≠ [] := by simp [hrest]
      have hhead := List.head_dropWhile_not isSymbolChar hne
      simpa [hrest] using hhead

/-- Whether a scan can tell a variable from what stands around it. -/
def isPlain (v : Var) : Bool :=
  v.name.toList.all fun c => isSymbolChar c && c != '?'

/-- A word in which the search for a variable finds nothing but the word itself. -/
def Scannable (s : String) : Prop :=
  isQuiet none s.toList = true ∨ ∃ v : Var, isPlain v = true ∧ s = v.text

theorem isSymbolChar_of_mem_text {v : Var} (hv : isPlain v = true) :
    ∀ c ∈ v.text.toList, isSymbolChar c = true := by
  simp only [isPlain, List.all_eq_true, Bool.and_eq_true] at hv
  rw [Var.text, String.toList_append]
  exact List.forall_mem_append.2 ⟨by simpa using isSymbolChar_question, fun c hc => (hv c hc).1⟩

/-- After a word the text ends, or goes on with no character of a symbol. -/
theorem takeWhile_spell_of_not_word {ts : List Token} (hts : Readable ts)
    (hword : ts.head?.any Token.isWord = false) : (spell ts).takeWhile isSymbolChar = [] := by
  cases ts with
  | nil => rfl
  | cons t ts =>
    cases t with
    | word s => simp [Token.isWord] at hword
    | literal s => simp [Token.chars, Datalog.StringLiteral.encode, isSymbolChar_quote]
    | mark c =>
      have hc := isSymbolChar_of_isMark (hts.proper _ List.mem_cons_self)
      simp [Token.chars, hc]

/-- At a word that is a variable, only that variable starts. -/
theorem startsWithSymbol_text {v w : Var} (hv : isPlain v = true) (hw : isPlain w = true)
    {ts : List Token} (hts : Readable ts) (hword : ts.head?.any Token.isWord = false) :
    startsWithSymbol v.text.toList (w.text.toList ++ spell ts) = decide (w.text = v.text) := by
  rw [Bool.eq_iff_iff, startsWithSymbol_iff (isSymbolChar_of_mem_text hv),
    List.takeWhile_append_of_pos (isSymbolChar_of_mem_text hw),
    takeWhile_spell_of_not_word hts hword, List.append_nil, String.toList_inj, decide_eq_true_iff]

theorem isQuiet_of_isPlain {v : Var} (hv : isPlain v = true) (previous : Option Char) :
    isQuiet previous v.name.toList = true := by
  simp only [isPlain, List.all_eq_true, Bool.and_eq_true] at hv
  generalize v.name.toList = cs at hv
  induction cs generalizing previous with
  | nil => rfl
  | cons c cs ih =>
    obtain ⟨hc, hcs⟩ := List.forall_mem_cons.1 hv
    rw [isQuiet, hc.2, ih _ hcs]
    rfl

theorem not_isQuiet_text (v : Var) : isQuiet none v.text.toList = false := by
  simp [Var.text, isQuiet]

/-- A variable starts with its question mark, so it is no word where none starts. -/
theorem text_ne_of_isQuiet {v : Var} {s : String} (hs : isQuiet none s.toList = true) :
    v.text ≠ s := by
  rintro rfl
  rw [not_isQuiet_text] at hs
  cases hs

/-- A variable is found in a text exactly if it is one of its words. -/
theorem hasSymbolFrom_spell {v : Var} (hv : isPlain v = true) {ts : List Token} (hts : Readable ts)
    (hwords : ∀ s, .word s ∈ ts → Scannable s) {previous : Option Char}
    (hprevious : ts.head?.any Token.isWord = true → previous.any isSymbolChar = false) :
    hasSymbolFrom v.text.toList .code previous (spell ts) = decide (.word v.text ∈ ts) := by
  induction ts generalizing previous with
  | nil => simp [hasSymbolFrom]
  | cons t ts ih =>
    have hrest : ∀ s, .word s ∈ ts → Scannable s := fun s hs => hwords s (List.mem_cons_of_mem t hs)
    have hproper := hts.proper t List.mem_cons_self
    cases t with
    | word s =>
      -- The next token is no word, so it does not matter what the last character was.
      have hnext : ts.head?.any Token.isWord = false := by
        cases ts with
        | nil => rfl
        | cons u us => exact (List.isChain_cons_cons.1 hts.separated).1 rfl
      have hfound {previous : Option Char} :
          hasSymbolFrom v.text.toList .code previous (spell ts) = decide (.word v.text ∈ ts) :=
        ih hts.tail hrest (by simp [hnext])
      have hstart : previous.any isSymbolChar = false := hprevious rfl
      have hquote := Datalog.quote_not_mem_of_isName hproper
      rw [Token.spell_cons, Token.chars]
      rcases hwords s List.mem_cons_self with hquiet | ⟨w, hw, rfl⟩
      · have hne : v.text ≠ s := text_ne_of_isQuiet hquiet
        rw [hasSymbolFrom_quiet (by rw [isQuiet_eq_none hstart, hquiet]) hquote, hfound]
        simp [hne]
      · have hhead := startsWithSymbol_text hv hw hts.tail hnext
        have htext : w.text.toList = '?' :: w.name.toList := by simp [Var.text]
        have hstep : Position.code.step '?' = .code := rfl
        rw [htext, List.mem_cons, not_or] at hquote
        rw [htext, List.cons_append] at hhead ⊢
        rw [hasSymbolFrom, hhead, hstart, hstep,
          hasSymbolFrom_quiet (isQuiet_of_isPlain hw _) hquote.2, hfound]
        simp [eq_comm]
    | literal s =>
      have hquote : (some '"').any isSymbolChar = false := isSymbolChar_quote
      rw [Token.spell_cons, Token.chars, hasSymbolFrom_encode, ih hts.tail hrest fun _ => hquote]
      simp
    | mark c =>
      have hmark : c ≠ '?' := by
        rintro rfl
        revert hproper
        decide
      have hstep := Position.step_code (Datalog.ne_quote_of_isMark hproper)
      have hc : (some c).any isSymbolChar = false := isSymbolChar_of_isMark hproper
      rw [Token.spell_cons, Token.chars, List.singleton_append,
        hasSymbolFrom_skip (.inr (.inr hmark)), hstep, ih hts.tail hrest fun _ => hc]
      simp

theorem isQuiet_of_mem_keywords : ∀ s ∈ Datalog.keywords, isQuiet none s.toList = true := by
  decide

/-- A clause in whose text scans find its variables. -/
structure Legible (c : Clause) : Prop where
  wellNamed : c.isWellNamed = true
  vars : ∀ v ∈ c.vars, isPlain v = true
  names : ∀ s ∈ c.names, isQuiet none s.toList = true

namespace Legible

variable {c : Clause}

theorem scannable (h : Legible c) {s : String} (hs : .word s ∈ c.tokens) : Scannable s := by
  rcases Clause.word_mem_tokens hs with ⟨v, hv, rfl⟩ | hs | hs
  · exact .inr ⟨v, h.vars v hv, rfl⟩
  · exact .inl (h.names s hs)
  · exact .inl (isQuiet_of_mem_keywords s hs)

/-- The variables among the words of a clause are its own. -/
theorem text_mem_tokens (h : Legible c) {v : Var} : .word v.text ∈ c.tokens ↔ v ∈ c.vars := by
  constructor
  · intro hs
    rcases Clause.word_mem_tokens hs with ⟨w, hw, hs⟩ | hs | hs
    · rw [Var.text_injective hs]
      exact hw
    · exact absurd rfl (text_ne_of_isQuiet (h.names _ hs))
    · exact absurd rfl (text_ne_of_isQuiet (isQuiet_of_mem_keywords _ hs))
  · exact Clause.text_mem_tokens

end Legible

end OutlineQuery.QueryText
