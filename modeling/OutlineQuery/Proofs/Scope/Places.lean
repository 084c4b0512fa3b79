import OutlineQuery.Proofs.Scope.Scanning

/-!
What scans of query text find, said by cuts of the text. A cut is a place between what stands before
and after it. The search for a variable finds a cut where it stands as a whole outside of literals;
the search for the end of the `:where` block takes the first cut where the keyword stands and goes
on to the bracket that closes what the keyword stands in.
-/
namespace OutlineQuery.QueryText

open Datalog (Position Var)

/-- A variable stands at a cut as a whole, outside of literals. -/
structure VarAt (v : Var) (before after : List Char) : Prop where
  code : Position.code.after before = .code
  start : before.getLast?.any isSymbolChar = false
  whole : startsWithSymbol v.text.toList after = true

/-- The keyword stands at a cut, outside of literals. -/
structure WhereAt (before after : List Char) : Prop where
  code : Position.code.after before = .code
  whole : startsWithSymbol ":where".toList after = true

/-- The keyword stands at a cut, and at none before it. -/
structure FirstWhere (before after : List Char) : Prop extends WhereAt before after where
  first : ∀ u w, before = u ++ w → w ≠ [] → ¬WhereAt u (w ++ after)

/-- A text is what stands before its first `:where`, the keyword, the block up to the square bracket
at which the search for the end of the block stops, and what follows the bracket. -/
structure WhereBlock (text before block after : List Char) : Prop where
  text_eq : text = before ++ (":where".toList ++ (block ++ ']' :: after))
  first : FirstWhere before (":where".toList ++ (block ++ ']' :: after))
  ends : whereEnd text = some (before ++ (":where".toList ++ block)).length

/-- A variable stands in the block, behind the keyword and before the bracket. -/
def UsedIn (v : Var) (before block after : List Char) : Prop :=
  ∃ left right, block = left ++ (v.text.toList ++ right) ∧
    VarAt v (before ++ (":where".toList ++ left)) (v.text.toList ++ (right ++ ']' :: after))

instance (before after : List Char) : Decidable (WhereAt before after) :=
  decidable_of_iff (Position.code.after before = .code ∧
    startsWithSymbol ":where".toList after = true) ⟨fun h => ⟨h.1, h.2⟩, fun h => ⟨h.1, h.2⟩⟩

theorem firstWhere_iff_take {before after : List Char} :
    FirstWhere before after ↔ WhereAt before after ∧
      ∀ i < before.length, ¬WhereAt (before.take i) (before.drop i ++ after) := by
  constructor
  · intro h
    refine ⟨h.toWhereAt, ?_⟩
    intro i hi
    apply h.first
    · exact (List.take_append_drop i before).symm
    · rw [Ne, List.drop_eq_nil_iff]
      omega
  · rintro ⟨hat, hearlier⟩
    refine ⟨hat, ?_⟩
    rintro u w rfl hw
    have hpositive := List.length_pos_iff.2 hw
    have hcut := hearlier u.length (by rw [List.length_append]; omega)
    rw [List.take_left, List.drop_left] at hcut
    exact hcut

instance (before after : List Char) : Decidable (FirstWhere before after) :=
  decidable_of_iff _ firstWhere_iff_take.symm

instance (text before block after : List Char) : Decidable (WhereBlock text before block after) :=
  decidable_of_iff (text = before ++ (":where".toList ++ (block ++ ']' :: after)) ∧
    FirstWhere before (":where".toList ++ (block ++ ']' :: after)) ∧
    whereEnd text = some (before ++ (":where".toList ++ block)).length)
    ⟨fun h => ⟨h.1, h.2.1, h.2.2⟩, fun h => ⟨h.1, h.2, h.3⟩⟩

/-! The start of a symbol. -/

/-- Whether a text starts with a symbol is seen from the symbol and one character more. -/
theorem startsWithSymbol_take (symbol cs : List Char) :
    startsWithSymbol symbol (cs.take (symbol.length + 1)) = startsWithSymbol symbol cs := by
  have hstarts : symbol.isPrefixOf (cs.take (symbol.length + 1)) = symbol.isPrefixOf cs := by
    rw [Bool.eq_iff_iff, List.isPrefixOf_iff_prefix, List.isPrefixOf_iff_prefix,
      List.prefix_take_iff]
    constructor
    · exact fun h => h.1
    · exact fun h => ⟨h, by omega⟩
  have hnext : ((cs.take (symbol.length + 1)).drop symbol.length).head? =
      (cs.drop symbol.length).head? := by
    rw [List.head?_drop, List.head?_drop, List.getElem?_take_of_lt (by omega)]
  rw [startsWithSymbol, startsWithSymbol, hstarts, hnext]

theorem startsWithSymbol_self_append (symbol rest : List Char) :
    startsWithSymbol symbol (symbol ++ rest) = !rest.head?.any isSymbolChar := by
  have hstarts : symbol.isPrefixOf (symbol ++ rest) = true :=
    List.isPrefixOf_iff_prefix.2 (List.prefix_append symbol rest)
  rw [startsWithSymbol, hstarts, List.drop_left, Bool.true_and]

theorem takeWhile_append_of_head? {cs ds : List Char} (h : ds.head?.any isSymbolChar = false) :
    (cs ++ ds).takeWhile isSymbolChar = cs.takeWhile isSymbolChar := by
  have hds : ds.takeWhile isSymbolChar = [] := by
    cases ds with
    | nil => rfl
    | cons d ds =>
      have hd : isSymbolChar d = false := by simpa using h
      simp [hd]
  induction cs with
  | nil => exact hds
  | cons c cs ih =>
    by_cases hc : isSymbolChar c = true
    · rw [List.cons_append, List.takeWhile_cons_of_pos hc, List.takeWhile_cons_of_pos hc, ih]
    · rw [List.cons_append, List.takeWhile_cons_of_neg hc, List.takeWhile_cons_of_neg hc]

/-- Whether a symbol starts at a place does not depend on what follows a character of no symbol. -/
theorem startsWithSymbol_append {symbol ds : List Char}
    (hsymbol : ∀ c ∈ symbol, isSymbolChar c = true) (cs : List Char)
    (hds : ds.head?.any isSymbolChar = false) :
    startsWithSymbol symbol (cs ++ ds) = startsWithSymbol symbol cs := by
  rw [Bool.eq_iff_iff, startsWithSymbol_iff hsymbol, startsWithSymbol_iff hsymbol,
    takeWhile_append_of_head? hds]

theorem isSymbolChar_square : isSymbolChar ']' = false :=
  isSymbolChar_of_isMark (by decide)

/-! The search for a variable. -/

theorem not_startsWithSymbol_nil (v : Var) : startsWithSymbol v.text.toList [] = false := by
  simp [startsWithSymbol, Var.text]

/-- A scan finds a variable if it stands somewhere outside of literals, with no character of symbols
before it or after it. -/
theorem hasSymbolFrom_iff {v : Var} {p : Position} {previous : Option Char} {cs : List Char} :
    hasSymbolFrom v.text.toList p previous cs = true ↔ ∃ before after, cs = before ++ after ∧
      p.after before = .code ∧ (before.getLast?.or previous).any isSymbolChar = false ∧
      startsWithSymbol v.text.toList after = true := by
  -- The character before the place is the last one passed, or the one given if none was passed.
  induction cs generalizing p previous with
  | nil =>
    simp only [hasSymbolFrom, Bool.false_eq_true, false_iff]
    rintro ⟨before, after, hcs, -, -, hstarts⟩
    rw [(List.append_eq_nil_iff.1 hcs.symm).2, not_startsWithSymbol_nil] at hstarts
    cases hstarts
  | cons c cs ih =>
    simp only [hasSymbolFrom, Bool.or_eq_true, Bool.and_eq_true, beq_iff_eq, Bool.not_eq_true', ih]
    constructor
    · rintro (⟨⟨hcode, hstart⟩, hstarts⟩ | ⟨before, after, rfl, hcode, hstart, hstarts⟩)
      · exact ⟨[], c :: cs, rfl, hcode, by simpa using hstart, hstarts⟩
      · refine ⟨c :: before, after, rfl, hcode, ?_, hstarts⟩
        simpa [List.getLast?_cons] using hstart
    · rintro ⟨before, after, hcs, hcode, hstart, hstarts⟩
      cases before with
      | nil =>
        rw [List.nil_append] at hcs
        rw [← hcs] at hstarts
        exact .inl ⟨⟨hcode, by simpa using hstart⟩, hstarts⟩
      | cons d before =>
        obtain ⟨rfl, rfl⟩ := List.cons.inj hcs
        refine .inr ⟨before, after, rfl, hcode, ?_, hstarts⟩
        simpa [List.getLast?_cons] using hstart

theorem hasVar_iff {text : List Char} {v : Var} :
    hasVar text v = true ↔ ∃ before after, text = before ++ after ∧ VarAt v before after := by
  rw [hasVar, hasSymbolFrom_iff]
  constructor
  · rintro ⟨before, after, htext, hcode, hstart, hwhole⟩
    rw [Option.or_none] at hstart
    exact ⟨before, after, htext, hcode, hstart, hwhole⟩
  · rintro ⟨before, after, htext, hat⟩
    refine ⟨before, after, htext, hat.code, ?_, hat.whole⟩
    rw [Option.or_none]
    exact hat.start

/-- Where a text starts with a character of no symbol, it does not matter what stands before it. -/
theorem hasSymbolFrom_of_head? (v : Var) (p : Position) (previous : Option Char) {cs : List Char}
    (h : cs.head?.any isSymbolChar = false) :
    hasSymbolFrom v.text.toList p previous cs = hasSymbolFrom v.text.toList p none cs := by
  cases cs with
  | nil => rfl
  | cons c cs =>
    have hc : c ≠ '?' := by
      rintro rfl
      rw [List.head?_cons, Option.any_some, isSymbolChar_question] at h
      cases h
    rw [hasSymbolFrom_skip (.inr (.inr hc)), hasSymbolFrom_skip (.inr (.inr hc))]

/-- A text can be searched part by part, where a part starts with a character of no symbol. -/
theorem hasSymbolFrom_append {v : Var} (hv : isPlain v = true) (p : Position)
    (previous : Option Char) (cs : List Char) {ds : List Char}
    (hds : ds.head?.any isSymbolChar = false) :
    hasSymbolFrom v.text.toList p previous (cs ++ ds) =
      (hasSymbolFrom v.text.toList p previous cs ||
        hasSymbolFrom v.text.toList (p.after cs) none ds) := by
  induction cs generalizing p previous with
  | nil =>
    rw [List.nil_append, hasSymbolFrom_of_head? v p previous hds]
    simp [hasSymbolFrom]
  | cons c cs ih =>
    have hstarts := startsWithSymbol_append (isSymbolChar_of_mem_text hv) (c :: cs) hds
    rw [List.cons_append] at hstarts ⊢
    rw [hasSymbolFrom, hasSymbolFrom, hstarts, ih, Position.after_cons, Bool.or_assoc]

/-! The search for the keyword and the bracket. -/

theorem exists_firstWhere {before after : List Char} (h : WhereAt before after) :
    ∃ u w, before = u ++ w ∧ FirstWhere u (w ++ after) := by
  -- The cut moves to the front as long as there is an earlier one.
  induction hn : before.length using Nat.strongRecOn generalizing before after with
  | ind n ih =>
    by_cases hfirst : ∀ u w, before = u ++ w → w ≠ [] → ¬WhereAt u (w ++ after)
    · exact ⟨before, [], (List.append_nil before).symm, h, hfirst⟩
    · push Not at hfirst
      obtain ⟨u, w, hsplit, hw, hat⟩ := hfirst
      have hshorter : u.length < n := by
        have hlength := congrArg List.length hsplit
        have hpositive := List.length_pos_iff.2 hw
        rw [List.length_append] at hlength
        omega
      obtain ⟨u', w', rfl, hu'⟩ := ih u.length hshorter hat rfl
      refine ⟨u', w' ++ w, ?_, ?_⟩
      · rw [hsplit, List.append_assoc]
      · rw [List.append_assoc]
        exact hu'

theorem FirstWhere.eq_nil {u w v : List Char} (h : FirstWhere (u ++ w) v)
    (hat : WhereAt u (w ++ v)) : w = [] := by
  by_contra hw
  exact h.first u w rfl hw hat

theorem FirstWhere.unique {u v u' v' : List Char} (h : FirstWhere u v) (h' : FirstWhere u' v')
    (htext : u ++ v = u' ++ v') : u = u' ∧ v = v' := by
  -- One of the cuts is not after the other, and the first keyword is not before the first.
  rcases List.append_eq_append_iff.1 htext with ⟨w, rfl, rfl⟩ | ⟨w, rfl, rfl⟩
  · obtain rfl := h'.eq_nil h.toWhereAt
    simp
  · obtain rfl := h.eq_nil h'.toWhereAt
    simp

/-- The search goes on over a text where the keyword does not stand. -/
theorem whereEnd_append (before after : List Char)
    (h : ∀ u w, before = u ++ w → w ≠ [] → ¬WhereAt u (w ++ after)) :
    whereEnd (before ++ after) =
      (whereEndFrom (Position.code.after before) after).map (· + before.length) := by
  -- The position depends on all that stands before, so characters are taken from the end.
  induction before using List.reverseRecOn generalizing after with
  | nil => simp [whereEnd]
  | append_singleton before c ih =>
    have hearlier : ∀ u w, before = u ++ w → w ≠ [] → ¬WhereAt u (w ++ c :: after) := by
      intro u w hsplit hw hat
      apply h u (w ++ [c])
      · rw [hsplit, List.append_assoc]
      · simp
      · rw [List.append_assoc]
        exact hat
    have hhere : ¬WhereAt before (c :: after) := h before [c] rfl (by simp)
    have hstep : whereEndFrom (Position.code.after before) (c :: after) =
        (whereEndFrom ((Position.code.after before).step c) after).map (· + 1) := by
      rw [whereEndFrom, if_neg]
      simp only [Bool.and_eq_true, beq_iff_eq]
      exact fun hat => hhere ⟨hat.1, hat.2⟩
    rw [List.append_assoc, List.singleton_append, ih _ hearlier, hstep, map_add_map_add,
      Position.after_append, List.length_append]
    rfl

/-- The block of conditions ends where the brackets after the first keyword close. -/
theorem whereEnd_of_firstWhere {before after : List Char} (h : FirstWhere before after) :
    whereEnd (before ++ after) = (closeFrom .code 0 after).map (· + before.length) := by
  rw [whereEnd_append before after h.first, h.code, whereEndFrom_of_startsWithSymbol h.whole]

theorem whereEnd_eq_none_of_forall {text : List Char}
    (h : ∀ before after, text = before ++ after → ¬WhereAt before after) :
    whereEnd text = none := by
  have hnone := whereEnd_append text [] fun u w hsplit _ => by
    rw [List.append_nil]
    exact h u w hsplit
  rw [List.append_nil] at hnone
  rw [hnone]
  rfl

/-- The search for a bracket ends at a square one that is reached with nothing open, and what stands
after it does not matter. -/
theorem closeFrom_eq_some {p : Position} {depth : Nat} {cs : List Char} {k : Nat}
    (h : closeFrom p depth cs = some k) :
    ∃ block after, cs = block ++ ']' :: after ∧ block.length = k ∧ p.after block = .code ∧
      ∀ rest, closeFrom p depth (block ++ rest) =
        (closeFrom .code 0 rest).map (· + block.length) := by
  induction cs generalizing p depth k with
  | nil => cases h
  | cons c cs ih =>
    -- Every step but the last one puts its character in front of the block.
    have hmore (depth' : Nat)
        (hstep : ∀ rest, closeFrom p depth (c :: rest) =
          (closeFrom (p.step c) depth' rest).map (· + 1)) :
        ∃ block after, c :: cs = block ++ ']' :: after ∧ block.length = k ∧
          p.after block = .code ∧ ∀ rest, closeFrom p depth (block ++ rest) =
            (closeFrom .code 0 rest).map (· + block.length) := by
      rw [hstep] at h
      obtain ⟨k', hk', rfl⟩ := Option.map_eq_some_iff.1 h
      obtain ⟨block, after, rfl, rfl, hcode, hclose⟩ := ih hk'
      refine ⟨c :: block, after, rfl, rfl, hcode, ?_⟩
      intro rest
      rw [List.cons_append, hstep, hclose, map_add_map_add, List.length_cons, Nat.add_comm]
    rcases bracket_cases p c with hplain | ⟨rfl, hopen⟩ | ⟨rfl, hclose⟩
    · exact hmore depth fun rest => closeFrom_skip depth hplain
    · apply hmore (depth + 1)
      intro rest
      rw [step_code_of_isOpening hopen]
      exact closeFrom_opening depth hopen
    · cases depth with
      | succ depth =>
        apply hmore depth
        intro rest
        rw [step_code_of_isClosing hclose]
        exact closeFrom_closing depth hclose
      | zero =>
        rw [closeFrom_end hclose, Option.ite_none_right_eq_some, Option.some.injEq] at h
        obtain ⟨rfl, rfl⟩ := h
        exact ⟨[], cs, rfl, rfl, rfl, by simp⟩

theorem closeFrom_keyword (rest : List Char) :
    closeFrom .code 0 (":where".toList ++ rest) =
      (closeFrom .code 0 rest).map (· + ":where".toList.length) := by
  have hword : Complete ":where".toList := complete_word (by decide)
  rw [closeFrom_matched hword.matched, hword.code]

theorem exists_whereBlock {text : List Char} {k : Nat} (h : whereEnd text = some k) :
    ∃ before block after, WhereBlock text before block after ∧
      k = (before ++ (":where".toList ++ block)).length := by
  have hcut : ∃ before after, text = before ++ after ∧ WhereAt before after := by
    by_contra hnone
    push Not at hnone
    rw [whereEnd_eq_none_of_forall hnone] at h
    cases h
  obtain ⟨_, _, rfl, hat⟩ := hcut
  obtain ⟨before, w, rfl, hfirst⟩ := exists_firstWhere hat
  rw [List.append_assoc] at h ⊢
  have hstarts := hfirst.whole
  rw [startsWithSymbol, Bool.and_eq_true, List.isPrefixOf_iff_prefix] at hstarts
  obtain ⟨rest, hrest⟩ := hstarts.1
  rw [← hrest] at hfirst h ⊢
  -- The keyword has no bracket, so the bracket is searched for in what follows it.
  have hclose := h
  rw [whereEnd_of_firstWhere hfirst, closeFrom_keyword, map_add_map_add] at hclose
  obtain ⟨d, hd, rfl⟩ := Option.map_eq_some_iff.1 hclose
  obtain ⟨block, after, rfl, rfl, -, -⟩ := closeFrom_eq_some hd
  have hlength : block.length + (before.length + ":where".toList.length) =
      (before ++ (":where".toList ++ block)).length := by
    simp only [List.length_append]
    omega
  rw [hlength] at h ⊢
  exact ⟨before, block, after, ⟨rfl, hfirst, h⟩, rfl⟩

/-- The keyword stays the first one when what follows it changes. -/
theorem FirstWhere.congr {before r s : List Char} (h : FirstWhere before (":where".toList ++ r))
    (hs : s.head?.any isSymbolChar = false) : FirstWhere before (":where".toList ++ s) := by
  refine ⟨⟨h.code, ?_⟩, ?_⟩
  · rw [startsWithSymbol_self_append, hs]
    rfl
  · intro u w hsplit hw hat
    -- Whether the keyword stands at an earlier cut is decided before the keyword ends.
    have htake (x : List Char) : (w ++ (":where".toList ++ x)).take (":where".toList.length + 1) =
        (w ++ ":where".toList).take (":where".toList.length + 1) := by
      have hpositive := List.length_pos_iff.2 hw
      rw [← List.append_assoc, List.take_append_of_le_length]
      rw [List.length_append]
      omega
    apply h.first u w hsplit hw
    refine ⟨hat.code, ?_⟩
    rw [← startsWithSymbol_take, htake, ← htake s, startsWithSymbol_take]
    exact hat.whole

namespace WhereBlock

variable {text before block after : List Char}

theorem head?_block (h : WhereBlock text before block after) :
    (block ++ ']' :: after).head?.any isSymbolChar = false := by
  have hwhole := h.first.whole
  rw [startsWithSymbol_self_append] at hwhole
  simpa using hwhole

/-- A text has at most one `:where` block. -/
theorem unique (h : WhereBlock text before block after) {before' block' after' : List Char}
    (h' : WhereBlock text before' block' after') :
    before = before' ∧ block = block' ∧ after = after' := by
  obtain ⟨rfl, hrest⟩ := h.first.unique h'.first (h.text_eq.symm.trans h'.text_eq)
  have hends := Option.some.inj (h.ends.symm.trans h'.ends)
  simp only [List.length_append] at hends
  obtain ⟨hblock, hafter⟩ := List.append_inj (List.append_cancel_left hrest) (by omega)
  exact ⟨rfl, hblock, (List.cons.inj hafter).2⟩

/-- A block of conditions closes all that it opens. -/
theorem closeFrom_block (h : WhereBlock text before block after) :
    Position.code.after block = .code ∧ ∀ rest, closeFrom .code 0 (block ++ rest) =
      (closeFrom .code 0 rest).map (· + block.length) := by
  have hends := h.ends
  rw [h.text_eq, whereEnd_of_firstWhere h.first, closeFrom_keyword, map_add_map_add] at hends
  obtain ⟨d, hd, hlength⟩ := Option.map_eq_some_iff.1 hends
  obtain ⟨found, rest, hsplit, rfl, hcode, hclose⟩ := closeFrom_eq_some hd
  have hsame : found.length = block.length := by
    simp only [List.length_append] at hlength
    omega
  obtain ⟨rfl, -⟩ := List.append_inj hsplit hsame.symm
  exact ⟨hcode, hclose⟩

theorem code_keyword (h : WhereBlock text before block after) :
    Position.code.after (before ++ ":where".toList) = .code := by
  rw [Position.after_append, h.first.code]
  rfl

theorem code_end (h : WhereBlock text before block after) :
    Position.code.after (before ++ (":where".toList ++ block)) = .code := by
  rw [← List.append_assoc, Position.after_append, h.code_keyword, h.closeFrom_block.1]

/-- A block that is extended before its closing bracket is still the block of its text. -/
theorem extend (h : WhereBlock text before block after) {added : List Char}
    (hadded : Complete added) (hhead : added.head?.any isSymbolChar = false) :
    WhereBlock (before ++ (":where".toList ++ ((block ++ added) ++ ']' :: after))) before
      (block ++ added) after := by
  have hnext : ((block ++ added) ++ ']' :: after).head?.any isSymbolChar = false := by
    have hblock := h.head?_block
    cases block with
    | cons c block => exact hblock
    | nil =>
      cases added with
      | cons c added => exact hhead
      | nil => exact isSymbolChar_square
  have hfirst := h.first.congr hnext
  refine ⟨rfl, hfirst, ?_⟩
  have hend : closeFrom .code 0 (']' :: after) = some 0 := closeFrom_end (by decide)
  rw [whereEnd_of_firstWhere hfirst, closeFrom_keyword, List.append_assoc, h.closeFrom_block.2,
    closeFrom_matched hadded.matched, hadded.code, hend]
  simp only [Option.map_some, List.length_append, Option.some.injEq]
  omega

/-- A variable stands in the block exactly if it is found there. -/
theorem usedIn_iff (h : WhereBlock text before block after) {v : Var} (hv : isPlain v = true) :
    UsedIn v before block after ↔ hasVar block v = true := by
  have hsymbol := isSymbolChar_of_mem_text hv
  have hsquare : (']' :: after).head?.any isSymbolChar = false := isSymbolChar_square
  -- The block starts with a character of no symbol, so a variable is not at its start.
  have hlast (left right : List Char) (hblock : block = left ++ (v.text.toList ++ right)) :
      (before ++ (":where".toList ++ left)).getLast? = left.getLast? := by
    have hleft : left ≠ [] := by
      rintro rfl
      have hstart := h.head?_block
      rw [hblock, Var.text, String.toList_append] at hstart
      simp [isSymbolChar_question] at hstart
    rw [← List.append_assoc, List.getLast?_append_of_ne_nil _ hleft]
  rw [hasVar_iff]
  constructor
  · rintro ⟨left, right, hblock, hat⟩
    refine ⟨left, v.text.toList ++ right, hblock, ?_, ?_, ?_⟩
    · have hcode := hat.code
      rw [← List.append_assoc, Position.after_append, h.code_keyword] at hcode
      exact hcode
    · rw [← hlast left right hblock]
      exact hat.start
    · have hwhole := hat.whole
      rw [← List.append_assoc, startsWithSymbol_append hsymbol _ hsquare] at hwhole
      exact hwhole
  · rintro ⟨left, rest, hblock, hat⟩
    have hwhole := hat.whole
    rw [startsWithSymbol, Bool.and_eq_true, List.isPrefixOf_iff_prefix] at hwhole
    obtain ⟨right, rfl⟩ := hwhole.1
    refine ⟨left, right, hblock, ?_, ?_, ?_⟩
    · rw [← List.append_assoc, Position.after_append, h.code_keyword]
      exact hat.code
    · rw [hlast left right hblock]
      exact hat.start
    · rw [← List.append_assoc, startsWithSymbol_append hsymbol _ hsquare]
      exact hat.whole

/-- A block that is extended has the variables that its text had and those of the extension. -/
theorem hasVar_extend (h : WhereBlock text before block after) {v : Var} (hv : isPlain v = true)
    {added : List Char} (hadded : Complete added)
    (hhead : added.head?.any isSymbolChar = false) :
    hasVar (before ++ (":where".toList ++ ((block ++ added) ++ ']' :: after))) v =
      (hasVar text v || hasVar added v) := by
  have hsquare : (']' :: after).head?.any isSymbolChar = false := isSymbolChar_square
  have hnext : (added ++ ']' :: after).head?.any isSymbolChar = false := by
    cases added with
    | nil => exact hsquare
    | cons c added => exact hhead
  have hold : text = (before ++ (":where".toList ++ block)) ++ ']' :: after := by
    simp [h.text_eq]
  have hnew : before ++ (":where".toList ++ ((block ++ added) ++ ']' :: after)) =
      (before ++ (":where".toList ++ block)) ++ (added ++ ']' :: after) := by
    simp
  rw [hold, hnew]
  unfold hasVar
  rw [hasSymbolFrom_append hv _ _ _ hnext, hasSymbolFrom_append hv _ _ _ hsquare,
    hasSymbolFrom_append hv _ _ _ hsquare, h.code_end, hadded.code, Bool.or_assoc]
  congr 1
  exact Bool.or_comm _ _

end WhereBlock

end OutlineQuery.QueryText
