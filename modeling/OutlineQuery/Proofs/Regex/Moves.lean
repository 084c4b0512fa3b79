import OutlineQuery.Proofs.Regex.Brackets

/-!
A step of the reader, taken apart. What it reads depends on the text and on whether verbose mode is
on; what it does with that depends on the state alone.
-/
namespace OutlineQuery.Regex

def GroupKind.name? : GroupKind → Option String
  | named name => some name
  | _ => none

/-- What a step does to the state of the reader. -/
inductive Move where
  | opens (kind : GroupKind)
  | closes
  | branches
  | sets (change : FlagChange)
  | adds (item : Ast)
  | repeats (min : Nat) (max : Option Nat) (greedy : Bool)

def Move.name? : Move → Option String
  | opens kind => kind.name?
  | _ => none

namespace ReaderState

/-- The state after a move, if it can be made. A group must have a new name, a group that is closed
must be open, and there must be something to repeat. -/
def make (st : ReaderState) : Move → Option ReaderState
  | .opens kind =>
    if kind.name?.any st.names.contains then none else some (st.openGroup kind)
  | .closes => st.closeGroup
  | .branches => some { st with level := st.level.branch }
  | .sets change => some (st.setFlags change)
  | .adds item => some (st.push item)
  | .repeats min max greedy =>
    (st.level.repeatLast min max greedy).map fun level => { st with level }

end ReaderState

def readName (cs : List Char) : Option (Move × List Char) :=
  match cs.dropWhile (· != '>') with
  | [] => none
  | _ :: rest =>
    if isGroupName (cs.takeWhile (· != '>')) then
      some (.opens (.named (String.ofList (cs.takeWhile (· != '>')))), rest)
    else none

def readSwitches (cs : List Char) : Option (Move × List Char) :=
  (readFlags FlagChange.none false false cs).bind fun x =>
    if x.2.1 = ':' then some (.opens (.plain x.1), x.2.2)
    else if x.1 = FlagChange.none then none
    else some (.sets x.1, x.2.2)

/-- Reads what an opening parenthesis begins, once blanks and comments after it are skipped. -/
def readOpening : List Char → Option (Move × List Char)
  | '?' :: 'P' :: '<' :: rest => readName rest
  | '?' :: '<' :: rest => readName rest
  | '?' :: rest => readSwitches rest
  | rest => some (.opens .capture, rest)

/-- A repetition, lazy if the mark for that follows. -/
def readRepeats (min : Nat) (max : Option Nat) (cs : List Char) : Option (Move × List Char) :=
  some (.repeats min max (readLazy cs).1, (readLazy cs).2)

/-- Reads what a step makes of a character and the text after it. -/
def readMove (verbose : Bool) (c : Char) (cs : List Char) : Option (Move × List Char) :=
  match c with
  | '(' => readOpening (skip verbose cs)
  | ')' => some (.closes, cs)
  | '|' => some (.branches, cs)
  | '[' => (readBracket verbose cs).map fun x => (.adds (.bracket x.1.1 x.1.2), x.2)
  | '?' => readRepeats 0 (some 1) cs
  | '*' => readRepeats 0 none cs
  | '+' => readRepeats 1 none cs
  | '{' => (readCounts verbose cs).bind fun x => readRepeats x.1.1 x.1.2 (skip verbose x.2)
  | '\\' => (readEscape verbose cs).map fun x => (.adds x.1.toAst, x.2)
  | '.' => some (.adds .dot, cs)
  | '^' => some (.adds (.assertion .lineStart), cs)
  | '$' => some (.adds (.assertion .lineEnd), cs)
  | c => some (.adds (.literal ⟨c, false⟩), cs)

namespace ReaderState

variable (st : ReaderState)

/-- A group with a name is read first and made then: only making it depends on the state. -/
theorem readNamedGroup_eq (cs : List Char) :
    readNamedGroup st cs = (readName cs).bind fun x => (st.make x.1).map (·, x.2) := by
  unfold readNamedGroup readName
  cases cs.dropWhile (· != '>') with
  | nil => rfl
  | cons _ rest =>
    by_cases hname : isGroupName (cs.takeWhile (· != '>')) = true
    · by_cases htaken : String.ofList (cs.takeWhile (· != '>')) ∈ st.names
      · simp [hname, htaken, make, GroupKind.name?]
      · simp [hname, htaken, make, GroupKind.name?]
    · simp [hname]

/-- What an opening parenthesis begins is read first and made then. -/
theorem readGroup_eq (cs : List Char) :
    readGroup st cs =
      (readOpening (skip st.verbose cs)).bind fun x => (st.make x.1).map (·, x.2) := by
  unfold readGroup readOpening
  generalize skip st.verbose cs = text
  split
  case h_1 => exact readNamedGroup_eq st _
  case h_2 => exact readNamedGroup_eq st _
  case h_3 rest _ _ =>
    simp only [readSwitches]
    cases readFlags FlagChange.none false false rest with
    | none => simp
    | some x =>
      by_cases hcolon : x.2.1 = ':'
      · simp [hcolon, make, GroupKind.name?]
      · by_cases hchange : x.1 = FlagChange.none
        · simp [hcolon, hchange]
        · simp [hcolon, hchange, make]
  case h_4 h1 h2 h3 => simp [make, GroupKind.name?]

/-- A repetition is read first and made then. -/
theorem readRepetition_eq (min : Nat) (max : Option Nat) (cs : List Char) :
    readRepetition st min max cs =
      (readRepeats min max cs).bind fun x => (st.make x.1).map (·, x.2) := by
  simp only [readRepetition, readRepeats, Option.bind_some, make, Option.map_map]
  cases st.level.repeatLast min max (readLazy cs).1 with
  | none => rfl
  | some level => rfl

/-- A step reads a move, which does not depend on what was read before but for the mode, and then
makes it, which does not depend on the text. -/
theorem step_eq (c : Char) (cs : List Char) :
    st.step c cs = (readMove st.verbose c cs).bind fun x => (st.make x.1).map (·, x.2) := by
  unfold step readMove
  split
  case h_1 => exact readGroup_eq st cs
  case h_2 => rfl
  case h_3 => rfl
  case h_4 => cases readBracket st.verbose cs <;> rfl
  case h_5 => exact readRepetition_eq st _ _ cs
  case h_6 => exact readRepetition_eq st _ _ cs
  case h_7 => exact readRepetition_eq st _ _ cs
  case h_8 =>
    cases readCounts st.verbose cs with
    | none => rfl
    | some x => exact readRepetition_eq st _ _ _
  case h_9 => cases readEscape st.verbose cs <;> rfl
  case h_10 => rfl
  case h_11 => rfl
  case h_12 => rfl
  case h_13 => simp [make]

end ReaderState

section Closing

variable {v : Bool} {cs rest : List Char} {m : Move}

theorem readLazy_close (cs u : List Char) :
    readLazy (cs ++ ')' :: u) = ((readLazy cs).1, (readLazy cs).2 ++ ')' :: u) := by
  rcases cs with _ | ⟨c, cs⟩
  · rfl
  by_cases hc : c = '?'
  · subst hc
    rfl
  · simp [readLazy, hc]

theorem readRepeats_leaves {min : Nat} {max : Option Nat}
    (h : readRepeats min max cs = some (m, rest)) : Leaves (readRepeats min max) cs m rest := by
  intro u
  obtain ⟨rfl, rfl⟩ := Prod.mk.inj (Option.some.inj h)
  simp [readRepeats, readLazy_close]

theorem readName_leaves (h : readName cs = some (m, rest)) : Leaves readName cs m rest := by
  intro u
  unfold readName at h ⊢
  split at h
  case h_1 => cases h
  case h_2 c after hafter =>
    have hne : cs.dropWhile (· != '>') ≠ [] := by simp [hafter]
    rw [dropWhile_append_of_ne_nil hne, takeWhile_append_of_ne_nil hne, hafter]
    split at h
    case isFalse => cases h
    case isTrue hname =>
      obtain ⟨rfl, rfl⟩ := Prod.mk.inj (Option.some.inj h)
      simp [hname]

/-- Switches end with a mark of their own, so what follows them is left. -/
theorem readFlags_append {change : FlagChange} {negated dangling : Bool}
    {result : FlagChange × Char × List Char}
    (h : readFlags change negated dangling cs = some result) (t : List Char) :
    readFlags change negated dangling (cs ++ t) = some (result.1, result.2.1, result.2.2 ++ t) := by
  fun_induction readFlags change negated dangling cs with
  | case1 => cases h
  | case2 => cases h
  | case3 change negated dangling c rest hstop hdangling =>
    cases h
    simp [readFlags, hstop, hdangling]
  | case4 => cases h
  | case5 change negated dangling rest hnegated hstop ih =>
    simpa only [List.cons_append, readFlags, if_neg hstop, if_neg hnegated, if_true] using ih h
  | case6 => cases h
  | case7 => cases h
  | case8 change dangling c rest hstop hhyphen flag hflag hnew ih =>
    simpa only [List.cons_append, readFlags, if_neg hstop, if_neg hhyphen, hflag, if_neg hnew,
      if_true] using ih h
  | case9 change negated dangling c rest hstop hhyphen flag hflag hnew hnegated ih =>
    simpa only [List.cons_append, readFlags, if_neg hstop, if_neg hhyphen, hflag, if_neg hnew,
      if_neg hnegated] using ih h

theorem readSwitches_leaves (h : readSwitches cs = some (m, rest)) :
    Leaves readSwitches cs m rest := by
  intro u
  obtain ⟨⟨change, stop, after⟩, hflags, h⟩ := Option.bind_eq_some_iff.1 h
  have hflags' := readFlags_append hflags (')' :: u)
  dsimp only at h hflags'
  simp only [readSwitches, hflags', Option.bind_some]
  split at h
  case isTrue hcolon =>
    obtain ⟨rfl, rfl⟩ := Prod.mk.inj (Option.some.inj h)
    rw [if_pos hcolon]
  case isFalse hcolon =>
    split at h
    case isTrue => cases h
    case isFalse hchange =>
      obtain ⟨rfl, rfl⟩ := Prod.mk.inj (Option.some.inj h)
      rw [if_neg hcolon, if_neg hchange]

/-- What an opening parenthesis begins is read to its own end. -/
theorem readOpening_leaves (h : readOpening cs = some (m, rest)) :
    Leaves readOpening cs m rest := by
  intro u
  unfold readOpening at h
  split at h
  case h_1 => exact readName_leaves h u
  case h_2 => exact readName_leaves h u
  case h_3 text hP hless =>
    -- The character after the question mark tells switches from a name, and it is there.
    rcases text with _ | ⟨c, text⟩
    · cases h
    have hc : c ≠ '<' := fun hc => hless text (hc ▸ rfl)
    have hc' : c ≠ 'P' := by
      rintro rfl
      cases h
    have hsame : readOpening ('?' :: c :: text ++ ')' :: u) =
        readSwitches (c :: text ++ ')' :: u) := by
      simp [readOpening, hc, hc']
    rw [hsame]
    exact readSwitches_leaves h u
  case h_4 hmark =>
    obtain ⟨rfl, rfl⟩ := Prod.mk.inj (Option.some.inj h)
    unfold readOpening
    split
    case h_1 heq => exact absurd heq (ne_cons_close (by decide) hmark u _)
    case h_2 heq => exact absurd heq (ne_cons_close (by decide) hmark u _)
    case h_3 heq => exact absurd heq (ne_cons_close (by decide) hmark u _)
    case h_4 => rfl

/-- A move leaves a closing parenthesis after it, unless a comment swallows it. -/
theorem readMove_close_cases {c : Char} (h : readMove v c cs = some (m, rest)) :
    Leaves (readMove v c) cs m rest ∨ Swallows (readMove v c) cs m rest := by
  unfold readMove at h
  split at h
  case h_1 =>
    rcases skip_close_cases v cs with hgoes | ⟨hnil, hswallows⟩
    · refine .inl fun u => ?_
      show readOpening (skip v (cs ++ ')' :: u)) = _
      rw [hgoes]
      exact readOpening_leaves h u
    · -- A comment right after the opening parenthesis hides the closing one.
      rw [hnil] at h
      obtain ⟨rfl, rfl⟩ := Prod.mk.inj (Option.some.inj h)
      refine .inr ⟨rfl, ?_⟩
      show readOpening (skip v (cs ++ [')'])) = _
      rw [hswallows]
      rfl
  case h_4 =>
    exact close_cases_of_map (g := readMove v '[') (w := fun b => Move.adds (.bracket b.1 b.2))
      (fun cs => rfl) (fun b after hb => .inl (readBracket_leaves hb)) h
  case h_5 => exact .inl (readRepeats_leaves h)
  case h_6 => exact .inl (readRepeats_leaves h)
  case h_7 => exact .inl (readRepeats_leaves h)
  case h_8 =>
    obtain ⟨⟨counts, after⟩, hcounts, h⟩ := Option.bind_eq_some_iff.1 h
    have hcounts' (t : List Char) : readMove v '{' (cs ++ t) =
        readRepeats counts.1 counts.2 (skip v (after ++ t)) := by
      show (readCounts v (cs ++ t)).bind _ = _
      rw [readCounts_append hcounts]
      rfl
    rcases skip_close_cases v after with hgoes | ⟨hnil, hswallows⟩
    · refine .inl fun u => ?_
      rw [hcounts', hgoes]
      exact readRepeats_leaves h u
    · rw [hnil] at h
      obtain ⟨rfl, rfl⟩ := Prod.mk.inj (Option.some.inj h)
      refine .inr ⟨rfl, ?_⟩
      rw [hcounts', hswallows]
      rfl
  case h_9 =>
    exact close_cases_of_map (g := readMove v '\\') (w := fun a => Move.adds a.toAst)
      (fun cs => rfl) (fun a after ha => readEscape_close_cases ha) h
  case h_13 =>
    obtain ⟨rfl, rfl⟩ := Prod.mk.inj (Option.some.inj h)
    exact .inl fun u => by simp [readMove]
  all_goals
    -- The character is all there is to read.
    obtain ⟨rfl, rfl⟩ := Prod.mk.inj (Option.some.inj h)
    exact .inl fun u => rfl

end Closing

end OutlineQuery.Regex
