import OutlineQuery.Proofs.Regex.Matching

/-!
How the reader goes over a text in the middle of a pattern. What a text is read as depends on what
comes after it only if that starts with a mark of repetition; apart from this, texts that are read
one by one are read together.
-/
namespace OutlineQuery.Regex

namespace Level

def extend (l : Level) (items : List Ast) : Level :=
  { l with items := items.reverse ++ l.items }

theorem extend_nil (l : Level) : l.extend [] = l := rfl

theorem extend_append (l : Level) (xs ys : List Ast) :
    l.extend (xs ++ ys) = (l.extend xs).extend ys := by
  simp [extend]

/-- Adds a row of items to the branch being read, and more rows as branches after it. -/
def extendRows (l : Level) (row : List Ast) : List (List Ast) → Level
  | [] => l.extend row
  | next :: rest => (l.extend row).branch.extendRows next rest

/-- The first row is added to the items already there, the others are branches of their own. -/
theorem branches_extendRows (l : Level) (row : List Ast) (rows : List (List Ast)) :
    (l.extendRows row rows).branch.branches.reverse =
      l.branches.reverse ++ Ast.ofItems (l.items.reverse ++ row) :: rows.map Ast.ofItems := by
  induction rows generalizing l row with
  | nil => simp [extendRows, branch, extend]
  | cons next rest ih =>
    rw [extendRows, ih]
    simp [branch, extend]

/-- A level leads on by one of its branches, the one being read included. -/
theorem leads_close {l : Level} {m : Mode} {p q : Cursor} :
    l.close.Leads m p q ↔ Ast.LeadsByOne m l.branch.branches.reverse p q := by
  obtain ⟨branches, items⟩ := l
  cases branches with
  | nil => simp [close, branch, Ast.LeadsByOne]
  | cons b rest => simp [close, Ast.Leads]

end Level

/-- The text does not start with a mark that changes how what stands before it is read. -/
def isCalm (cs : List Char) : Bool :=
  cs.head?.all fun c => c != '?' && c != '{'

theorem isCalm_cons_iff {c : Char} {cs : List Char} :
    isCalm (c :: cs) = true ↔ c ≠ '?' ∧ c ≠ '{' := by
  simp [isCalm]

theorem isCalm_append {cs ds : List Char} (hc : isCalm cs = true) (hd : isCalm ds = true) :
    isCalm (cs ++ ds) = true := by
  cases cs with
  | nil => exact hd
  | cons c cs => exact hc

/-- Reading a text takes the reader from one level to another, whatever groups are open and whatever
calm text comes after it. -/
def Reads (cs : List Char) (l l' : Level) : Prop :=
  ∀ names opened rest fuel, isCalm rest = true → cs.length + rest.length ≤ fuel →
    ∃ fuel', rest.length ≤ fuel' ∧
      ReaderState.run fuel ⟨false, names, l, opened⟩ (cs ++ rest) =
        ReaderState.run fuel' ⟨false, names, l', opened⟩ rest

/-- Outside verbose mode a run begins with a step, as nothing is skipped. -/
theorem ReaderState.run_of_step {st st' : ReaderState} {c : Char} {cs rest : List Char} {fuel : Nat}
    (hplain : st.verbose = false) (hstep : st.step c cs = some (st', rest)) :
    run (fuel + 1) st (c :: cs) = run fuel st' rest := by
  rw [run, hplain]
  simp only [skip, Bool.false_eq_true, if_false, hstep]

namespace Reads

variable {cs ds : List Char} {l l' l'' : Level}

theorem nil : Reads [] l l :=
  fun _ _ _ fuel _ hfuel => ⟨fuel, by simpa using hfuel, rfl⟩

/-- Texts that are read one after the other are read together, unless the second begins with a mark
of repetition. -/
theorem append (h : Reads cs l l') (h' : Reads ds l' l'') (hcalm : isCalm ds = true) :
    Reads (cs ++ ds) l l'' := by
  intro names opened rest fuel hrest hfuel
  rw [List.length_append] at hfuel
  obtain ⟨k, hk, hfirst⟩ := h names opened (ds ++ rest) fuel (isCalm_append hcalm hrest)
    (by rw [List.length_append]; omega)
  rw [List.length_append] at hk
  obtain ⟨k', hk', hsecond⟩ := h' names opened rest k hrest hk
  refine ⟨k', hk', ?_⟩
  rw [List.append_assoc, hfirst, hsecond]

/-- What one step takes is read in one step. -/
theorem of_step {c : Char}
    (h : ∀ names opened rest, isCalm rest = true →
      ReaderState.step ⟨false, names, l, opened⟩ c (cs ++ rest) =
        some (⟨false, names, l', opened⟩, rest)) :
    Reads (c :: cs) l l' := by
  intro names opened rest fuel hrest hfuel
  rw [List.length_cons] at hfuel
  obtain ⟨k, rfl⟩ : ∃ k, fuel = k + 1 := ⟨fuel - 1, by omega⟩
  refine ⟨k, by omega, ?_⟩
  rw [List.cons_append]
  exact ReaderState.run_of_step rfl (h names opened rest hrest)

/-- A pattern that is read as a whole is what its level closes to. -/
theorem parse {pattern : String} (h : Reads pattern.toList Level.empty l) :
    parse? pattern = some l.close := by
  obtain ⟨k, -, hrun⟩ := h [] [] [] pattern.toList.length rfl (by simp)
  rw [List.append_nil] at hrun
  rw [parse?, ReaderState.initial, hrun, ReaderState.run]
  rfl

theorem bar : Reads ['|'] l l.branch :=
  of_step fun _ _ _ _ => rfl

theorem ignoreCase : Reads "(?i)".toList l (l.extend [.flags ⟨[.ignoreCase], []⟩]) :=
  of_step fun _ _ _ _ => rfl

end Reads

/-- The characters with a meaning outside brackets. -/
def marks : List Char :=
  ['(', ')', '|', '[', '?', '*', '+', '{', '\\', '.', '^', '$']

theorem isMeta_of_mem_marks {c : Char} (h : c ∈ marks) : isMeta c = true := by
  have hall : marks.all isMeta = true := by decide
  exact List.all_eq_true.1 hall c h

theorem isCalm_of_not_mem_marks {c : Char} (h : c ∉ marks) : isCalm [c] = true := by
  rw [isCalm_cons_iff]
  constructor
  · rintro rfl
    exact h (by decide)
  · rintro rfl
    exact h (by decide)

theorem isCalm_escapeChar (c : Char) : isCalm (escapeChar c) = true := by
  unfold escapeChar
  split
  case isTrue => rfl
  case isFalse h => exact isCalm_of_not_mem_marks fun hc => h (isMeta_of_mem_marks hc)

/-- A brace after `\b` could ask for another boundary. -/
theorem readBoundary_of_isCalm {cs : List Char} (h : isCalm cs = true) :
    readBoundary false cs = some (.wordBoundary, cs) := by
  unfold readBoundary
  split
  case h_1 => exact absurd rfl (isCalm_cons_iff.1 h).2
  case h_2 => rfl

/-- A question mark after a repetition would make it lazy. -/
theorem readLazy_of_isCalm {cs : List Char} (h : isCalm cs = true) : readLazy cs = (true, cs) := by
  unfold readLazy
  split
  case h_1 => exact absurd rfl (isCalm_cons_iff.1 h).1
  case h_2 => rfl

/-- A text is read as the same items wherever it stands. -/
def Writes (cs : List Char) (items : List Ast) : Prop :=
  ∀ l, Reads cs l (l.extend items)

namespace Writes

variable {cs ds : List Char} {xs ys : List Ast}

theorem nil : Writes [] [] :=
  fun _ => Reads.nil

theorem append (h : Writes cs xs) (h' : Writes ds ys) (hcalm : isCalm ds = true) :
    Writes (cs ++ ds) (xs ++ ys) := by
  intro l
  rw [Level.extend_append]
  exact (h l).append (h' _) hcalm

/-- A character that has a meaning only after a backslash or in brackets stands for itself. -/
theorem char {c : Char} (h : c ∉ marks) : Writes [c] [.literal ⟨c, false⟩] := by
  intro l
  apply Reads.of_step
  intro names opened rest _
  simp only [ReaderState.step]
  split
  case h_13 => rfl
  all_goals simp [marks] at h

theorem backslash {c : Char} (h : isEscapable c = true) :
    Writes ['\\', c] [.literal ⟨c, false⟩] := by
  intro l
  apply Reads.of_step
  intro names opened rest _
  simp [ReaderState.step, readEscape, h, ReaderState.push, Level.push, Level.extend, Atom.char,
    Atom.toAst]

/-- An escaped character stands for itself, whatever it is. -/
theorem escapeChar (c : Char) : Writes (escapeChar c) [.literal ⟨c, false⟩] := by
  unfold Regex.escapeChar
  split
  case isTrue h =>
    have hall : metaChars.all isEscapable = true := by decide
    exact backslash (List.all_eq_true.1 hall c (List.contains_iff_mem.1 h))
  case isFalse h =>
    exact char fun hc => h (isMeta_of_mem_marks hc)

theorem lineStart : Writes ['^'] [.assertion .lineStart] :=
  fun _ => Reads.of_step fun _ _ _ _ => rfl

theorem lineEnd : Writes ['$'] [.assertion .lineEnd] :=
  fun _ => Reads.of_step fun _ _ _ _ => rfl

theorem wordBoundary : Writes ['\\', 'b'] [.assertion .wordBoundary] := by
  intro l
  apply Reads.of_step
  intro names opened rest hrest
  have hescape : readEscape false ('b' :: rest) = some (.assertion .wordBoundary, rest) := by
    rw [readEscape, readBoundary_of_isCalm hrest]
    rfl
  simp only [List.cons_append, List.nil_append, ReaderState.step, hescape]
  rfl

theorem anything : Writes ['.', '*'] [.repeated .dot 0 none true] := by
  intro l
  have hdot : Reads ['.'] l (l.push .dot) := Reads.of_step fun _ _ _ _ => rfl
  refine Reads.append hdot (Reads.of_step ?_) rfl
  intro names opened rest hrest
  simp only [ReaderState.step, readRepetition, List.nil_append, readLazy_of_isCalm hrest]
  rfl

/-- What is read on its own can be put in a group. -/
theorem group {l : Level} (h : Reads cs Level.empty l) :
    Writes ("(?:".toList ++ cs ++ [')']) [.group (.plain .none) l.close] := by
  intro outer names opened rest fuel hrest hfuel
  simp only [List.length_append, List.length_singleton] at hfuel
  have hopening : "(?:".toList = ['(', '?', ':'] := rfl
  rw [hopening] at hfuel ⊢
  simp only [List.length_cons, List.length_nil] at hfuel
  -- One step opens the group and one closes it; what is between them is read from an empty level.
  obtain ⟨k, rfl⟩ : ∃ k, fuel = k + 1 := ⟨fuel - 1, by omega⟩
  obtain ⟨k', hk', hbody⟩ := h names (⟨.plain .none, outer, false⟩ :: opened) (')' :: rest) k rfl
    (by rw [List.length_cons]; omega)
  rw [List.length_cons] at hk'
  obtain ⟨j, rfl⟩ : ∃ j, k' = j + 1 := ⟨k' - 1, by omega⟩
  refine ⟨j, by omega, ?_⟩
  calc ReaderState.run (k + 1) ⟨false, names, outer, opened⟩
        (['(', '?', ':'] ++ cs ++ [')'] ++ rest)
      = ReaderState.run k ⟨false, names, Level.empty, ⟨.plain .none, outer, false⟩ :: opened⟩
          (cs ++ ')' :: rest) := by
        simp only [List.cons_append, List.nil_append, List.append_assoc]
        exact ReaderState.run_of_step rfl rfl
    _ = ReaderState.run (j + 1) ⟨false, names, l, ⟨.plain .none, outer, false⟩ :: opened⟩
          (')' :: rest) := hbody
    _ = _ := ReaderState.run_of_step rfl rfl

end Writes

end OutlineQuery.Regex
