import OutlineQuery.Proofs.Regex.GroupNames
import OutlineQuery.Proofs.Regex.Phrase
import OutlineQuery.Regex.Valid

/-!
Patterns put together from others, each in a group of its own and with bars between them. Such a
pattern can be read if no two of the others name a group alike, unless one of them ends in a comment
that hides the parenthesis after it.
-/
namespace OutlineQuery.Regex

open ReaderState (Carries Fresh under)

namespace Ast

variable {x : Ast} {items : List Ast} {rows : List (List Ast)} {n : Nat}

/-- The expression that matches one of some rows of items: a single row stands for itself. -/
def ofRows : List (List Ast) → Ast
  | [row] => ofItems row
  | rows => alternation (rows.map ofItems)

theorem nestingAll_le_iff : nestingAll items ≤ n ↔ ∀ x ∈ items, x.nesting ≤ n := by
  induction items with
  | nil => simp [nestingAll]
  | cons x rest ih => rw [nestingAll, Nat.max_le, ih, List.forall_mem_cons]

theorem nesting_ofItems_le (h : ∀ x ∈ items, x.nesting ≤ n) : (ofItems items).nesting ≤ n + 1 := by
  unfold ofItems
  split
  case h_1 => exact Nat.zero_le _
  case h_2 x => exact Nat.le_succ_of_le (h x List.mem_cons_self)
  case h_3 => exact Nat.succ_le_succ (nestingAll_le_iff.2 h)

/-- A choice of rows is two levels deeper than their items at most. -/
theorem nesting_ofRows_le (h : ∀ row ∈ rows, ∀ x ∈ row, x.nesting ≤ n) :
    (ofRows rows).nesting ≤ n + 2 := by
  have hrows : ∀ row ∈ rows, (ofItems row).nesting ≤ n + 1 :=
    fun row hrow => nesting_ofItems_le (h row hrow)
  unfold ofRows
  split
  case h_1 row => exact Nat.le_succ_of_le (hrows row List.mem_cons_self)
  case h_2 =>
    apply Nat.succ_le_succ
    rw [nestingAll_le_iff]
    simpa using hrows

theorem check_ofItems (unicode : Bool) (items : List Ast) :
    (ofItems items).check unicode = checkAll unicode items := by
  unfold ofItems
  split
  case h_1 => rfl
  case h_2 x =>
    simp only [checkAll]
    cases x.check unicode <;> rfl
  case h_3 => rfl

theorem checkAll_eq_some (h : ∀ x ∈ items, x.check true = some true) :
    checkAll true items = some true := by
  induction items with
  | nil => rfl
  | cons x rest ih =>
    obtain ⟨hx, hrest⟩ := List.forall_mem_cons.1 h
    simp only [checkAll, hx, ih hrest]

theorem check_ofRows (h : ∀ row ∈ rows, ∀ x ∈ row, x.check true = some true) :
    (ofRows rows).check true = some true := by
  have hrows : ∀ row ∈ rows, (ofItems row).check true = some true := by
    intro row hrow
    rw [check_ofItems, checkAll_eq_some (h row hrow)]
  unfold ofRows
  split
  case h_1 row => exact hrows row List.mem_cons_self
  case h_2 => exact checkAll_eq_some (by simpa using hrows)

theorem groupNames_ofRows (h : ∀ row ∈ rows, ∀ x ∈ row, x.groupNames = []) :
    (ofRows rows).groupNames = [] := by
  have hrows : ∀ row ∈ rows, (ofItems row).groupNames = [] := by
    intro row hrow
    rw [groupNames_ofItems]
    exact List.flatMap_eq_nil_iff.2 (h row hrow)
  unfold ofRows
  split
  case h_1 row => exact hrows row List.mem_cons_self
  case h_2 =>
    rw [groupNames, groupNamesAll_eq_flatMap]
    exact List.flatMap_eq_nil_iff.2 (by simpa using hrows)

/-- A valid expression is not too deep, and the check from left to right goes through. -/
theorem isValid_iff :
    x.isValid = true ↔ x.nesting ≤ nestingLimit ∧ (x.check true).isSome = true := by
  simp [isValid]

end Ast

namespace Level

theorem branches_extendRows_ne_nil {l : Level} (h : l.branches ≠ []) (row : List Ast)
    (rows : List (List Ast)) : (l.extendRows row rows).branches ≠ [] := by
  induction rows generalizing l row with
  | nil => exact h
  | cons next rest ih => exact ih (List.cons_ne_nil _ _) next

theorem close_of_branches {l : Level} (h : l.branches ≠ []) :
    l.close = .alternation l.branch.branches.reverse := by
  unfold close
  split
  case h_1 hnil => exact absurd hnil h
  case h_2 => rfl

/-- What stands before a choice of rows belongs to the first row. -/
theorem close_extendRows (lead row : List Ast) (rows : List (List Ast)) :
    ((empty.extend lead).extendRows row rows).close = Ast.ofRows ((lead ++ row) :: rows) := by
  cases rows with
  | nil => simp [extendRows, extend, close, empty, Ast.ofRows]
  | cons next rest =>
    have hbranches : ((empty.extend lead).extendRows row (next :: rest)).branches ≠ [] :=
      branches_extendRows_ne_nil (List.cons_ne_nil _ _) next rest
    rw [close_of_branches hbranches, branches_extendRows]
    simp [extend, empty, Ast.ofRows]

end Level

/-- The pattern can be read, and also with a closing parenthesis after it, which is then part of a
comment. -/
def endsInComment (pattern : String) : Bool :=
  (parse? pattern).isSome && (parse? (pattern ++ ")")).isSome

def groupNames (pattern : String) : List String :=
  ((parse? pattern).map Ast.groupNames).getD []

def depth (pattern : String) : Nat :=
  ((parse? pattern).map Ast.nesting).getD 0

/-- A pattern that can be read on its own and is over where its text is, with the state that the
reader is in then. -/
structure Part where
  pattern : String
  final : ReaderState
  run_eq : ReaderState.initial.run pattern.toList.length pattern.toList = some final
  opened_eq : final.opened = []
  comment_eq : endsInComment pattern = false

namespace Part

def expr (p : Part) : Ast :=
  p.final.level.close

def names (p : Part) : List String :=
  p.final.names

theorem parse_pattern (p : Part) : parse? p.pattern = some p.expr :=
  parse?_eq_some_iff.2 ⟨p.final, p.run_eq, p.opened_eq, rfl⟩

theorem isValid_pattern (p : Part) : isValid p.pattern = p.expr.isValid := by
  rw [isValid, p.parse_pattern]

theorem depth_pattern (p : Part) : depth p.pattern = p.expr.nesting := by
  rw [depth, p.parse_pattern]
  rfl

theorem mem_names_iff (p : Part) (n : String) : n ∈ p.names ↔ n ∈ groupNames p.pattern := by
  have hnotes := ReaderState.notesNames_of_run p.run_eq ReaderState.notesNames_initial
  rw [names, hnotes n, p.opened_eq, groupNames, p.parse_pattern]
  simp [expr, Level.mem_groupNames_close]

theorem carries (p : Part) : Carries p.pattern.toList.length .initial p.pattern.toList p.final := by
  rcases ReaderState.run_close_cases p.run_eq with hcarries | hswallowed
  · exact hcarries
  · have hread : parse? (p.pattern ++ ")") = some p.expr := by
      refine parse?_eq_some_iff.2 ⟨p.final, ?_, p.opened_eq, rfl⟩
      rw [String.toList_append, List.length_append]
      exact ReaderState.run_mono hswallowed 1
    have hcomment := p.comment_eq
    simp [endsInComment, p.parse_pattern, hread] at hcomment

/-- A pattern that can be read and does not end in a comment is a part. -/
theorem exists_pattern_eq {pattern : String} (hread : (parse? pattern).isSome = true)
    (hcomment : endsInComment pattern = false) : ∃ p : Part, p.pattern = pattern := by
  obtain ⟨e, he⟩ := Option.isSome_iff_exists.1 hread
  obtain ⟨st, hrun, hopened, -⟩ := parse?_eq_some_iff.1 he
  exact ⟨⟨pattern, st, hrun, hopened, hcomment⟩, rfl⟩

def grouped (p : Part) : List Char :=
  "(?:".toList ++ p.pattern.toList ++ [')']

def group (p : Part) : Ast :=
  .group (.plain .none) p.expr

variable {p : Part} {names : List String} {l : Level} {fuel : Nat} {rest : List Char}

/-- A part in a group is read as one item unless it names a group that is named already, and then
the text cannot be read. -/
theorem run_grouped (p : Part) (names : List String) (l : Level)
    (hfuel : p.grouped.length + rest.length ≤ fuel) :
    (Fresh names p.final → ∃ fuel', rest.length ≤ fuel' ∧
      ReaderState.run fuel ⟨false, names, l, []⟩ (p.grouped ++ rest) =
        ReaderState.run fuel' ⟨false, p.names ++ names, l.push p.group, []⟩ rest) ∧
    (¬Fresh names p.final →
      ReaderState.run fuel ⟨false, names, l, []⟩ (p.grouped ++ rest) = none) := by
  have hlength : p.grouped.length = p.pattern.toList.length + 4 := by
    simp [grouped]
  obtain ⟨k, rfl⟩ : ∃ k, fuel = p.pattern.toList.length + (k + 1) + 1 :=
    ⟨fuel - p.pattern.toList.length - 2, by omega⟩
  let outer : OpenGroup := ⟨.plain .none, l, false⟩
  -- One step opens the group, the part is read as if it were alone, and one step closes the group.
  have hopen : ReaderState.run (p.pattern.toList.length + (k + 1) + 1) ⟨false, names, l, []⟩
      (p.grouped ++ rest) = ReaderState.run (p.pattern.toList.length + (k + 1))
        (ReaderState.initial.under names [outer]) (p.pattern.toList ++ ')' :: rest) := by
    have htext : p.grouped ++ rest = '(' :: '?' :: ':' :: (p.pattern.toList ++ ')' :: rest) := by
      simp [grouped]
    rw [htext]
    exact ReaderState.run_of_step rfl rfl
  have hclose : (p.final.under names [outer]).make .closes =
      some ⟨false, p.names ++ names, l.push p.group, []⟩ := by
    simp [ReaderState.make, ReaderState.closeGroup, under, p.opened_eq, Part.names, group, expr,
      outer]
  have hstart : Fresh names .initial := by
    simp [Fresh, ReaderState.initial]
  have hbody := p.carries names [outer] rest (k + 1) hstart
  rw [hopen]
  refine ⟨fun hfresh => ?_, hbody.2⟩
  obtain ⟨j, hj, hrun⟩ := hbody.1 hfresh
  obtain ⟨j, rfl⟩ : ∃ i, j = i + 1 := ⟨j - 1, by omega⟩
  refine ⟨j, by omega, ?_⟩
  rw [hrun, ReaderState.run_of_skip_cons (ReaderState.skip_close _ rest)]
  show (ReaderState.make _ .closes).bind _ = _
  rw [hclose]
  rfl

/-- No name is one of those, and none is given by two of the parts. -/
def Apart (names : List String) (ps : List Part) : Prop :=
  (∀ p ∈ ps, Fresh names p.final) ∧ ps.Pairwise fun p q => Fresh p.names q.final

/-- Names of a part are taken for the parts after it. -/
theorem apart_cons {ps : List Part} :
    Apart names (p :: ps) ↔ Fresh names p.final ∧ Apart (p.names ++ names) ps := by
  have hsplit (q : Part) :
      Fresh (p.names ++ names) q.final ↔ Fresh p.names q.final ∧ Fresh names q.final := by
    simp [Fresh, not_or, forall_and]
  simp only [Apart, hsplit, List.forall_mem_cons, List.pairwise_cons, forall_and]
  constructor
  · rintro ⟨⟨hp, hps⟩, hheads, htail⟩
    exact ⟨hp, ⟨hheads, hps⟩, htail⟩
  · rintro ⟨hp, ⟨hheads, hps⟩, htail⟩
    exact ⟨⟨hp, hps⟩, hheads, htail⟩

/-- The parts in groups, with bars between them. -/
def joined (p : Part) : List Part → List Char
  | [] => p.grouped
  | q :: qs => p.grouped ++ '|' :: joined q qs

/-- What the parts are read as, one branch each. -/
def level (l : Level) (p : Part) (ps : List Part) : Level :=
  l.extendRows [p.group] (ps.map fun q => [q.group])

/-- Parts are read one branch each if their names are apart, and cannot be read otherwise. -/
theorem run_joined (names : List String) (l : Level) (p : Part) (ps : List Part)
    (hfuel : (joined p ps).length ≤ fuel) :
    (Apart names (p :: ps) → ∃ names',
      ReaderState.run fuel ⟨false, names, l, []⟩ (joined p ps) =
        some ⟨false, names', level l p ps, []⟩) ∧
    (¬Apart names (p :: ps) →
      ReaderState.run fuel ⟨false, names, l, []⟩ (joined p ps) = none) := by
  induction ps generalizing p names l fuel with
  | nil =>
    have hlength : p.grouped.length + ([] : List Char).length ≤ fuel := hfuel
    have hgroup := p.run_grouped names l hlength
    rw [List.append_nil] at hgroup
    rw [apart_cons]
    refine ⟨fun h => ?_, fun h => hgroup.2 fun hfresh => h ⟨hfresh, by simp [Apart]⟩⟩
    obtain ⟨j, -, hrun⟩ := hgroup.1 h.1
    exact ⟨_, hrun.trans (ReaderState.run_of_skip_nil rfl)⟩
  | cons q qs ih =>
    have hlength : p.grouped.length + ('|' :: joined q qs).length ≤ fuel := by
      rwa [← List.length_append]
    have hgroup := p.run_grouped names l hlength
    rw [apart_cons]
    by_cases hfresh : Fresh names p.final
    · obtain ⟨j, hj, hrun⟩ := hgroup.1 hfresh
      obtain ⟨j, rfl⟩ : ∃ i, j = i + 1 := ⟨j - 1, by rw [List.length_cons] at hj; omega⟩
      -- The bar ends the branch of the part.
      have hbar : ReaderState.run (j + 1) ⟨false, p.names ++ names, l.push p.group, []⟩
          ('|' :: joined q qs) =
          ReaderState.run j ⟨false, p.names ++ names, (l.push p.group).branch, []⟩ (joined q qs) :=
        ReaderState.run_of_step rfl rfl
      have hrest := ih (p.names ++ names) (l.push p.group).branch q (Nat.le_of_succ_le_succ hj)
      rw [joined, hrun, hbar]
      exact ⟨fun h => hrest.1 h.2, fun h => hrest.2 fun happart => h ⟨hfresh, happart⟩⟩
    · exact ⟨fun h => absurd h.1 hfresh, fun _ => hgroup.2 hfresh⟩

variable {pattern : String} {ignoreCase : Bool}

/-- A pattern made of parts, after the switch for case, is read as the choice between them if no two
of them name a group alike, and cannot be read otherwise. -/
theorem parse_joined (p : Part) (ps : List Part)
    (h : pattern.toList = caseText ignoreCase ++ joined p ps) :
    ((p :: ps).Pairwise (fun p q => Fresh p.names q.final) →
      parse? pattern = some (level (Level.empty.extend (caseItems ignoreCase)) p ps).close) ∧
    (¬(p :: ps).Pairwise (fun p q => Fresh p.names q.final) → parse? pattern = none) := by
  have hapart : Apart [] (p :: ps) ↔ (p :: ps).Pairwise fun p q => Fresh p.names q.final := by
    simp [Apart, Fresh]
  have hcalm : isCalm (joined p ps) = true := by
    cases ps <;> rfl
  obtain ⟨k, hk, hcase⟩ := writes_caseText ignoreCase Level.empty [] [] (joined p ps)
    pattern.toList.length hcalm (by rw [h, List.length_append])
  have hjoined := run_joined [] (Level.empty.extend (caseItems ignoreCase)) p ps hk
  have hparse : parse? pattern =
      (ReaderState.run k ⟨false, [], Level.empty.extend (caseItems ignoreCase), []⟩
        (joined p ps)).bind ReaderState.finish := by
    rw [parse?, ← hcase, ← h]
    rfl
  rw [hparse, ← hapart]
  refine ⟨fun happart => ?_, fun happart => ?_⟩
  · obtain ⟨names, hrun⟩ := hjoined.1 happart
    rw [hrun]
    rfl
  · rw [hjoined.2 happart]
    rfl

/-- The expression that the parts are read as. -/
def choice (ignoreCase : Bool) (p : Part) (ps : List Part) : Ast :=
  Ast.ofRows ((caseItems ignoreCase ++ [p.group]) :: ps.map fun q => [q.group])

theorem close_level (p : Part) (ps : List Part) :
    (level (Level.empty.extend (caseItems ignoreCase)) p ps).close = choice ignoreCase p ps :=
  Level.close_extendRows _ _ _

theorem check_group (h : p.expr.isValid = true) : p.group.check true = some true := by
  obtain ⟨unicode, hcheck⟩ := Option.isSome_iff_exists.1 (Ast.isValid_iff.1 h).2
  show (p.expr.check true).map _ = _
  rw [hcheck]
  rfl

/-- A choice of valid parts passes the check, with Unicode on after it. -/
theorem check_choice {ps : List Part} (h : ∀ q ∈ p :: ps, q.expr.isValid = true) :
    (choice ignoreCase p ps).check true = some true := by
  obtain ⟨hp, hps⟩ := List.forall_mem_cons.1 h
  have hcase : ∀ x ∈ caseItems ignoreCase, x.check true = some true := by
    cases ignoreCase with
    | false => simp [caseItems]
    | true => exact List.forall_mem_singleton.2 rfl
  refine Ast.check_ofRows (List.forall_mem_cons.2 ⟨?_, ?_⟩)
  · exact List.forall_mem_append.2 ⟨hcase, List.forall_mem_singleton.2 (check_group hp)⟩
  · simpa using fun q hq => check_group (hps q hq)

theorem nesting_choice_le {ps : List Part} {n : Nat} (h : ∀ q ∈ p :: ps, q.expr.nesting ≤ n) :
    (choice ignoreCase p ps).nesting ≤ n + 3 := by
  have hgroup : ∀ q ∈ p :: ps, q.group.nesting ≤ n + 1 :=
    fun q hq => Nat.succ_le_succ (h q hq)
  have hcase : ∀ x ∈ caseItems ignoreCase, x.nesting ≤ n + 1 := by
    cases ignoreCase with
    | false => simp [caseItems]
    | true => exact List.forall_mem_singleton.2 (Nat.zero_le _)
  obtain ⟨hp, hps⟩ := List.forall_mem_cons.1 hgroup
  refine Ast.nesting_ofRows_le (List.forall_mem_cons.2 ⟨?_, by simpa using hps⟩)
  exact List.forall_mem_append.2 ⟨hcase, List.forall_mem_singleton.2 hp⟩

/-- A choice adds a level for the group and one for the bars to the depth of each part, and the
switch for case one more to that of the first. -/
theorem nesting_choice_le_iff {ps : List Part} (hps : ps ≠ []) {n : Nat} :
    (choice ignoreCase p ps).nesting ≤ n + 2 ↔
      p.expr.nesting + ignoreCase.toNat ≤ n ∧ ∀ q ∈ ps, q.expr.nesting ≤ n := by
  obtain ⟨q, qs, rfl⟩ := List.exists_cons_of_ne_nil hps
  have hfirst : (Ast.ofItems (caseItems ignoreCase ++ [p.group])).nesting =
      p.expr.nesting + 1 + ignoreCase.toNat := by
    cases ignoreCase with
    | false => rfl
    | true => simp [caseItems, Ast.ofItems, Ast.nesting, Ast.nestingAll, group]
  calc (choice ignoreCase p (q :: qs)).nesting ≤ n + 2
      ↔ ∀ x ∈ ((caseItems ignoreCase ++ [p.group]) :: (q :: qs).map fun r => [r.group]).map
          Ast.ofItems, x.nesting ≤ n + 1 := by
        rw [← Ast.nestingAll_le_iff]
        exact Nat.succ_le_succ_iff
    _ ↔ p.expr.nesting + 1 + ignoreCase.toNat ≤ n + 1 ∧
          ∀ r ∈ q :: qs, r.expr.nesting + 1 ≤ n + 1 := by
        rw [List.map_cons, List.forall_mem_cons, hfirst, List.map_map, List.forall_mem_map]
        rfl
    _ ↔ _ := by
        simp only [Nat.add_right_comm _ 1, Nat.add_le_add_iff_right]

/-- A choice of valid parts is valid if their names are apart and it does not become too deep. -/
theorem isValid_joined_iff {ps : List Part}
    (htext : pattern.toList = caseText ignoreCase ++ joined p ps)
    (hvalid : ∀ q ∈ p :: ps, q.expr.isValid = true) :
    isValid pattern = true ↔
      (p :: ps).Pairwise (fun p q => ∀ n ∈ groupNames q.pattern, n ∉ groupNames p.pattern) ∧
        (choice ignoreCase p ps).nesting ≤ nestingLimit := by
  have hparse := parse_joined p ps htext
  have hfresh (p q : Part) :
      (∀ n ∈ groupNames q.pattern, n ∉ groupNames p.pattern) ↔ Fresh p.names q.final := by
    simp only [← mem_names_iff]
    rfl
  simp only [hfresh]
  by_cases hapart : (p :: ps).Pairwise fun p q => Fresh p.names q.final
  · rw [isValid, hparse.1 hapart, close_level]
    simp [Ast.isValid_iff, check_choice hvalid, hapart]
  · rw [isValid, hparse.2 hapart]
    simp [hapart]

end Part

end OutlineQuery.Regex
