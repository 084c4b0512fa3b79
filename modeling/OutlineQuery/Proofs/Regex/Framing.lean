import Mathlib.Tactic.ByContra
import OutlineQuery.Proofs.Regex.Moves

/-!
Reading inside a group. A text that can be read on its own is read the same way inside groups that
are already open, up to the parenthesis that closes the innermost of them. There are two exceptions:
it names a group like one before it, or it ends in a comment, of which that parenthesis is part.
-/
namespace OutlineQuery.Regex

namespace ReaderState

variable {st st' : ReaderState} {cs rest : List Char} {c : Char} {m : Move} {fuel : Nat}
  {kind : GroupKind} {names : List String} {opened : List OpenGroup}

/-- The state that the reader would be in if groups had been named and opened before it started. -/
def under (st : ReaderState) (names : List String) (opened : List OpenGroup) : ReaderState :=
  { st with names := st.names ++ names, opened := st.opened ++ opened }

/-- None of the names has been read. -/
def Fresh (names : List String) (st : ReaderState) : Prop :=
  ∀ n ∈ st.names, n ∉ names

theorem make_opens (h : st.make (.opens kind) = some st') :
    (∀ n, kind.name? = some n → n ∉ st.names) ∧ st' = st.openGroup kind := by
  simp only [make] at h
  split at h
  case isTrue => cases h
  case isFalse hnew =>
    refine ⟨fun n hn => ?_, (Option.some.inj h).symm⟩
    simpa [hn] using hnew

theorem names_openGroup (st : ReaderState) (kind : GroupKind) :
    (st.openGroup kind).names = kind.name?.toList ++ st.names := by
  cases kind <;> rfl

/-- A group is closed if one is open, and becomes an item of the level around it. -/
theorem make_closes (h : st.make .closes = some st') :
    ∃ g outer, st.opened = g :: outer ∧ st' = { st with
      verbose := g.verbose
      level := g.outer.push (.group g.kind st.level.close)
      opened := outer } := by
  simp only [make, closeGroup] at h
  split at h
  case h_1 => cases h
  case h_2 g outer hopened => exact ⟨g, outer, hopened, (Option.some.inj h).symm⟩

theorem make_repeats {least : Nat} {most : Option Nat} {greedy : Bool}
    (h : st.make (.repeats least most greedy) = some st') :
    ∃ level, st.level.repeatLast least most greedy = some level ∧ st' = { st with level } := by
  obtain ⟨level, hlevel, rfl⟩ := Option.map_eq_some_iff.1 h
  exact ⟨level, hlevel, rfl⟩

theorem names_of_make (h : st.make m = some st') : st'.names = m.name?.toList ++ st.names := by
  cases m with
  | opens kind =>
    obtain ⟨-, rfl⟩ := make_opens h
    exact names_openGroup st kind
  | closes =>
    obtain ⟨g, outer, -, rfl⟩ := make_closes h
    rfl
  | repeats least most greedy =>
    obtain ⟨level, -, rfl⟩ := make_repeats h
    rfl
  | branches | sets | adds =>
    obtain rfl := Option.some.inj h
    rfl

/-- A move can be made under open groups as well, unless it takes a name that was given before. -/
theorem make_under (h : st.make m = some st') :
    (st.under names opened).make m =
      if m.name?.any names.contains then none else some (st'.under names opened) := by
  cases m with
  | opens kind =>
    obtain ⟨hnew, rfl⟩ := make_opens h
    cases kind with
    | named n =>
      have hn := hnew n rfl
      simp [make, Move.name?, GroupKind.name?, under, openGroup, hn]
    | capture => rfl
    | plain change => rfl
  | closes =>
    obtain ⟨g, outer, hopened, rfl⟩ := make_closes h
    simp [make, Move.name?, closeGroup, under, hopened]
  | repeats least most greedy =>
    obtain ⟨level, hlevel, rfl⟩ := make_repeats h
    simp [make, Move.name?, under, hlevel]
  | branches | sets | adds =>
    obtain rfl := Option.some.inj h
    rfl

/-- Names stay fresh unless the move gives one of them. -/
theorem fresh_iff_of_make (h : st.make m = some st') :
    Fresh names st' ↔ m.name?.any names.contains = false ∧ Fresh names st := by
  -- A move notes at most one name, in front of those noted before.
  rw [Fresh, names_of_make h, List.forall_mem_append]
  refine and_congr_left' ?_
  cases m.name? <;> simp

theorem run_of_skip_nil (h : skip st.verbose cs = []) : run fuel st cs = some st := by
  rw [run, h]

theorem run_of_skip_cons (h : skip st.verbose cs = c :: rest) :
    run (fuel + 1) st cs = (readMove st.verbose c rest).bind fun x =>
      (st.make x.1).bind fun st' => run fuel st' x.2 := by
  rw [run, h]
  simp only [step_eq]
  cases readMove st.verbose c rest with
  | none => rfl
  | some x => cases hmake : st.make x.1 <;> simp [hmake]

theorem run_zero_of_skip_cons (h : skip st.verbose cs = c :: rest) : run 0 st cs = none := by
  rw [run, h]

/-- Blanks and comments before a text do not matter. -/
theorem run_congr {ds : List Char} (h : skip st.verbose cs = skip st.verbose ds) :
    run fuel st cs = run fuel st ds := by
  rw [run, run, h]

/-- Induction on a run that succeeds: what holds where the text is over, and before a move if it
holds after it, holds at the start. -/
theorem run_induction {motive : Nat → ReaderState → List Char → Prop}
    (h : run fuel st cs = some st')
    (ended : ∀ fuel cs, skip st'.verbose cs = [] → motive fuel st' cs)
    (move : ∀ fuel st cs c rest m after st₁, skip st.verbose cs = c :: rest →
      readMove st.verbose c rest = some (m, after) → st.make m = some st₁ →
      run fuel st₁ after = some st' → motive fuel st₁ after → motive (fuel + 1) st cs) :
    motive fuel st cs := by
  -- The state at the end is fixed; the state and the text on the way are not.
  induction fuel generalizing st cs with
  | zero =>
    cases hskip : skip st.verbose cs with
    | nil =>
      rw [run_of_skip_nil hskip] at h
      cases h
      exact ended 0 cs hskip
    | cons c rest =>
      rw [run_zero_of_skip_cons hskip] at h
      cases h
  | succ fuel ih =>
    cases hskip : skip st.verbose cs with
    | nil =>
      rw [run_of_skip_nil hskip] at h
      cases h
      exact ended _ cs hskip
    | cons c rest =>
      rw [run_of_skip_cons hskip] at h
      obtain ⟨⟨m, after⟩, hmove, h⟩ := Option.bind_eq_some_iff.1 h
      obtain ⟨st₁, hmake, h⟩ := Option.bind_eq_some_iff.1 h
      exact move fuel st cs c rest m after st₁ hskip hmove hmake h (ih h)

/-- Fuel that is enough stays enough. -/
theorem run_mono (h : run fuel st cs = some st') (k : Nat) : run (fuel + k) st cs = some st' := by
  apply run_induction (motive := fun fuel st cs => run (fuel + k) st cs = some st') h
  case ended => exact fun fuel cs hskip => run_of_skip_nil hskip
  case move =>
    intro fuel st cs c rest m after st₁ hskip hmove hmake _ ih
    rw [Nat.add_right_comm, run_of_skip_cons hskip, hmove, Option.bind_some, hmake]
    exact ih

/-- Names that are fresh after a run were fresh before it. -/
theorem Fresh.of_run (h : run fuel st cs = some st') (hfresh : Fresh names st') :
    Fresh names st := by
  apply run_induction (motive := fun _ st _ => Fresh names st) h
  case ended => exact fun _ _ _ => hfresh
  case move =>
    intro fuel st cs c rest m after st₁ _ _ hmake _ ih
    exact ((fresh_iff_of_make hmake).1 ih).2

/-- With any fuel beyond this the text takes the reader, also under open groups, from one state to
another and up to a closing parenthesis after it. Where it names a group like one before it, it
cannot be read there. -/
def Carries (fuel : Nat) (st : ReaderState) (cs : List Char) (st' : ReaderState) : Prop :=
  ∀ names opened u k, Fresh names st →
    (Fresh names st' → ∃ j, k ≤ j ∧
      run (fuel + k) (st.under names opened) (cs ++ ')' :: u) =
        run j (st'.under names opened) (')' :: u)) ∧
    (¬Fresh names st' → run (fuel + k) (st.under names opened) (cs ++ ')' :: u) = none)

theorem skip_close (v : Bool) (u : List Char) : skip v (')' :: u) = ')' :: u := by
  cases v <;> rfl

/-- A text of blanks and comments changes nothing, unless it swallows the parenthesis. -/
theorem carries_of_skip (hskip : ∀ u, skip st.verbose (cs ++ ')' :: u) = ')' :: u) :
    Carries fuel st cs st := by
  intro names opened u k hfresh
  refine ⟨fun _ => ⟨fuel + k, Nat.le_add_left _ _, run_congr ?_⟩, fun h => absurd hfresh h⟩
  show skip st.verbose _ = skip st.verbose _
  rw [hskip, skip_close]

/-- A text carries the reader on if its first move does and then the rest of it. -/
theorem Carries.of_move {st₁ : ReaderState} {after : List Char}
    (hskip : skip st.verbose cs = c :: rest) (hmove : Leaves (readMove st.verbose c) rest m after)
    (hmake : st.make m = some st₁) (h : Carries fuel st₁ after st')
    (hgrows : ∀ names, Fresh names st' → Fresh names st₁) : Carries (fuel + 1) st cs st' := by
  intro names opened u k hfresh
  -- The open groups have no part in what is read, only in what can be made of it.
  have hskip' : skip (st.under names opened).verbose (cs ++ ')' :: u) =
      c :: (rest ++ ')' :: u) := by
    show skip st.verbose _ = _
    rw [skip_append (by simp [hskip]), hskip, List.cons_append]
  have hrun : run (fuel + 1 + k) (st.under names opened) (cs ++ ')' :: u) =
      ((st.under names opened).make m).bind fun x => run (fuel + k) x (after ++ ')' :: u) := by
    rw [Nat.add_right_comm, run_of_skip_cons hskip']
    show (readMove st.verbose c (rest ++ ')' :: u)).bind _ = _
    rw [hmove u, Option.bind_some]
  rw [hrun, make_under hmake]
  by_cases hfresh₁ : Fresh names st₁
  · rw [((fresh_iff_of_make hmake).1 hfresh₁).1]
    exact h names opened u k hfresh₁
  · have hname : m.name?.any names.contains = true := by
      by_contra hname
      exact hfresh₁ ((fresh_iff_of_make hmake).2 ⟨by simpa using hname, hfresh⟩)
    rw [hname]
    exact ⟨fun hfresh' => absurd (hgrows names hfresh') hfresh₁, fun _ => rfl⟩

/-- Either a text is read the same way in front of a closing parenthesis, or the parenthesis is part
of a comment at its end. -/
theorem run_close_cases (h : run fuel st cs = some st') :
    Carries fuel st cs st' ∨ run fuel st (cs ++ [')']) = some st' := by
  apply run_induction (motive := fun fuel st cs =>
    Carries fuel st cs st' ∨ run fuel st (cs ++ [')']) = some st') h
  case ended =>
    intro fuel cs hnil
    rcases skip_close_cases st'.verbose cs with hgoes | ⟨-, hswallows⟩
    · exact .inl (carries_of_skip fun u => by rw [hgoes, hnil, List.nil_append])
    · exact .inr (run_of_skip_nil hswallows)
  case move =>
    intro fuel st cs c rest m after st₁ hskip hmove hmake hrun ih
    have hskip' : skip st.verbose (cs ++ [')']) = c :: (rest ++ [')']) := by
      rw [skip_append (by simp [hskip]), hskip, List.cons_append]
    rcases readMove_close_cases hmove with hleaves | ⟨rfl, hswallows⟩
    · rcases ih with hcarries | hcomment
      · exact .inl (hcarries.of_move hskip hleaves hmake fun names => Fresh.of_run hrun)
      · refine .inr ?_
        rw [run_of_skip_cons hskip', hleaves [], Option.bind_some, hmake]
        exact hcomment
    · -- The comment starts within this move, so nothing is left to read.
      refine .inr ?_
      rw [run_of_skip_cons hskip', hswallows, Option.bind_some, hmake]
      exact hrun

end ReaderState

end OutlineQuery.Regex
