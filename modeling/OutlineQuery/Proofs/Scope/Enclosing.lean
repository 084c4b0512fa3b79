import OutlineQuery.Proofs.Scope.Places

/-!
The brackets around a place in a text. Which closing brackets are awaited at a place is a stack; a
text is matched exactly if nothing is awaited at its end. In matched text the search for the end of
the `:where` block finds the partner of the last bracket that is open at the first `:where`.
-/
namespace OutlineQuery.QueryText

open Datalog (Position)

/-- What a character does to the closing brackets that are awaited, unless it closes another one. -/
def awaitStep (p : Position) (stack : List Char) (c : Char) : Option (List Char) :=
  if p = .code then
    if isOpening c then some (closer c :: stack)
    else if isClosing c then if stack.head? = some c then some stack.tail else none
    else some stack
  else some stack

/-- The closing brackets that are awaited after a text. -/
def awaited : Position → List Char → List Char → Option (List Char)
  | _, stack, [] => some stack
  | p, stack, c :: rest =>
    (awaitStep p stack c).bind fun stack => awaited (p.step c) stack rest

theorem awaitStep_skip {p : Position} {c : Char}
    (h : p ≠ .code ∨ (isOpening c = false ∧ isClosing c = false)) (stack : List Char) :
    awaitStep p stack c = some stack := by
  rcases h with hp | ⟨hopen, hclose⟩
  · simp [awaitStep, hp]
  · simp [awaitStep, hopen, hclose]

theorem awaitStep_opening {c : Char} (h : isOpening c = true) (stack : List Char) :
    awaitStep .code stack c = some (closer c :: stack) := by
  simp [awaitStep, h]

theorem awaitStep_closing {c : Char} (h : isClosing c = true) (stack : List Char) :
    awaitStep .code stack c = if stack.head? = some c then some stack.tail else none := by
  simp [awaitStep, h, isOpening_of_isClosing h]

/-- What was awaited before stays below what is awaited in addition. -/
theorem awaitStep_frame {p : Position} {stack stack' : List Char} {c : Char}
    (h : awaitStep p stack c = some stack') (base : List Char) :
    awaitStep p (stack ++ base) c = some (stack' ++ base) := by
  rcases bracket_cases p c with hplain | ⟨rfl, hopen⟩ | ⟨rfl, hclose⟩
  · rw [awaitStep_skip hplain] at h ⊢
    rw [Option.some.inj h]
  · rw [awaitStep_opening hopen] at h ⊢
    rw [← Option.some.inj h, List.cons_append]
  · rw [awaitStep_closing hclose] at h ⊢
    cases stack with
    | nil => cases h
    | cons e stack => simpa using h

/-- Brackets opened before a text stay below those that it opens. -/
theorem awaited_frame {p : Position} {stack stack' cs : List Char}
    (h : awaited p stack cs = some stack') (base : List Char) :
    awaited p (stack ++ base) cs = some (stack' ++ base) := by
  induction cs generalizing p stack with
  | nil =>
    obtain rfl := Option.some.inj h
    rfl
  | cons c cs ih =>
    obtain ⟨next, hnext, hrest⟩ := Option.bind_eq_some_iff.1 h
    rw [awaited, awaitStep_frame hnext]
    exact ih hrest

theorem awaited_append (p : Position) (stack cs ds : List Char) :
    awaited p stack (cs ++ ds) =
      (awaited p stack cs).bind fun stack => awaited (p.after cs) stack ds := by
  induction cs generalizing p stack with
  | nil => rfl
  | cons c cs ih =>
    simp only [List.cons_append, awaited, ih, Option.bind_assoc, Position.after_cons]

theorem awaited_matched {p : Position} {cs : List Char} (h : Matched p cs) (stack : List Char) :
    awaited p stack cs = some stack := by
  induction h generalizing stack with
  | nil p => rfl
  | skip plain _ ih =>
    rw [awaited, awaitStep_skip plain]
    exact ih stack
  | @pair o inner rest opening _ inner_code _ ihinner ihrest =>
    have hclosing := isClosing_closer opening
    rw [awaited, awaitStep_opening opening, step_code_of_isOpening opening, Option.bind_some,
      awaited_append, ihinner, inner_code, Option.bind_some, awaited, awaitStep_closing hclosing,
      step_code_of_isClosing hclosing]
    simpa using ihrest stack

/-- A text after which nothing is awaited is matched up to the bracket that was awaited first, and
so on after it. -/
theorem exists_matched_of_awaited {p : Position} {stack cs : List Char}
    (h : awaited p stack cs = some []) :
    ∃ inner rest, cs = inner ++ rest ∧ Matched p inner ∧ ((stack = [] ∧ rest = []) ∨
      ∃ e stack' rest', stack = e :: stack' ∧ rest = e :: rest' ∧ p.after inner = .code ∧
        awaited .code stack' rest' = some []) := by
  induction hn : cs.length using Nat.strongRecOn generalizing p stack cs with
  | ind n ih =>
    cases cs with
    | nil => exact ⟨[], [], rfl, .nil p, .inl ⟨Option.some.inj h, rfl⟩⟩
    | cons c cs =>
      rw [List.length_cons] at hn
      obtain ⟨next, hnext, hrest⟩ := Option.bind_eq_some_iff.1 h
      rcases bracket_cases p c with hplain | ⟨rfl, hopen⟩ | ⟨rfl, hclose⟩
      · rw [awaitStep_skip hplain] at hnext
        obtain rfl := Option.some.inj hnext
        obtain ⟨inner, rest, rfl, hinner, hend⟩ := ih cs.length (by omega) hrest rfl
        exact ⟨c :: inner, rest, rfl, .skip hplain hinner, hend⟩
      · -- The partner ends the first matched part, and a second one comes after it.
        rw [awaitStep_opening hopen] at hnext
        obtain rfl := Option.some.inj hnext
        rw [step_code_of_isOpening hopen] at hrest
        obtain ⟨inner, _, rfl, hinner, ⟨hstack, -⟩ | ⟨_, _, after, hstack, rfl, hcode, hafter⟩⟩ :=
          ih cs.length (by omega) hrest rfl
        · cases hstack
        · obtain ⟨rfl, rfl⟩ := List.cons.inj hstack
          rw [List.length_append, List.length_cons] at hn
          obtain ⟨tail, rest, rfl, htail, hend⟩ := ih after.length (by omega) hafter rfl
          have hpair := Matched.pair hopen hinner hcode htail
          refine ⟨_, rest, ?_, hpair, ?_⟩
          · simp
          · rw [after_pair hopen hcode]
            exact hend
      · rw [awaitStep_closing hclose, Option.ite_none_right_eq_some, Option.some.injEq] at hnext
        obtain ⟨hhead, rfl⟩ := hnext
        obtain ⟨stack', rfl⟩ := List.head?_eq_some_iff.1 hhead
        rw [step_code_of_isClosing hclose] at hrest
        exact ⟨[], c :: cs, rfl, .nil _, .inr ⟨c, stack', cs, rfl, rfl, rfl, hrest⟩⟩

/-- A text is matched if it awaits no bracket at its end and met none it did not await. -/
theorem matched_iff_awaited {p : Position} {cs : List Char} :
    Matched p cs ↔ awaited p [] cs = some [] := by
  constructor
  · exact fun h => awaited_matched h []
  · intro h
    obtain ⟨inner, _, rfl, hinner, ⟨-, rfl⟩ | ⟨_, _, _, hstack, -⟩⟩ := exists_matched_of_awaited h
    · rw [List.append_nil]
      exact hinner
    · cases hstack

instance (p : Position) (cs : List Char) : Decidable (Matched p cs) :=
  decidable_of_iff _ matched_iff_awaited.symm

namespace Complete

theorem right {cs ds : List Char} (h : Complete (cs ++ ds)) (hcs : Complete cs) : Complete ds := by
  have hcode := h.code
  have hawaited := awaited_matched h.matched []
  rw [Position.after_append, hcs.code] at hcode
  rw [awaited_append, awaited_matched hcs.matched, hcs.code] at hawaited
  exact ⟨matched_iff_awaited.2 hawaited, hcode⟩

theorem not_closing {c : Char} (hc : isClosing c = true) (cs : List Char) :
    ¬Complete (c :: cs) := by
  intro h
  have hawaited := awaited_matched h.matched []
  rw [awaited, awaitStep_closing hc] at hawaited
  cases hawaited

/-- Only one closing bracket comes after complete text. -/
theorem eq_of_append_eq {cs ds r s : List Char} (hcs : Complete cs) (hds : Complete ds) {c : Char}
    (hc : isClosing c = true) (h : cs ++ c :: r = ds ++ c :: s) : cs = ds := by
  rcases List.append_eq_append_iff.1 h with ⟨w, rfl, hw⟩ | ⟨w, rfl, hw⟩
  · cases w with
    | nil => rw [List.append_nil]
    | cons d w =>
      obtain ⟨rfl, -⟩ := List.cons.inj hw
      exact absurd (hds.right hcs) (not_closing hc w)
  · cases w with
    | nil => rw [List.append_nil]
    | cons d w =>
      obtain ⟨rfl, -⟩ := List.cons.inj hw
      exact absurd (hcs.right hds) (not_closing hc w)

end Complete

/-- Complete text can be put into matched text at a place outside of literals. -/
theorem Matched.insert {p : Position} {u v : List Char} (h : Matched p (u ++ v))
    (hcode : p.after u = .code) {added : List Char} (hadded : Complete added) :
    Matched p (u ++ (added ++ v)) := by
  rw [matched_iff_awaited, awaited_append, hcode] at h ⊢
  obtain ⟨stack, hu, hv⟩ := Option.bind_eq_some_iff.1 h
  rw [hu, Option.bind_some, awaited_append, awaited_matched hadded.matched, hadded.code]
  exact hv

/-- A bracket is open at the end of a text if its partner comes later. -/
theorem not_matched_of_open {p : Position} {o : Char} {before left right : List Char}
    (ho : isOpening o = true) (hcode : p.after before = .code) (h : Complete (left ++ right)) :
    ¬Matched p (before ++ o :: left) := by
  intro hmatched
  have hend := awaited_matched hmatched []
  rw [awaited_append, hcode] at hend
  obtain ⟨stack, -, hend⟩ := Option.bind_eq_some_iff.1 hend
  rw [awaited, awaitStep_opening ho, step_code_of_isOpening ho, Option.bind_some] at hend
  have hinner := awaited_matched h.matched []
  rw [awaited_append] at hinner
  obtain ⟨more, hmore, -⟩ := Option.bind_eq_some_iff.1 hinner
  -- Up to the place nothing of the stack is taken that was there at the bracket.
  have hframe := awaited_frame hmore (closer o :: stack)
  rw [List.nil_append, hend] at hframe
  simp at hframe

/-- There is a pair of brackets around a place, with complete text between each of them and the
place. -/
def Enclosed (p : Position) (u v : List Char) : Prop :=
  ∃ o before left right after, isOpening o = true ∧ u = before ++ o :: left ∧
    v = right ++ closer o :: after ∧ p.after before = .code ∧ Complete left ∧ Complete right

/-- A place in brackets stays in them within a longer text. -/
theorem Enclosed.extend {p : Position} {u v : List Char} (x y : List Char)
    (h : Enclosed (p.after x) u v) : Enclosed p (x ++ u) (v ++ y) := by
  obtain ⟨o, before, left, right, after, ho, rfl, rfl, hbefore, hsides⟩ := h
  refine ⟨o, x ++ before, left, right, after ++ y, ho, ?_, ?_, ?_, hsides⟩
  · simp
  · simp
  · rw [Position.after_append, hbefore]

/-- At a place outside of literals nothing is open, or the place is enclosed. -/
theorem Matched.cut {p : Position} {u v : List Char} (h : Matched p (u ++ v))
    (hcode : p.after u = .code) : (Matched p u ∧ Matched .code v) ∨ Enclosed p u v := by
  generalize hcs : u ++ v = cs at h
  induction h generalizing u v with
  | nil p =>
    obtain ⟨rfl, rfl⟩ := List.append_eq_nil_iff.1 hcs
    exact .inl ⟨.nil p, .nil _⟩
  | @skip p c cs plain hrest ih =>
    cases u with
    | nil =>
      obtain rfl : p = .code := hcode
      obtain rfl : v = c :: cs := hcs
      exact .inl ⟨.nil _, .skip plain hrest⟩
    | cons d u =>
      obtain ⟨rfl, rfl⟩ := List.cons.inj hcs
      rcases ih hcode rfl with ⟨hu, hv⟩ | henclosed
      · exact .inl ⟨.skip plain hu, hv⟩
      · exact .inr (by simpa using Enclosed.extend [d] [] henclosed)
  | @pair o inner rest opening hinner hinner_code hrest ihinner ihrest =>
    cases u with
    | nil =>
      obtain rfl : v = o :: (inner ++ closer o :: rest) := hcs
      exact .inl ⟨.nil _, .pair opening hinner hinner_code hrest⟩
    | cons d u =>
      obtain ⟨rfl, hcs⟩ := List.cons.inj hcs
      have hopened : Position.code.after [d] = .code := step_code_of_isOpening opening
      rcases List.append_eq_append_iff.1 hcs with ⟨w, rfl, rfl⟩ | ⟨w, rfl, hw⟩
      · -- The place is between the brackets, and these are around it if no others are.
        rw [Position.after_cons, step_code_of_isOpening opening] at hcode
        rcases ihinner hcode rfl with ⟨hu, hv⟩ | henclosed
        · rw [Position.after_append, hcode] at hinner_code
          exact .inr ⟨d, [], u, w, rest, opening, rfl, rfl, rfl, ⟨hu, hcode⟩, ⟨hv, hinner_code⟩⟩
        · rw [← hopened] at henclosed
          exact .inr (henclosed.extend [d] _)
      · cases w with
        | nil =>
          rw [List.append_nil]
          exact .inr ⟨d, [], inner, [], rest, opening, rfl, hw.symm, rfl,
            ⟨hinner, hinner_code⟩, .nil⟩
        | cons e w =>
          -- The place is after the brackets.
          obtain ⟨rfl, rfl⟩ := List.cons.inj hw
          rw [after_pair opening hinner_code] at hcode
          rcases ihrest hcode rfl with ⟨hu, hv⟩ | henclosed
          · exact .inl ⟨.pair opening hinner hinner_code hu, hv⟩
          · have hpassed : Position.code.after (d :: (inner ++ [closer d])) = .code :=
              after_pair opening hinner_code []
            rw [← hpassed] at henclosed
            exact .inr (by simpa using Enclosed.extend _ [] henclosed)

/-- A pair of brackets outside of literals around a place, by what stands between each of them and
the place. -/
structure Around (u v : List Char) (o : Char) (left right : List Char) : Prop where
  opening : isOpening o = true
  opens : ∃ before, u = before ++ o :: left ∧ Position.code.after before = .code
  closes : ∃ after, v = right ++ closer o :: after
  inner : Complete (left ++ right)

/-- Of the pairs of brackets around a place, the one that opens last. -/
structure Innermost (u v : List Char) (o : Char) (left right : List Char) : Prop
    extends Around u v o left right where
  last : ∀ o' left' right', Around u v o' left' right' → left.length ≤ left'.length

section Pairs

variable {u v : List Char} {o : Char} {left right : List Char}

/-- A pair is the innermost if no bracket is left open between it and the place. -/
theorem Around.innermost (h : Around u v o left right) (hleft : Complete left) :
    Innermost u v o left right := by
  refine ⟨h, ?_⟩
  intro o' left' right' h'
  by_contra hlength
  obtain ⟨before, rfl, hcode⟩ := h.opens
  obtain ⟨before', hu, hcode'⟩ := h'.opens
  have hopened : o' :: left' <:+ before ++ o :: left := ⟨before', hu.symm⟩
  have hinner : left <:+ before ++ o :: left := ⟨before ++ [o], by simp⟩
  have hsuffix : o' :: left' <:+ left := by
    apply List.suffix_of_suffix_length_le hopened hinner
    rw [List.length_cons]
    omega
  obtain ⟨x, rfl⟩ := hsuffix
  have hbefore : before ++ o :: x = before' := by
    rw [← List.cons_append, ← List.append_assoc] at hu
    exact List.append_cancel_right hu
  rw [← hbefore, Position.after_append, hcode, Position.after_cons,
    step_code_of_isOpening h.opening] at hcode'
  exact not_matched_of_open h'.opening hcode' h'.inner hleft.matched

/-- There is one innermost pair of brackets around a place. -/
theorem Innermost.unique (h : Innermost u v o left right) (hleft : Complete left) {o' : Char}
    {left' right' : List Char} (h' : Innermost u v o' left' right') :
    o = o' ∧ left = left' ∧ right = right' := by
  have hlength : left.length = left'.length :=
    Nat.le_antisymm (h.last _ _ _ h'.toAround) (h'.last _ _ _ h.toAround)
  obtain ⟨before, rfl, -⟩ := h.opens
  obtain ⟨before', hu, -⟩ := h'.opens
  obtain ⟨-, hopened⟩ := List.append_inj' hu (by simp [hlength])
  obtain ⟨rfl, rfl⟩ := List.cons.inj hopened
  obtain ⟨after, rfl⟩ := h.closes
  obtain ⟨after', hv⟩ := h'.closes
  exact ⟨rfl, rfl, (h.inner.right hleft).eq_of_append_eq (h'.inner.right hleft)
    (isClosing_closer h.opening) hv⟩

/-- At a place in matched text nothing is open, or there is an innermost pair around it. -/
theorem Matched.innermost_cases (h : Matched .code (u ++ v))
    (hcode : Position.code.after u = .code) :
    (Matched .code v ∧ ∀ o left right, ¬Around u v o left right) ∨
      ∃ o left right, Innermost u v o left right ∧ Complete left := by
  rcases h.cut hcode with ⟨hu, hv⟩ | ⟨o, before, left, right, after, ho, hleft, hright, hbefore,
    hcomplete, hcomplete'⟩
  · refine .inl ⟨hv, ?_⟩
    intro o left right hpair
    obtain ⟨before, rfl, hbefore⟩ := hpair.opens
    exact not_matched_of_open hpair.opening hbefore hpair.inner hu
  · have hpair : Around u v o left right :=
      ⟨ho, ⟨before, hleft, hbefore⟩, ⟨after, hright⟩, hcomplete.append hcomplete'⟩
    exact .inr ⟨o, left, right, hpair.innermost hcomplete, hcomplete⟩

/-- What stands between the opening bracket and the place opens nothing. -/
theorem Innermost.complete_left (hpair : Innermost u v o left right) (h : Matched .code (u ++ v))
    (hcode : Position.code.after u = .code) : Complete left := by
  rcases h.innermost_cases hcode with ⟨-, hnone⟩ | ⟨o', left', right', hpair', hleft⟩
  · exact absurd hpair.toAround (hnone _ _ _)
  · obtain ⟨-, rfl, -⟩ := hpair'.unique hleft hpair
    exact hleft

/-- The search for a closing bracket finds that of the innermost vector. -/
theorem closeFrom_eq_some_iff (h : Matched .code (u ++ v)) (hcode : Position.code.after u = .code)
    {d : Nat} : closeFrom .code 0 v = some d ↔
      ∃ left right, Innermost u v '[' left right ∧ d = right.length := by
  -- Either nothing is open at the place, or the innermost pair around it is where the search ends.
  rcases h.innermost_cases hcode with ⟨hv, hnone⟩ | ⟨o, left, right, hpair, hleft⟩
  · have hsearch := closeFrom_matched hv 0 []
    rw [List.append_nil, closeFrom, Option.map_none] at hsearch
    rw [hsearch]
    constructor
    · intro hd
      cases hd
    · rintro ⟨left, right, hpair, -⟩
      exact absurd hpair.toAround (hnone _ _ _)
  · obtain ⟨after, rfl⟩ := hpair.closes
    have hright := hpair.inner.right hleft
    rw [closeFrom_matched hright.matched, hright.code,
      closeFrom_end (isClosing_closer hpair.opening)]
    constructor
    · intro hd
      obtain ⟨_, hsquare, rfl⟩ := Option.map_eq_some_iff.1 hd
      rw [Option.ite_none_right_eq_some, closer_eq_square_iff hpair.opening,
        Option.some.injEq] at hsquare
      obtain ⟨rfl, rfl⟩ := hsquare
      exact ⟨left, right, hpair, Nat.zero_add _⟩
    · rintro ⟨left', right', hpair', rfl⟩
      obtain ⟨rfl, -, rfl⟩ := hpair.unique hleft hpair'
      simp [closer]

end Pairs

/-- A text has its first `:where` directly in a vector, by the parts of the text and of the vector
before and after that place. -/
structure InVector (text u v left right : List Char) : Prop where
  text_eq : text = u ++ v
  first : FirstWhere u v
  innermost : Innermost u v '[' left right

/-- In matched text the `:where` block ends with the innermost vector around the keyword. -/
theorem whereEnd_eq_some_iff {text : List Char} (h : Matched .code text) {k : Nat} :
    whereEnd text = some k ↔
      ∃ u v left right, InVector text u v left right ∧ k = (u ++ right).length := by
  constructor
  · intro hend
    obtain ⟨u, block, after, hblock, -⟩ := exists_whereBlock hend
    obtain rfl := hblock.text_eq
    rw [whereEnd_of_firstWhere hblock.first] at hend
    obtain ⟨d, hd, rfl⟩ := Option.map_eq_some_iff.1 hend
    obtain ⟨left, right, hpair, rfl⟩ := (closeFrom_eq_some_iff h hblock.first.code).1 hd
    exact ⟨u, _, left, right, ⟨rfl, hblock.first, hpair⟩, by rw [List.length_append, Nat.add_comm]⟩
  · rintro ⟨u, v, left, right, hvector, rfl⟩
    obtain rfl := hvector.text_eq
    have hclose := (closeFrom_eq_some_iff h hvector.first.code).2
      ⟨left, right, hvector.innermost, rfl⟩
    rw [whereEnd_of_firstWhere hvector.first, hclose, List.length_append, Nat.add_comm]
    rfl

end OutlineQuery.QueryText
