import OutlineQuery.Proofs.Regex.Continuation

/-!
What the reader of sets in brackets makes of a closing parenthesis after its input. A set ends with
a bracket of its own, so that whatever it looks ahead to is there already, and the parenthesis is
left.
-/
namespace OutlineQuery.Regex

open OutlineQuery.Text (isBlank)

section AsciiClasses

theorem takeWhile_append_of_ne_nil {p : Char → Bool} {cs : List Char} (h : cs.dropWhile p ≠ [])
    (t : List Char) : (cs ++ t).takeWhile p = cs.takeWhile p := by
  have hsplit := congrArg List.length (List.takeWhile_append_dropWhile (p := p) (l := cs))
  have hpos := List.length_pos_iff.2 h
  rw [List.length_append] at hsplit
  rw [List.takeWhile_append, if_neg (by omega)]

/-- What is read of a named class after its colon and caret. -/
def readAsciiName (negated : Bool) (cs : List Char) : Option (ClassSet × List Char) :=
  match cs.dropWhile (· != ':') with
  | ':' :: ']' :: rest =>
    if (asciiClass? (String.ofList (cs.takeWhile (· != ':')))).isSome then
      some (.ascii (String.ofList (cs.takeWhile (· != ':'))) negated, rest)
    else none
  | _ => none

theorem readAsciiClass?_colon {cs : List Char} (h : ∀ after, cs ≠ '^' :: after) :
    readAsciiClass? (':' :: cs) = readAsciiName false cs := by
  simp only [readAsciiClass?]
  rfl

/-- No named class has a parenthesis in its name. -/
theorem asciiClass?_of_paren {name : List Char} (h : ')' ∈ name) :
    asciiClass? (String.ofList name) = none := by
  have hnames : (asciiClasses.all fun entry => !entry.1.toList.contains ')') = true := by decide
  apply List.lookup_eq_none_iff.2
  intro entry hentry
  have hfree := List.all_eq_true.1 hnames entry hentry
  have hne : String.ofList name ≠ entry.1 := by
    intro heq
    rw [← heq, String.toList_ofList] at hfree
    simp [h] at hfree
  simpa using hne

variable {negated : Bool} {cs rest : List Char} {s : ClassSet}

/-- A named class ends with a bracket, so what follows it is left. -/
theorem readAsciiName_append (h : readAsciiName negated cs = some (s, rest)) (t : List Char) :
    readAsciiName negated (cs ++ t) = some (s, rest ++ t) := by
  unfold readAsciiName at h ⊢
  split at h
  case h_1 after hafter =>
    have hne : cs.dropWhile (· != ':') ≠ [] := by simp [hafter]
    have htake : (cs ++ t).takeWhile (· != ':') = cs.takeWhile (· != ':') :=
      takeWhile_append_of_ne_nil hne t
    rw [dropWhile_append_of_ne_nil hne, hafter, htake]
    split at h
    case isTrue hclass =>
      obtain ⟨rfl, rfl⟩ := Prod.mk.inj (Option.some.inj h)
      simp [hclass]
    case isFalse => cases h
  case h_2 => cases h

/-- With a parenthesis in it, a text is the name of no class. -/
theorem readAsciiName_close_none (h : readAsciiName negated cs = none) (u : List Char) :
    readAsciiName negated (cs ++ ')' :: u) = none := by
  by_cases hnil : cs.dropWhile (· != ':') = []
  -- Without a second colon the name goes on past the parenthesis; with one it is what it was.
  · have hname : (cs ++ ')' :: u).takeWhile (· != ':') = cs ++ ')' :: u.takeWhile (· != ':') := by
      have hall : cs.takeWhile (· != ':') = cs := by
        have hsplit := List.takeWhile_append_dropWhile (p := (· != ':')) (l := cs)
        rwa [hnil, List.append_nil] at hsplit
      rw [List.takeWhile_append, hall, if_pos rfl]
      simp
    unfold readAsciiName
    rw [hname, asciiClass?_of_paren (by simp)]
    split <;> rfl
  · rw [readAsciiName, dropWhile_append_of_ne_nil hnil, takeWhile_append_of_ne_nil hnil]
    unfold readAsciiName at h
    split
    case h_1 after hafter =>
      rcases hdrop : cs.dropWhile (· != ':') with _ | ⟨c, _ | ⟨d, more⟩⟩
      · exact absurd hdrop hnil
      · rw [hdrop] at hafter
        simp at hafter
      · rw [hdrop] at hafter h
        simp only [List.cons_append, List.cons.injEq] at hafter
        obtain ⟨rfl, rfl, rfl⟩ := hafter
        split at h
        case h_1 =>
          split at h
          case isTrue => cases h
          case isFalse hclass => exact if_neg hclass
        case h_2 hother => exact absurd rfl (hother more)
    case h_2 => rfl

theorem colon_caret_cases (cs : List Char) :
    (∀ inner, cs ≠ ':' :: inner) ∨ (∃ after, cs = ':' :: '^' :: after) ∨
      ∃ inner, cs = ':' :: inner ∧ ∀ after, inner ≠ '^' :: after := by
  by_cases hcolon : ∃ inner, cs = ':' :: inner
  · obtain ⟨inner, rfl⟩ := hcolon
    by_cases hcaret : ∃ after, inner = '^' :: after
    · obtain ⟨after, rfl⟩ := hcaret
      exact .inr (.inl ⟨after, rfl⟩)
    · exact .inr (.inr ⟨inner, rfl, not_exists.1 hcaret⟩)
  · exact .inl (not_exists.1 hcolon)

theorem readAsciiClass?_of_not_colon (h : ∀ inner, cs ≠ ':' :: inner) :
    readAsciiClass? cs = none := by
  unfold readAsciiClass?
  split
  case h_1 inner => exact absurd rfl (h inner)
  case h_2 => rfl

theorem readAsciiClass?_append (h : readAsciiClass? cs = some (s, rest)) (t : List Char) :
    readAsciiClass? (cs ++ t) = some (s, rest ++ t) := by
  rcases colon_caret_cases cs with hcolon | ⟨after, rfl⟩ | ⟨inner, rfl, hcaret⟩
  · rw [readAsciiClass?_of_not_colon hcolon] at h
    cases h
  · exact readAsciiName_append h t
  · rw [readAsciiClass?_colon hcaret] at h
    have hne : inner ≠ [] := by
      rintro rfl
      cases h
    rw [List.cons_append, readAsciiClass?_colon (ne_cons_append hcaret hne t),
      readAsciiName_append h]

/-- What is no named class does not become one by a closing parenthesis. -/
theorem readAsciiClass?_close_none (h : readAsciiClass? cs = none) (u : List Char) :
    readAsciiClass? (cs ++ ')' :: u) = none := by
  rcases colon_caret_cases cs with hcolon | ⟨after, rfl⟩ | ⟨inner, rfl, hcaret⟩
  · exact readAsciiClass?_of_not_colon (ne_cons_close (by decide) hcolon u)
  · exact readAsciiName_close_none h u
  · rw [readAsciiClass?_colon hcaret] at h
    rw [List.cons_append, readAsciiClass?_colon (ne_cons_close (by decide) hcaret u),
      readAsciiName_close_none h]

end AsciiClasses

section Starts

variable {v : Bool} {n : Nat} {b : Bracket} {cs : List Char}

theorem readHyphens_nil (v : Bool) (n : Nat) (b : Bracket) : readHyphens v n b [] = (b, []) := by
  cases n <;> rfl

theorem readHyphens_of_not_hyphen (h : ∀ after, cs ≠ '-' :: after) :
    readHyphens v n b cs = (b, cs) := by
  unfold readHyphens
  split
  case h_1 n b after => exact absurd rfl (h after)
  case h_2 => rfl

/-- Hyphens at the front of a set end where another character is. -/
theorem readHyphens_append (h : (readHyphens v n b cs).2 ≠ []) (t : List Char) :
    readHyphens v n b (cs ++ t) = ((readHyphens v n b cs).1, (readHyphens v n b cs).2 ++ t) := by
  induction n generalizing b cs with
  | zero => rfl
  | succ n ih =>
    by_cases hhyphen : ∃ after, cs = '-' :: after
    · obtain ⟨after, rfl⟩ := hhyphen
      rw [readHyphens] at h ⊢
      have hskip : skip v after ≠ [] := by
        intro hnil
        rw [hnil, readHyphens_nil] at h
        exact h rfl
      rw [List.cons_append, readHyphens, skip_append hskip, ih h]
    · have hother := not_exists.1 hhyphen
      rw [readHyphens_of_not_hyphen hother] at h ⊢
      exact readHyphens_of_not_hyphen (ne_cons_append hother h t)

/-- As many steps as there are characters are enough for the hyphens. -/
theorem readHyphens_congr {m : Nat} (hn : cs.length ≤ n) (hm : cs.length ≤ m) :
    readHyphens v n b cs = readHyphens v m b cs := by
  induction n generalizing m b cs with
  | zero =>
    obtain rfl : cs = [] := List.eq_nil_of_length_eq_zero (by omega)
    rw [readHyphens_nil, readHyphens_nil]
  | succ n ih =>
    by_cases hhyphen : ∃ after, cs = '-' :: after
    · obtain ⟨after, rfl⟩ := hhyphen
      rw [List.length_cons] at hn hm
      obtain ⟨m, rfl⟩ : ∃ k, m = k + 1 := ⟨m - 1, by omega⟩
      have hlength := length_skip_le v after
      rw [readHyphens, readHyphens, ih (m := m) (by omega) (by omega)]
    · rw [readHyphens_of_not_hyphen (not_exists.1 hhyphen),
        readHyphens_of_not_hyphen (not_exists.1 hhyphen)]

/-- What is read at the start of a set after its caret. -/
def readBracketHead (v negated : Bool) (cs : List Char) : Bracket × List Char :=
  match readHyphens v cs.length ⟨negated, none, []⟩ cs with
  | (b, ']' :: rest) =>
    if b.items.isEmpty then (b.push (.literal ⟨']', false⟩), skip v rest) else (b, ']' :: rest)
  | result => result

theorem readBracketStart_caret {after : List Char} (h : skip v cs = '^' :: after) :
    readBracketStart v cs = readBracketHead v true (skip v after) := by
  rw [readBracketStart, h]
  rfl

theorem readBracketStart_of_not_caret (h : ∀ after, skip v cs ≠ '^' :: after) :
    readBracketStart v cs = readBracketHead v false (skip v cs) := by
  simp only [readBracketStart]
  rfl

theorem readBracketHead_append {negated : Bool} (h : (readBracketHead v negated cs).2 ≠ [])
    (t : List Char) :
    readBracketHead v negated (cs ++ t) =
      ((readBracketHead v negated cs).1, (readBracketHead v negated cs).2 ++ t) := by
  have hfuel : readHyphens v cs.length ⟨negated, none, []⟩ cs =
      readHyphens v (cs ++ t).length ⟨negated, none, []⟩ cs :=
    readHyphens_congr (Nat.le_refl _) (by simp)
  unfold readBracketHead at h ⊢
  rw [hfuel] at h ⊢
  -- The bracket that is taken for a character after the hyphens is one of the input.
  have hne : (readHyphens v (cs ++ t).length ⟨negated, none, []⟩ cs).2 ≠ [] := by
    intro hnil
    split at h
    case h_1 heq =>
      rw [heq] at hnil
      cases hnil
    case h_2 => exact h hnil
  rw [readHyphens_append hne]
  rcases hread : readHyphens v (cs ++ t).length ⟨negated, none, []⟩ cs with ⟨b, more⟩
  rw [hread] at h hne
  obtain ⟨c, more, rfl⟩ := List.exists_cons_of_ne_nil hne
  by_cases hc : c = ']'
  · subst hc
    simp only [List.cons_append] at h ⊢
    by_cases hempty : b.items.isEmpty = true
    · simp only [hempty, if_true] at h ⊢
      rw [skip_append h]
    · simp [hempty]
  · simp [hc]

/-- The front of a set ends where an item begins. -/
theorem readBracketStart_append (h : (readBracketStart v cs).2 ≠ []) (t : List Char) :
    readBracketStart v (cs ++ t) = ((readBracketStart v cs).1, (readBracketStart v cs).2 ++ t) := by
  have hempty (negated : Bool) : (readBracketHead v negated []).2 = [] := rfl
  by_cases hcaret : ∃ after, skip v cs = '^' :: after
  · obtain ⟨after, hafter⟩ := hcaret
    have hskip : skip v cs ≠ [] := by simp [hafter]
    rw [readBracketStart_caret hafter] at h ⊢
    have hskip' : skip v after ≠ [] := by
      intro hnil
      rw [hnil] at h
      exact h (hempty true)
    have hafter' : skip v (cs ++ t) = '^' :: (after ++ t) := by
      rw [skip_append hskip, hafter, List.cons_append]
    rw [readBracketStart_caret hafter', skip_append hskip', readBracketHead_append h]
  · have hother := not_exists.1 hcaret
    rw [readBracketStart_of_not_caret hother] at h ⊢
    have hskip : skip v cs ≠ [] := by
      intro hnil
      rw [hnil] at h
      exact h (hempty false)
    have hother' (after : List Char) : skip v (cs ++ t) ≠ '^' :: after := by
      rw [skip_append hskip]
      exact ne_cons_append hother hskip t after
    rw [readBracketStart_of_not_caret hother', skip_append hskip, readBracketHead_append h]

end Starts

section Items

variable {v : Bool} {cs rest : List Char}

/-- An end of a range leaves a closing parenthesis after it, unless a comment swallows it. -/
theorem readBracketAtom_close_cases {a : Atom} (h : readBracketAtom v cs = some (a, rest)) :
    Leaves (readBracketAtom v) cs a rest ∨ Swallows (readBracketAtom v) cs a rest := by
  rcases cs with _ | ⟨c, cs⟩
  · cases h
  by_cases hc : c = '\\'
  · subst hc
    exact readEscape_close_cases h
  · refine .inl fun u => ?_
    simp only [readBracketAtom, hc, if_false, List.cons_append] at h ⊢
    obtain ⟨rfl, rfl⟩ := Prod.mk.inj (Option.some.inj h)
    rfl

theorem dropBlanksAndComments_of_dropWhile (b : Bool) (h : cs.dropWhile isBlank = []) :
    dropBlanksAndComments b cs = [] := by
  induction cs generalizing b with
  | nil => cases b <;> rfl
  | cons c cs ih =>
    by_cases hc : isBlank c = true
    · rw [List.dropWhile_cons_of_pos hc] at h
      cases b with
      | true => exact ih _ h
      | false =>
        rw [dropBlanksAndComments, if_pos hc]
        exact ih false h
    · rw [List.dropWhile_cons_of_neg hc] at h
      cases h

theorem dropBlanksAndComments_dropWhile (cs : List Char) :
    dropBlanksAndComments false (cs.dropWhile isBlank) = dropBlanksAndComments false cs := by
  induction cs with
  | nil => rfl
  | cons c cs ih =>
    by_cases hc : isBlank c = true
    · rw [List.dropWhile_cons_of_pos hc, ih, dropBlanksAndComments, if_pos hc]
    · rw [List.dropWhile_cons_of_neg hc]

/-- The character that decides what a hyphen means is there, or else nothing is left to be read, and
the hyphen means what it would before any text. -/
theorem peekPastBlanks_cases (v : Bool) (cs : List Char) :
    (∀ t, peekPastBlanks v (cs ++ t) = peekPastBlanks v cs) ∨
      skip v cs = [] ∧ peekPastBlanks v cs ≠ some ']' ∧ peekPastBlanks v cs ≠ some '-' := by
  cases v with
  | false =>
    rcases cs with _ | ⟨c, more⟩
    · exact .inr ⟨rfl, by simp [peekPastBlanks], by simp [peekPastBlanks]⟩
    · exact .inl fun t => rfl
  | true =>
    -- Without a better one, the character is the first of all: a blank, or the start of a comment.
    have hfirst {c : Char} (hc : isBlank c = false) (hhash : c ≠ '#') :
        (∃ more, cs.dropWhile isBlank = '#' :: more) ∨ cs.dropWhile isBlank = [] →
          cs.head? ≠ some c := by
      intro hdrop hhead
      obtain ⟨ds, rfl⟩ := List.head?_eq_some_iff.1 hhead
      rw [List.dropWhile_cons_of_neg (by simp [hc])] at hdrop
      rcases hdrop with ⟨more, hmore⟩ | hnil
      · exact hhash (List.cons.inj hmore).1
      · cases hnil
    have hskip : skip true cs = dropBlanksAndComments false (cs.dropWhile isBlank) :=
      (dropBlanksAndComments_dropWhile cs).symm
    rcases hdrop : cs.dropWhile isBlank with _ | ⟨c, more⟩
    · have hpeek : peekPastBlanks true cs = cs.head? := by
        simp [peekPastBlanks, hdrop]
      refine .inr ⟨by rw [hskip, hdrop]; rfl, ?_, ?_⟩
      · rw [hpeek]
        exact hfirst rfl (by decide) (.inr hdrop)
      · rw [hpeek]
        exact hfirst rfl (by decide) (.inr hdrop)
    · have hne : cs.dropWhile isBlank ≠ [] := by simp [hdrop]
      by_cases hc : c = '#'
      · subst hc
        rcases hmore : more.dropWhile isBlank with _ | ⟨d, ds⟩
        · have hpeek : peekPastBlanks true cs = cs.head? := by
            simp [peekPastBlanks, hdrop, hmore]
          refine .inr ⟨?_, ?_, ?_⟩
          · rw [hskip, hdrop]
            exact dropBlanksAndComments_of_dropWhile true hmore
          · rw [hpeek]
            exact hfirst rfl (by decide) (.inl ⟨more, hdrop⟩)
          · rw [hpeek]
            exact hfirst rfl (by decide) (.inl ⟨more, hdrop⟩)
        · refine .inl fun t => ?_
          have hne' : more.dropWhile isBlank ≠ [] := by simp [hmore]
          simp [peekPastBlanks, dropWhile_append_of_ne_nil hne, hdrop,
            dropWhile_append_of_ne_nil hne', hmore]
      · refine .inl fun t => ?_
        simp [peekPastBlanks, dropWhile_append_of_ne_nil hne, hdrop, hc]

/-- To look past blanks is to look at the text only, unless the text ends in them. -/
theorem peekPastBlanks_append (h : skip v cs ≠ [] ∨
    peekPastBlanks v cs = some ']' ∨ peekPastBlanks v cs = some '-') (t : List Char) :
    peekPastBlanks v (cs ++ t) = peekPastBlanks v cs := by
  rcases peekPastBlanks_cases v cs with hsame | ⟨hnil, hbracket, hhyphen⟩
  · exact hsame t
  · rcases h with hskip | hpeek | hpeek
    · exact absurd hnil hskip
    · exact absurd hpeek hbracket
    · exact absurd hpeek hhyphen

/-- The range between two atoms, if both are characters in order. -/
def Atom.rangeTo? (first last : Atom) : Option ClassSet :=
  first.literal?.bind fun lo => last.literal?.bind fun hi =>
    if lo.char ≤ hi.char then some (.range lo hi) else none

section Equations

variable {first : Atom} {after more : List Char}
  (hfirst : readBracketAtom v cs = some (first, after))

include hfirst

theorem readBracketItem_of_nil (h : skip v after = []) : readBracketItem v cs = none := by
  simp [readBracketItem, hfirst, h]

/-- A hyphen before a bracket or another hyphen makes no range. -/
theorem readBracketItem_of_hyphen_last (h : skip v after = '-' :: more)
    (hpeek : peekPastBlanks v more = some ']' ∨ peekPastBlanks v more = some '-') :
    readBracketItem v cs = first.toClassSet?.map (·, '-' :: more) := by
  simp only [readBracketItem, hfirst, Option.bind_eq_bind, Option.bind_some, h, if_pos hpeek,
    Option.map_eq_bind]
  rfl

/-- A hyphen before anything else makes a range, or nothing if it cannot. -/
theorem readBracketItem_of_range (h : skip v after = '-' :: more)
    (hpeek : ¬(peekPastBlanks v more = some ']' ∨ peekPastBlanks v more = some '-')) :
    readBracketItem v cs = (readBracketAtom v (skip v more)).bind fun x =>
      (first.rangeTo? x.1).map (·, x.2) := by
  simp only [readBracketItem, hfirst, Option.bind_eq_bind, Option.bind_some, h, if_neg hpeek,
    Atom.rangeTo?]
  congr 1
  funext x
  cases first.literal? with
  | none => rfl
  | some lo =>
    cases x.1.literal? with
    | none => rfl
    | some hi =>
      simp only [Option.bind_some]
      split <;> rfl

theorem readBracketItem_of_other {c : Char} (h : skip v after = c :: more) (hc : c ≠ '-') :
    readBracketItem v cs = first.toClassSet?.map (·, c :: more) := by
  simp only [readBracketItem, hfirst, Option.bind_eq_bind, Option.bind_some, h, Option.map_eq_bind]
  split
  case h_1 heq => cases heq
  case h_2 heq => exact absurd (List.cons.inj heq).1 hc
  case h_3 => rfl

end Equations

/-- An item of a set leaves a closing parenthesis after it, unless a comment swallows it. -/
theorem readBracketItem_close_cases {item : ClassSet}
    (h : readBracketItem v cs = some (item, rest)) :
    Leaves (readBracketItem v) cs item rest ∨ Swallows (readBracketItem v) cs item rest := by
  obtain ⟨⟨first, after⟩, hfirst, -⟩ := Option.bind_eq_some_iff.1 h
  -- Something is left after the first atom, so the atom does not end in a comment.
  have hskip : skip v after ≠ [] := by
    intro hnil
    rw [readBracketItem_of_nil hfirst hnil] at h
    cases h
  have hleaves : Leaves (readBracketAtom v) cs first after := by
    rcases readBracketAtom_close_cases hfirst with hleaves | ⟨rfl, -⟩
    · exact hleaves
    · exact absurd (skip_nil v) hskip
  obtain ⟨c, more, hmore⟩ := List.exists_cons_of_ne_nil hskip
  have hmore' (u : List Char) : skip v (after ++ ')' :: u) = c :: (more ++ ')' :: u) := by
    rw [skip_append hskip, hmore, List.cons_append]
  by_cases hc : c = '-'
  · subst hc
    by_cases hpeek : peekPastBlanks v more = some ']' ∨ peekPastBlanks v more = some '-'
    · have hsame := peekPastBlanks_append (.inr hpeek)
      rw [readBracketItem_of_hyphen_last hfirst hmore hpeek] at h
      obtain ⟨set, hset, h⟩ := Option.map_eq_some_iff.1 h
      obtain ⟨rfl, rfl⟩ := Prod.mk.inj h
      refine .inl fun u => ?_
      rw [readBracketItem_of_hyphen_last (hleaves u) (hmore' u) (by rwa [hsame]), hset]
      rfl
    · rw [readBracketItem_of_range hfirst hmore hpeek] at h
      obtain ⟨⟨last, end'⟩, hlast, h⟩ := Option.bind_eq_some_iff.1 h
      obtain ⟨set, hset, h⟩ := Option.map_eq_some_iff.1 h
      obtain ⟨rfl, rfl⟩ := Prod.mk.inj h
      have hskip' : skip v more ≠ [] := by
        intro hnil
        rw [hnil] at hlast
        cases hlast
      have hsame := peekPastBlanks_append (.inl hskip')
      have hrange (u : List Char) := readBracketItem_of_range (hleaves u) (hmore' u)
        (by rwa [hsame])
      rcases readBracketAtom_close_cases hlast with hlast' | ⟨hnil, hlast'⟩
      · refine .inl fun u => ?_
        rw [hrange u, skip_append hskip', hlast' u, Option.bind_some, hset]
        rfl
      · refine .inr ⟨hnil, ?_⟩
        rw [hrange [], skip_append hskip', hlast', Option.bind_some, hset]
        rfl
  · rw [readBracketItem_of_other hfirst hmore hc] at h
    obtain ⟨set, hset, h⟩ := Option.map_eq_some_iff.1 h
    obtain ⟨rfl, rfl⟩ := Prod.mk.inj h
    refine .inl fun u => ?_
    rw [readBracketItem_of_other (hleaves u) (hmore' u) hc, hset]
    rfl

theorem readSetOp?_append {o : SetOp} (h : readSetOp? cs = some (o, rest)) (t : List Char) :
    readSetOp? (cs ++ t) = some (o, rest ++ t) := by
  unfold readSetOp? at h
  split at h
  case h_4 => cases h
  all_goals
    obtain ⟨rfl, rfl⟩ := Prod.mk.inj (Option.some.inj h)
    rfl

theorem readSetOp?_close_none (h : readSetOp? cs = none) (u : List Char) :
    readSetOp? (cs ++ ')' :: u) = none := by
  rcases cs with _ | ⟨c, _ | ⟨d, more⟩⟩
  · rfl
  · simp [readSetOp?]
  · rw [List.cons_append, List.cons_append]
    unfold readSetOp?
    split
    case h_4 => rfl
    all_goals
      rename_i heq
      simp only [List.cons.injEq] at heq
      obtain ⟨rfl, rfl, -⟩ := heq
      cases h

end Items

/-- A set is not over without its closing bracket. -/
theorem ne_nil_of_readBracketRest {v : Bool} {n : Nat} {b : Bracket} {around : List Bracket}
    {cs : List Char} {r : (Bool × ClassSet) × List Char}
    (h : readBracketRest v n b around cs = some r) : cs ≠ [] := by
  rintro rfl
  cases n with
  | zero => cases h
  | succ n =>
    rw [readBracketRest, skip_nil] at h
    cases h

/-- The rest of a set leaves what follows its bracket: within it nothing is the last of the text, so
that no comment can swallow the parenthesis. -/
theorem readBracketRest_leaves {v : Bool} {n m : Nat} {b : Bracket} {around : List Bracket}
    {cs rest : List Char} {r : Bool × ClassSet}
    (h : readBracketRest v n b around cs = some (r, rest)) (hnm : n ≤ m) (u : List Char) :
    readBracketRest v m b around (cs ++ ')' :: u) = some (r, rest ++ ')' :: u) := by
  -- The last bracket is still to come at each turn, so no turn looks beyond the input.
  induction n generalizing m b around cs with
  | zero => cases h
  | succ n ih =>
    obtain ⟨m, rfl⟩ : ∃ k, m = k + 1 := ⟨m - 1, by omega⟩
    have hnm' : n ≤ m := by omega
    have hskip : skip v cs ≠ [] := by
      intro hnil
      rw [readBracketRest, hnil] at h
      cases h
    rw [readBracketRest] at h ⊢
    rw [skip_append hskip]
    split at h
    case h_1 => cases h
    case h_2 after hafter =>
      simp only [hafter, List.cons_append]
      cases around with
      | nil =>
        obtain ⟨rfl, rfl⟩ := Prod.mk.inj (Option.some.inj h)
        rfl
      | cons outer around => exact ih h hnm'
    case h_3 after hafter =>
      simp only [hafter, List.cons_append]
      split at h
      case h_1 cls after' hcls =>
        simp only [readAsciiClass?_append hcls]
        exact ih h hnm'
      case h_2 hnone =>
        have hne : (readBracketStart v after).2 ≠ [] := ne_nil_of_readBracketRest h
        simp only [readAsciiClass?_close_none hnone, readBracketStart_append hne]
        exact ih h hnm'
    case h_4 hend hopen =>
      obtain ⟨c, more, hmore⟩ := List.exists_cons_of_ne_nil hskip
      split
      case h_1 heq => simp [hmore] at heq
      case h_2 heq =>
        rw [hmore] at heq
        exact (hend more (by rw [hmore, (List.cons.inj heq).1])).elim
      case h_3 heq =>
        rw [hmore] at heq
        exact (hopen more (by rw [hmore, (List.cons.inj heq).1])).elim
      case h_4 =>
        split at h
        case h_1 o after ho =>
          simp only [readSetOp?_append ho]
          exact ih h hnm'
        case h_2 hnone =>
          simp only [readSetOp?_close_none hnone]
          split at h
          case h_1 item after hitem =>
            -- The set goes on after the item, so the item does not end in a comment.
            have hleaves : Leaves (readBracketItem v) (skip v cs) item after := by
              rcases readBracketItem_close_cases hitem with hleaves | ⟨rfl, -⟩
              · exact hleaves
              · exact absurd rfl (ne_nil_of_readBracketRest h)
            simp only [hleaves u]
            exact ih h hnm'
          case h_2 => cases h

/-- A set in brackets leaves a closing parenthesis after it. -/
theorem readBracket_leaves {v : Bool} {cs rest : List Char} {r : Bool × ClassSet}
    (h : readBracket v cs = some (r, rest)) : Leaves (readBracket v) cs r rest := by
  intro u
  have hrest : readBracketRest v (cs.length + 1) (readBracketStart v cs).1 []
      (readBracketStart v cs).2 = some (r, rest) := h
  have hfuel : cs.length + 1 ≤ (cs ++ ')' :: u).length + 1 := by simp
  rw [readBracket, readBracketStart_append (ne_nil_of_readBracketRest hrest)]
  exact readBracketRest_leaves hrest hfuel u

end OutlineQuery.Regex
