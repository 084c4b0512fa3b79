import OutlineQuery.Regex.Reader

/-!
What the smallest readers make of a closing parenthesis after their input. They leave it, with all
that follows, for whoever reads on, unless verbose mode is on and the input ends in a comment.
-/
namespace OutlineQuery.Regex

open OutlineQuery.Text (isBlank)

section Skipping

variable {v : Bool} {cs : List Char}

theorem dropBlanksAndComments_append {b : Bool} (h : dropBlanksAndComments b cs ≠ [])
    (t : List Char) : dropBlanksAndComments b (cs ++ t) = dropBlanksAndComments b cs ++ t := by
  fun_induction dropBlanksAndComments b cs with
  | case1 b => exact absurd rfl h
  | case2 c rest ih => simpa only [List.cons_append, dropBlanksAndComments] using ih h
  | case3 c rest hblank ih =>
    simpa only [List.cons_append, dropBlanksAndComments, hblank, if_true] using ih h
  | case4 rest hblank ih =>
    simpa [dropBlanksAndComments, hblank] using ih h
  | case5 c rest hblank hhash =>
    simp [dropBlanksAndComments, hblank, hhash]

/-- At the end of the characters either no comment is open, and a closing parenthesis is the next
thing to be read, or one is, and the parenthesis is part of it. -/
theorem dropBlanksAndComments_close_cases (b : Bool) (cs : List Char) :
    (∀ u, dropBlanksAndComments b (cs ++ ')' :: u) = dropBlanksAndComments b cs ++ ')' :: u) ∨
      dropBlanksAndComments b cs = [] ∧ dropBlanksAndComments b (cs ++ [')']) = [] := by
  fun_induction dropBlanksAndComments b cs with
  | case1 b =>
    cases b with
    | false => exact .inl fun u => rfl
    | true => exact .inr ⟨rfl, rfl⟩
  | case2 c rest ih => simpa only [List.cons_append, dropBlanksAndComments] using ih
  | case3 c rest hblank ih =>
    simpa only [List.cons_append, dropBlanksAndComments, hblank, if_true] using ih
  | case4 rest hblank ih => simpa [dropBlanksAndComments, hblank] using ih
  | case5 c rest hblank hhash => exact .inl fun u => by simp [dropBlanksAndComments, hblank, hhash]

theorem skip_append (h : skip v cs ≠ []) (t : List Char) : skip v (cs ++ t) = skip v cs ++ t := by
  cases v with
  | false => rfl
  | true => exact dropBlanksAndComments_append h t

theorem skip_close_cases (v : Bool) (cs : List Char) :
    (∀ u, skip v (cs ++ ')' :: u) = skip v cs ++ ')' :: u) ∨
      skip v cs = [] ∧ skip v (cs ++ [')']) = [] := by
  cases v with
  | false => exact .inl fun u => rfl
  | true => exact dropBlanksAndComments_close_cases false cs

theorem skip_nil (v : Bool) : skip v [] = [] := by
  cases v <;> rfl

theorem length_dropBlanksAndComments_le (b : Bool) (cs : List Char) :
    (dropBlanksAndComments b cs).length ≤ cs.length := by
  fun_induction dropBlanksAndComments b cs with
  | case1 b => exact Nat.le_refl _
  | case2 c rest ih => exact Nat.le_succ_of_le ih
  | case3 c rest hblank ih => exact Nat.le_succ_of_le ih
  | case4 rest hblank ih => exact Nat.le_succ_of_le ih
  | case5 c rest hblank hhash => exact Nat.le_refl _

theorem length_skip_le (v : Bool) (cs : List Char) : (skip v cs).length ≤ cs.length := by
  cases v with
  | false => exact Nat.le_refl _
  | true => exact length_dropBlanksAndComments_le false cs

end Skipping

section Collecting

variable {v : Bool} {p : Char → Bool} {n : Nat} {cs : List Char}

theorem collect_nil (v : Bool) (p : Char → Bool) (n : Nat) : collect v p n [] = ([], []) := by
  cases n <;> rfl

theorem collect_cons (v : Bool) (n : Nat) {c : Char} (hc : p c = true) (rest : List Char) :
    collect v p (n + 1) (c :: rest) =
      (c :: (collect v p n (skip v rest)).1, (collect v p n (skip v rest)).2) := by
  simp only [collect, hc, if_true]

theorem collect_cons_stop (v : Bool) (n : Nat) {c : Char} (hc : p c = false) (rest : List Char) :
    collect v p (n + 1) (c :: rest) = ([], c :: rest) := by
  simp [collect, hc]

/-- Collecting ends before the first character that is not asked for. -/
theorem collect_append (h : (collect v p n cs).2 ≠ []) (t : List Char) :
    collect v p n (cs ++ t) = ((collect v p n cs).1, (collect v p n cs).2 ++ t) := by
  induction n generalizing cs with
  | zero => rfl
  | succ n ih =>
    cases cs with
    | nil => exact absurd rfl h
    | cons c rest =>
      cases hc : p c with
      | false => rw [List.cons_append, collect_cons_stop v n hc, collect_cons_stop v n hc]; rfl
      | true =>
        rw [collect_cons v n hc] at h ⊢
        -- Something is left in the end, so what is skipped here ends within the input too.
        have hskip : skip v rest ≠ [] := by
          intro hnil
          rw [hnil, collect_nil] at h
          exact h rfl
        rw [List.cons_append, collect_cons v n hc, skip_append hskip, ih h]

/-- The parenthesis is not collected; but a comment may run on after the last character. -/
theorem collect_close_cases (hp : p ')' = false) (v : Bool) (n : Nat) (cs : List Char) :
    (∀ u, collect v p n (cs ++ ')' :: u) =
        ((collect v p n cs).1, (collect v p n cs).2 ++ ')' :: u)) ∨
      (collect v p n cs).2 = [] ∧ collect v p n (cs ++ [')']) = ((collect v p n cs).1, []) := by
  induction n generalizing cs with
  | zero => exact .inl fun u => rfl
  | succ n ih =>
    cases cs with
    | nil => exact .inl fun u => collect_cons_stop v n hp u
    | cons c rest =>
      cases hc : p c with
      | false =>
        refine .inl fun u => ?_
        rw [List.cons_append, collect_cons_stop v n hc, collect_cons_stop v n hc]
        rfl
      | true =>
        simp only [List.cons_append, collect_cons v n hc]
        -- What is skipped after a character is the only place where a comment can run on.
        rcases skip_close_cases v rest with hgoes | ⟨hnil, hswallows⟩
        · simp only [hgoes]
          rcases ih (skip v rest) with hrest | ⟨hnil, hrest⟩
          · exact .inl fun u => by rw [hrest u]
          · refine .inr ⟨hnil, ?_⟩
            rw [hrest]
        · refine .inr ⟨?_, ?_⟩
          · rw [hnil, collect_nil]
          · rw [hswallows, hnil, collect_nil]

/-- As many characters as there are is as good as any greater number. -/
theorem collect_congr {m : Nat} (hn : cs.length ≤ n) (hm : cs.length ≤ m) :
    collect v p n cs = collect v p m cs := by
  induction n generalizing m cs with
  | zero =>
    obtain rfl : cs = [] := List.eq_nil_of_length_eq_zero (by omega)
    rw [collect_nil, collect_nil]
  | succ n ih =>
    cases cs with
    | nil => rw [collect_nil, collect_nil]
    | cons c rest =>
      rw [List.length_cons] at hn hm
      obtain ⟨m, rfl⟩ : ∃ k, m = k + 1 := ⟨m - 1, by omega⟩
      cases hc : p c with
      | false => rw [collect_cons_stop v n hc, collect_cons_stop v m hc]
      | true =>
        have hlength := length_skip_le v rest
        rw [collect_cons v n hc, collect_cons v m hc, ih (m := m) (by omega) (by omega)]

theorem collectWhile_append (h : (collectWhile v p cs).2 ≠ []) (t : List Char) :
    collectWhile v p (cs ++ t) = ((collectWhile v p cs).1, (collectWhile v p cs).2 ++ t) := by
  have hfuel : collectWhile v p cs = collect v p (cs ++ t).length cs :=
    collect_congr (Nat.le_refl _) (by simp)
  rw [hfuel] at h ⊢
  exact collect_append h t

theorem dropWhile_append_of_ne_nil (h : cs.dropWhile p ≠ []) (t : List Char) :
    (cs ++ t).dropWhile p = cs.dropWhile p ++ t := by
  rw [List.dropWhile_append, if_neg (by simpa using h)]

end Collecting

section Readers

variable {α : Type} {v : Bool} {cs rest : List Char}

/-- A closing parenthesis after the input of a reader, and all that follows it, is left over along
with what is left of the input. -/
def Leaves (f : List Char → Option (α × List Char)) (cs : List Char) (a : α) (rest : List Char) :
    Prop :=
  ∀ u, f (cs ++ ')' :: u) = some (a, rest ++ ')' :: u)

/-- A reader has come to the end of its input in a comment, of which a closing parenthesis after the
input is part. -/
def Swallows (f : List Char → Option (α × List Char)) (cs : List Char) (a : α) (rest : List Char) :
    Prop :=
  rest = [] ∧ f (cs ++ [')']) = some (a, [])

theorem ne_cons_append {x : Char} (h : ∀ after, cs ≠ x :: after) (hne : cs ≠ [])
    (t after : List Char) : cs ++ t ≠ x :: after := by
  obtain ⟨c, more, rfl⟩ := List.exists_cons_of_ne_nil hne
  intro heq
  exact h more (by rw [(List.cons.inj heq).1])

/-- Where another character than a parenthesis is looked for, a parenthesis does not make it
found. -/
theorem ne_cons_close {x : Char} (hx : x ≠ ')') (h : ∀ after, cs ≠ x :: after)
    (u after : List Char) : cs ++ ')' :: u ≠ x :: after := by
  by_cases hne : cs = []
  · rw [hne]
    exact fun heq => hx (List.cons.inj heq).1.symm
  · exact ne_cons_append h hne _ after

theorem readCount_append {n : Nat} (h : readCount v cs = some (n, rest)) (hne : rest ≠ [])
    (t : List Char) : readCount v (cs ++ t) = some (n, rest ++ t) := by
  unfold readCount at h ⊢
  dsimp only at h ⊢
  split at h
  case isTrue => cases h
  case isFalse hgood =>
    obtain ⟨rfl, rfl⟩ := Prod.mk.inj (Option.some.inj h)
    -- There is a digit before what is left, so the blanks before it end within the input.
    have hafter : (collectWhile v Char.isDigit (cs.dropWhile isBlank)).2 ≠ [] := by
      intro hnil
      rw [hnil] at hne
      exact hne rfl
    have hblanks : cs.dropWhile isBlank ≠ [] := by
      intro hnil
      rw [hnil] at hafter
      exact hafter rfl
    rw [dropWhile_append_of_ne_nil hblanks, collectWhile_append hafter, if_neg hgood,
      dropWhile_append_of_ne_nil hne]

theorem ne_nil_of_readCount {n : Nat} (h : readCount v cs = some (n, rest)) : cs ≠ [] := by
  rintro rfl
  cases h

/-- Counts end with a brace, so what follows them is left. -/
theorem readCounts_append {counts : Nat × Option Nat} (h : readCounts v cs = some (counts, rest))
    (t : List Char) : readCounts v (cs ++ t) = some (counts, rest ++ t) := by
  -- The brace that ends the counts is still there after each number, so no number runs on.
  unfold readCounts at h ⊢
  obtain ⟨⟨least, after⟩, hleast, h⟩ := Option.bind_eq_some_iff.1 h
  have hskip := ne_nil_of_readCount hleast
  dsimp only at h
  split at h
  case h_1 =>
    obtain ⟨rfl, rfl⟩ := Prod.mk.inj (Option.some.inj h)
    rw [skip_append hskip, readCount_append hleast (by simp)]
    rfl
  case h_2 after =>
    rw [skip_append hskip, readCount_append hleast (by simp)]
    split at h
    case h_1 more hmore =>
      obtain ⟨rfl, rfl⟩ := Prod.mk.inj (Option.some.inj h)
      have hskip' : skip v after ≠ [] := by simp [hmore]
      simp only [Option.bind_eq_bind, Option.bind_some, List.cons_append, skip_append hskip', hmore]
      rfl
    case h_2 hclose =>
      obtain ⟨⟨most, more⟩, hmost, h⟩ := Option.bind_eq_some_iff.1 h
      have hskip' := ne_nil_of_readCount hmost
      obtain ⟨d, ds, hds⟩ := List.exists_cons_of_ne_nil hskip'
      have hd : d ≠ '}' := fun hd => hclose ds (hd ▸ hds)
      simp only [Option.bind_eq_bind, Option.bind_some, List.cons_append, skip_append hskip']
      dsimp only at h
      split at h
      case h_1 =>
        split at h
        case isTrue hle =>
          obtain ⟨rfl, rfl⟩ := Prod.mk.inj (Option.some.inj h)
          rw [hds, List.cons_append]
          split
          case h_1 heq => exact absurd (List.cons.inj heq).1 hd
          case h_2 =>
            rw [← List.cons_append, ← hds, readCount_append hmost (by simp)]
            simp [hle]
        case isFalse => cases h
      case h_2 => cases h
  case h_3 => cases h

/-- The digits of an escape that is not in braces, as many as are asked for. -/
theorem readHex_of_digits (width : Nat) (hbrace : ∀ inner, skip v cs ≠ '{' :: inner) :
    readHex v width cs =
      if (collect v isHexDigit width (skip v cs)).1.length = width then
        (charOfNat? (digitsValue 16 hexValue (collect v isHexDigit width (skip v cs)).1)).map
          fun c => (⟨c, width == 2⟩, (collect v isHexDigit width (skip v cs)).2)
      else none := by
  unfold readHex
  split
  case h_1 inner hinner => exact absurd hinner (hbrace inner)
  case h_2 =>
    rw [Option.map_eq_bind]
    rfl

/-- Digits without braces may be followed by a comment, which swallows a parenthesis. -/
theorem readHex_close_cases {width : Nat} {l : Literal} (h : readHex v width cs = some (l, rest)) :
    Leaves (readHex v width) cs l rest ∨ Swallows (readHex v width) cs l rest := by
  by_cases hbrace : ∃ inner, skip v cs = '{' :: inner
  -- Digits in braces end with the second brace, and a comment may only follow digits without them.
  · obtain ⟨inner, hinner⟩ := hbrace
    have hskip : skip v cs ≠ [] := by simp [hinner]
    refine .inl fun u => ?_
    simp only [readHex, skip_append hskip, hinner, List.cons_append] at h ⊢
    split at h
    case h_1 d ds after hdigits =>
      have hafter : (collectWhile v isHexDigit (skip v inner)).2 ≠ [] := by simp [hdigits]
      have hinner' : skip v inner ≠ [] := by
        intro hnil
        rw [hnil] at hdigits
        cases hdigits
      obtain ⟨c, hc, h⟩ := Option.bind_eq_some_iff.1 h
      obtain ⟨rfl, rfl⟩ := Prod.mk.inj (Option.some.inj h)
      simp [skip_append hinner', collectWhile_append hafter, hdigits, hc]
    case h_2 => cases h
  · have hdigits := readHex_of_digits width (not_exists.1 hbrace)
    have hother (u : List Char) (hgoes : skip v (cs ++ ')' :: u) = skip v cs ++ ')' :: u) inner :
        skip v (cs ++ ')' :: u) ≠ '{' :: inner := by
      rw [hgoes]
      exact ne_cons_close (by decide) (not_exists.1 hbrace) u inner
    rw [hdigits] at h
    split at h
    case isFalse => cases h
    case isTrue hlength =>
      obtain ⟨c, hc, h⟩ := Option.map_eq_some_iff.1 h
      obtain ⟨rfl, rfl⟩ := Prod.mk.inj h
      rcases skip_close_cases v cs with hgoes | ⟨hnil, hswallows⟩
      · rcases collect_close_cases (p := isHexDigit) rfl v width (skip v cs) with
          hcollect | ⟨hend, hcollect⟩
        · refine .inl fun u => ?_
          rw [readHex_of_digits width (hother u (hgoes u)), hgoes, hcollect, if_pos hlength, hc]
          rfl
        · refine .inr ⟨hend, ?_⟩
          rw [readHex_of_digits width (hother [] (hgoes [])), hgoes, hcollect, if_pos hlength, hc]
          rfl
      · -- The comment is open before the first digit, and no digit is asked for.
        refine .inr ⟨by rw [hnil, collect_nil], ?_⟩
        rw [readHex_of_digits width (by simp [hswallows]), hswallows, ← hnil, if_pos hlength, hc,
          hnil, collect_nil]
        rfl

/-- A property is one letter or ends with a brace. -/
theorem readProperty_leaves {p : Property} (h : readProperty v cs = some (p, rest)) :
    Leaves (readProperty v) cs p rest := by
  intro u
  unfold readProperty at h ⊢
  split at h
  case h_1 => cases h
  -- A name in braces: the brace that ends it is there already.
  case h_2 inner hinner =>
    have hskip : skip v cs ≠ [] := by simp [hinner]
    simp only [skip_append hskip, hinner, List.cons_append]
    split at h
    case h_1 name after hname =>
      have hafter : (collectWhile v (· != '}') (skip v inner)).2 ≠ [] := by simp [hname]
      have hinner' : skip v inner ≠ [] := by
        intro hnil
        rw [hnil] at hname
        cases hname
      obtain ⟨rfl, rfl⟩ := Prod.mk.inj (Option.some.inj h)
      simp [skip_append hinner', collectWhile_append hafter, hname]
    case h_2 => cases h
  -- A single letter.
  case h_3 c after hbrace hc =>
    have hskip : skip v cs ≠ [] := by simp [hc]
    rw [skip_append hskip, hc, List.cons_append]
    split at h
    case isTrue => cases h
    case isFalse hslash =>
      obtain ⟨rfl, rfl⟩ := Prod.mk.inj (Option.some.inj h)
      split
      case h_1 heq => cases heq
      case h_2 inner heq => exact absurd (List.cons.inj heq).1 hbrace
      case h_3 heq =>
        obtain ⟨rfl, rfl⟩ := List.cons.inj heq
        rw [if_neg hslash]

/-- A boundary leaves a closing parenthesis after it: to have a name it needs a brace at its end,
and a parenthesis does not begin one. -/
theorem readBoundary_leaves {a : Assertion} (h : readBoundary v cs = some (a, rest)) :
    Leaves (readBoundary v) cs a rest := by
  intro u
  unfold readBoundary at h ⊢
  split at h
  case h_1 inner =>
    split at h
    case h_1 => cases h
    -- The character after the brace tells whether a name begins here; it is there already.
    case h_2 c more hmore =>
      have hskip : skip v inner ≠ [] := by simp [hmore]
      simp only [List.cons_append, skip_append hskip, hmore]
      split at h
      case isTrue hname =>
        split at h
        case h_1 name after hafter =>
          have hne : (collectWhile v isBoundaryNameChar (c :: more)).2 ≠ [] := by simp [hafter]
          have hcollect := collectWhile_append hne (')' :: u)
          obtain ⟨b, hb, h⟩ := Option.map_eq_some_iff.1 h
          obtain ⟨rfl, rfl⟩ := Prod.mk.inj h
          rw [List.cons_append, hafter] at hcollect
          simp [hname, hcollect, hb]
        case h_2 => cases h
      case isFalse hname =>
        obtain ⟨rfl, rfl⟩ := Prod.mk.inj (Option.some.inj h)
        simp [hname]
  -- Without a brace there is no name, and a parenthesis is none.
  case h_2 hbrace =>
    obtain ⟨rfl, rfl⟩ := Prod.mk.inj (Option.some.inj h)
    split
    case h_1 inner heq => exact absurd heq (ne_cons_close (by decide) hbrace u inner)
    case h_2 => rfl

/-- What holds of a reader holds of one that only makes something else of its results. -/
theorem close_cases_of_map {β : Type} {f : List Char → Option (β × List Char)}
    {g : List Char → Option (α × List Char)} {w : β → α}
    (hmap : ∀ cs, g cs = (f cs).map fun x => (w x.1, x.2))
    (hf : ∀ b after, f cs = some (b, after) → Leaves f cs b after ∨ Swallows f cs b after)
    {a : α} (h : g cs = some (a, rest)) : Leaves g cs a rest ∨ Swallows g cs a rest := by
  rw [hmap] at h
  obtain ⟨⟨b, after⟩, hb, h⟩ := Option.map_eq_some_iff.1 h
  obtain ⟨rfl, rfl⟩ := Prod.mk.inj h
  rcases hf b after hb with hleaves | ⟨hnil, hswallows⟩
  · exact .inl fun u => by rw [hmap, hleaves u]; rfl
  · exact .inr ⟨hnil, by rw [hmap, hswallows]; rfl⟩

/-- An escape leaves a closing parenthesis after it, unless digits end it and a comment follows
them. -/
theorem readEscape_close_cases {a : Atom} (h : readEscape v cs = some (a, rest)) :
    Leaves (readEscape v) cs a rest ∨ Swallows (readEscape v) cs a rest := by
  rcases cs with _ | ⟨c, cs⟩
  · cases h
  -- What follows the first character is read by one reader or another, depending on that character.
  suffices hreader : Leaves (fun cs => readEscape v (c :: cs)) cs a rest ∨
      Swallows (fun cs => readEscape v (c :: cs)) cs a rest from hreader
  by_cases hescapable : isEscapable c = true
  · refine .inl fun u => ?_
    simp only [readEscape, hescapable, if_true] at h ⊢
    obtain ⟨rfl, rfl⟩ := Prod.mk.inj (Option.some.inj h)
    rfl
  by_cases hhex : c = 'x' ∨ c = 'u' ∨ c = 'U'
  · rcases hhex with rfl | rfl | rfl <;>
      exact close_cases_of_map (fun cs => rfl) (fun l after hl => readHex_close_cases hl) h
  obtain ⟨hx, hu, hU⟩ : c ≠ 'x' ∧ c ≠ 'u' ∧ c ≠ 'U' := by simpa only [not_or] using hhex
  by_cases hp : c = 'p'
  · subst hp
    exact close_cases_of_map (w := fun p => Atom.property p false) (fun cs => rfl)
      (fun p after hp => .inl (readProperty_leaves hp)) h
  by_cases hP : c = 'P'
  · subst hP
    exact close_cases_of_map (w := fun p => Atom.property p true) (fun cs => rfl)
      (fun p after hp => .inl (readProperty_leaves hp)) h
  by_cases hb : c = 'b'
  · subst hb
    exact close_cases_of_map (fun cs => rfl) (fun b after hb => .inl (readBoundary_leaves hb)) h
  · refine .inl fun u => ?_
    simp only [readEscape, hescapable, hx, hu, hU, hp, hP, hb, if_false, Bool.false_eq_true] at h ⊢
    obtain ⟨b, hb, h⟩ := Option.map_eq_some_iff.1 h
    obtain ⟨rfl, rfl⟩ := Prod.mk.inj h
    rw [hb]
    rfl

end Readers

end OutlineQuery.Regex
