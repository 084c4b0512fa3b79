import Mathlib.Data.List.Chain
import OutlineQuery.Proofs.Datalog.Token
import OutlineQuery.Text.Blank

/-!
How query text is read. A literal ends at its own closing quote, whatever text it stands for, and a
word ends at the first delimiter. So a text has one sequence of tokens, if no two words in it are
adjacent.
-/
namespace OutlineQuery.Datalog

namespace StringLiteral

theorem decodeBody_escape (c : Char) (rest : List Char) :
    decodeBody (escape c ++ rest) = (decodeBody rest).map fun r => (c :: r.1, r.2) := by
  unfold escape
  split_ifs with hslash hquote hn hr ht
  case neg =>
    rw [List.singleton_append, decodeBody, if_neg hquote, if_neg hslash]
    · cases decodeBody rest <;> rfl
    · exact fun _ _ h => absurd h hslash
  all_goals
    subst c
    cases hrest : decodeBody rest <;> simp [decodeBody, unescape?, hrest]

/-- A literal is read up to its closing quote, and no further. -/
theorem decode_encode_append (cs rest : List Char) :
    decode (encode cs ++ rest) = some (cs, rest) := by
  have hbody : decodeBody (cs.flatMap escape ++ '"' :: rest) = some (cs, rest) := by
    induction cs with
    | nil => simp [decodeBody]
    | cons c cs ih =>
      rw [List.flatMap_cons, List.append_assoc, decodeBody_escape, ih, Option.map_some]
  simpa [encode, decode] using hbody

/-- A text starts with one literal at most, and that tells where it ends. -/
theorem encode_append_inj {cs ds r s : List Char} (h : encode cs ++ r = encode ds ++ s) :
    cs = ds ∧ r = s := by
  have hread := congrArg decode h
  rw [decode_encode_append, decode_encode_append] at hread
  simpa using hread

end StringLiteral

namespace Position

@[simp] theorem after_nil (p : Position) : p.after [] = p :=
  rfl

@[simp] theorem after_cons (p : Position) (c : Char) (cs : List Char) :
    p.after (c :: cs) = (p.step c).after cs :=
  rfl

theorem after_append (p : Position) (cs ds : List Char) :
    p.after (cs ++ ds) = (p.after cs).after ds :=
  List.foldl_append

/-- Only a quote opens a literal. -/
theorem step_code {c : Char} (h : c ≠ '"') : code.step c = code :=
  if_neg h

def Inside : Position → List Char → Prop
  | p, [] => p ≠ code
  | p, c :: rest => p ≠ code ∧ Inside (p.step c) rest

theorem inside_append {p : Position} {cs ds : List Char} :
    Inside p (cs ++ ds) ↔ Inside p cs ∧ Inside (p.after cs) ds := by
  induction cs generalizing p with
  | nil =>
    suffices h : Inside p ds → p ≠ code by simpa [Inside] using h
    intro h
    cases ds with
    | nil => exact h
    | cons d ds => exact h.1
  | cons c cs ih => simp only [List.cons_append, Inside, ih, after_cons, and_assoc]

/-- An escaped character begins and ends in the literal. -/
theorem inside_escape (c : Char) :
    Inside literal (StringLiteral.escape c) ∧ literal.after (StringLiteral.escape c) = literal := by
  unfold StringLiteral.escape
  split_ifs with hslash hquote hn hr ht
  case neg => simp [Inside, step, hslash, hquote]
  all_goals simp [Inside, step]

/-- No character of a literal's text leads out of the literal. -/
theorem inside_escapes (cs : List Char) :
    Inside literal (cs.flatMap StringLiteral.escape) ∧
      literal.after (cs.flatMap StringLiteral.escape) = literal := by
  induction cs with
  | nil => simp [Inside]
  | cons c cs ih =>
    obtain ⟨hinside, hafter⟩ := inside_escape c
    rw [List.flatMap_cons, inside_append, after_append, hafter]
    exact ⟨⟨hinside, ih.1⟩, ih.2⟩

end Position

def isDelimiter (c : Char) : Bool :=
  Text.isBlank c || ['"', '(', ')', '[', ']', '{', '}'].contains c

/-- Whether a text can be a word: it has a character, and no delimiter. -/
def isName (s : String) : Bool :=
  !s.isEmpty && s.toList.all (!isDelimiter ·)

/-- The brackets and blanks that the printer writes. -/
def isMark (c : Char) : Bool :=
  ['(', ')', '[', ']', '{', '}', ' ', '\n'].contains c

theorem isDelimiter_of_isMark {c : Char} (h : isMark c = true) : isDelimiter c = true := by
  simp only [isMark, List.contains_iff_mem, List.mem_cons, List.not_mem_nil, or_false] at h
  rcases h with rfl | rfl | rfl | rfl | rfl | rfl | rfl | rfl <;> decide

theorem ne_quote_of_isMark {c : Char} (h : isMark c = true) : c ≠ '"' := by
  rintro rfl
  simp [isMark] at h

theorem not_isDelimiter_of_isName {s : String} (h : isName s = true) {c : Char}
    (hc : c ∈ s.toList) : isDelimiter c = false := by
  simp only [isName, Bool.and_eq_true, List.all_eq_true, Bool.not_eq_true'] at h
  exact h.2 c hc

theorem quote_not_mem_of_isName {s : String} (h : isName s = true) : '"' ∉ s.toList := by
  intro hquote
  have hplain := not_isDelimiter_of_isName h hquote
  revert hplain
  decide

theorem toList_ne_nil_of_isName {s : String} (h : isName s = true) : s.toList ≠ [] := by
  simp only [isName, Bool.and_eq_true, Bool.not_eq_true'] at h
  intro hnil
  rw [String.toList_eq_nil_iff] at hnil
  simp [hnil] at h

namespace Token

def isWord : Token → Bool
  | word _ => true
  | _ => false

def isProper : Token → Bool
  | word s => isName s
  | literal _ => true
  | mark c => isMark c

/-- A sequence of tokens whose text can be read back: the tokens can, and no two words are
adjacent. -/
structure Readable (ts : List Token) : Prop where
  proper : ∀ t ∈ ts, t.isProper = true
  separated : ts.IsChain fun t u => t.isWord = true → u.isWord = false

section Readable

variable {c : Char} {s : String} {ts us : List Token}

@[simp] theorem readable_nil : Readable [] :=
  ⟨by simp, .nil⟩

@[simp] theorem readable_singleton {t : Token} : Readable [t] ↔ t.isProper = true :=
  ⟨fun h => h.proper t List.mem_cons_self, fun h => ⟨by simpa using h, .singleton t⟩⟩

theorem Readable.tail {t : Token} (h : Readable (t :: ts)) : Readable ts :=
  ⟨fun u hu => h.proper u (List.mem_cons_of_mem t hu), h.separated.tail⟩

@[simp] theorem readable_mark_cons :
    Readable (mark c :: ts) ↔ isMark c = true ∧ Readable ts := by
  constructor
  · intro h
    exact ⟨h.proper _ List.mem_cons_self, h.tail⟩
  · rintro ⟨hc, hts⟩
    refine ⟨List.forall_mem_cons.2 ⟨hc, hts.proper⟩, ?_⟩
    cases ts with
    | nil => exact .singleton _
    | cons t ts => exact .cons_cons (fun h => nomatch h) hts.separated

@[simp] theorem readable_word_mark_cons :
    Readable (word s :: mark c :: ts) ↔ isName s = true ∧ isMark c = true ∧ Readable ts := by
  rw [← readable_mark_cons]
  constructor
  · intro h
    exact ⟨h.proper _ List.mem_cons_self, h.tail⟩
  · rintro ⟨hs, hts⟩
    exact ⟨List.forall_mem_cons.2 ⟨hs, hts.proper⟩, .cons_cons (fun _ => rfl) hts.separated⟩

/-- A bracket or a blank keeps what stands before it from what stands after it. -/
@[simp] theorem readable_append_mark_cons :
    Readable (ts ++ mark c :: us) ↔ Readable ts ∧ isMark c = true ∧ Readable us := by
  rw [← readable_mark_cons]
  constructor
  · rintro ⟨hproper, hsep⟩
    rw [List.forall_mem_append] at hproper
    obtain ⟨hts, hus, -⟩ := List.isChain_append.1 hsep
    exact ⟨⟨hproper.1, hts⟩, ⟨hproper.2, hus⟩⟩
  · rintro ⟨hts, hus⟩
    refine ⟨List.forall_mem_append.2 ⟨hts.proper, hus.proper⟩,
      List.isChain_append.2 ⟨hts.separated, hus.separated, ?_⟩⟩
    intro t _ u hu _
    obtain rfl := Option.mem_some_iff.1 hu
    rfl

/-- Readable sequences stay so with a blank before each. -/
theorem readable_append_flatMap {α : Type} {f : α → List Token} {xs : List α} (hc : isMark c = true)
    (hts : Readable ts) (hf : ∀ x ∈ xs, Readable (f x)) :
    Readable (ts ++ xs.flatMap (mark c :: f ·)) := by
  induction xs generalizing ts with
  | nil => simpa using hts
  | cons x xs ih =>
    have hstep := readable_append_mark_cons.2 ⟨hts, hc, hf x List.mem_cons_self⟩
    simpa using ih hstep fun y hy => hf y (List.mem_cons_of_mem x hy)

/-- Separators that begin with a mark keep the words on both sides apart. -/
theorem readable_joined {sep : List Token} {ps : List (List Token)} (hc : isMark c = true)
    (hsep : ∀ p ∈ ps, Readable p → Readable (sep ++ p)) (hps : ∀ p ∈ ps, Readable p) :
    Readable (joined (mark c :: sep) ps) := by
  cases ps with
  | nil => simp
  | cons p ps =>
    obtain ⟨hp, hrest⟩ := List.forall_mem_cons.1 hps
    rw [joined_cons]
    exact readable_append_flatMap hc hp fun q hq =>
      hsep q (List.mem_cons_of_mem p hq) (hrest q hq)

theorem readable_joined_space {ps : List (List Token)} (hps : ∀ p ∈ ps, Readable p) :
    Readable (joined space ps) :=
  readable_joined (by decide) (fun _ _ h => h) hps

theorem readable_joined_lineBreak {ps : List (List Token)} (hps : ∀ p ∈ ps, Readable p) :
    Readable (joined lineBreak ps) := by
  have hblank : isMark ' ' = true := by decide
  apply readable_joined (by decide) _ hps
  intro p _ hp
  simpa [List.replicate, hblank] using hp

end Readable

theorem chars_ne_nil {t : Token} (h : t.isProper = true) : t.chars ≠ [] := by
  cases t with
  | word s => exact toList_ne_nil_of_isName h
  | literal s => simp [chars, StringLiteral.encode]
  | mark c => simp [chars]

/-- What is no word starts with a delimiter. -/
theorem exists_delimiter {t : Token} (h : t.isProper = true) (hword : t.isWord = false) :
    ∃ d rest, t.chars = d :: rest ∧ isDelimiter d = true := by
  cases t with
  | word s => cases hword
  | literal s => exact ⟨'"', _, rfl, by decide⟩
  | mark c => exact ⟨c, [], rfl, isDelimiter_of_isMark h⟩

/-- After a word the text ends or goes on with a delimiter. -/
theorem takeWhile_spell {s : String} {ts : List Token} (h : Readable (word s :: ts)) :
    (s.toList ++ spell ts).takeWhile (!isDelimiter ·) = s.toList := by
  have hrest : (spell ts).takeWhile (!isDelimiter ·) = [] := by
    cases ts with
    | nil => rfl
    | cons t ts =>
      have hword := (List.isChain_cons_cons.1 h.separated).1 rfl
      obtain ⟨d, rest, hd, hdelim⟩ := exists_delimiter (h.proper t (by simp)) hword
      simp [hd, hdelim]
  have hall : ∀ c ∈ s.toList, (!isDelimiter c) = true := by
    intro c hc
    rw [not_isDelimiter_of_isName (h.proper _ List.mem_cons_self) hc]
    rfl
  rw [List.takeWhile_append_of_pos hall, hrest, List.append_nil]

/-- Tokens that spell the same text start with the same one. -/
theorem head_eq_of_spell_eq {t u : Token} {ts us : List Token} (ht : Readable (t :: ts))
    (hu : Readable (u :: us)) (h : spell (t :: ts) = spell (u :: us)) : t = u := by
  have hnot {s : String} {d : Char} {rest rest' : List Char} (hs : isName s = true)
      (hd : isDelimiter d = true) (heq : s.toList ++ rest = d :: rest') : False := by
    obtain ⟨c, cs, hc⟩ := List.exists_cons_of_ne_nil (toList_ne_nil_of_isName hs)
    rw [hc, List.cons_append, List.cons.injEq] at heq
    have hplain := not_isDelimiter_of_isName hs (c := c) (by simp [hc])
    rw [heq.1, hd] at hplain
    cases hplain
  have htp := ht.proper t List.mem_cons_self
  have hup := hu.proper u List.mem_cons_self
  rw [spell_cons, spell_cons] at h
  cases t with
  | word s =>
    cases u with
    | word s' =>
      have hword := congrArg (List.takeWhile (!isDelimiter ·)) h
      rw [chars, chars, takeWhile_spell ht, takeWhile_spell hu, String.toList_inj] at hword
      rw [hword]
    | literal s' => exact (hnot htp (d := '"') (by decide) h).elim
    | mark c => exact (hnot htp (isDelimiter_of_isMark hup) h).elim
  | literal s =>
    cases u with
    | word s' => exact (hnot hup (d := '"') (by decide) h.symm).elim
    | literal s' => rw [String.toList_inj.1 (StringLiteral.encode_append_inj h).1]
    | mark c => exact absurd (List.cons.inj h).1.symm (ne_quote_of_isMark hup)
  | mark c =>
    cases u with
    | word s' => exact (hnot hup (isDelimiter_of_isMark htp) h.symm).elim
    | literal s' => exact absurd (List.cons.inj h).1 (ne_quote_of_isMark htp)
    | mark c' => rw [(List.cons.inj h).1]

/-- A text has one sequence of tokens. -/
theorem eq_of_spell_eq {ts us : List Token} (hts : Readable ts) (hus : Readable us)
    (h : spell ts = spell us) : ts = us := by
  induction ts generalizing us with
  | nil =>
    cases us with
    | nil => rfl
    | cons u us =>
      have hnil := (List.append_eq_nil_iff.1 h.symm).1
      exact absurd hnil (chars_ne_nil (hus.proper u List.mem_cons_self))
  | cons t ts ih =>
    cases us with
    | nil =>
      have hnil := (List.append_eq_nil_iff.1 h).1
      exact absurd hnil (chars_ne_nil (hts.proper t List.mem_cons_self))
    | cons u us =>
      obtain rfl := head_eq_of_spell_eq hts hus h
      rw [spell_cons, spell_cons, List.append_cancel_left_eq] at h
      rw [ih hts.tail hus.tail h]

end Token

end OutlineQuery.Datalog
