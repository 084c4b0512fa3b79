import OutlineQuery.Proofs.Pattern.Phrases

/-!
Where the patterns for texts and blocks are found when case counts. A text somewhere in a field
comes with room for anything on both sides. A dot stands for no line break, but the room may be
empty, so that it asks for nothing.
-/
namespace OutlineQuery

namespace Regex

namespace Cursor

variable {p q : Cursor}

theorem text_of_passes {s : Text.CodePoints} (h : Passes s p q) : q.text = p.text := by
  obtain ⟨c, -, hafter, hbefore⟩ := h
  simp [text, hafter, hbefore]

theorem text_of_repeats {s : Text.CodePoints} {n : Nat} (h : Repeats (Passes s) n p q) :
    q.text = p.text := by
  induction n generalizing p with
  | zero => rw [show p = q from h]
  | succ n ih =>
    obtain ⟨mid, hpass, hrest⟩ := h
    calc q.text = mid.text := ih hrest
      _ = p.text := text_of_passes hpass

end Cursor

namespace Phrase

variable {m : Mode} {text : List Char}

/-- Two phrases occur together if the second leads on from where the first leads. -/
theorem occurs_append_iff (a b : Phrase) :
    (a ++ b).Occurs m text ↔ ∃ p mid q : Cursor, p.text = text ∧
      Ast.LeadsByAll m a.items p mid ∧ Ast.LeadsByAll m b.items mid q := by
  simp only [Occurs, items_append, Ast.leadsByAll_append a.steady]
  constructor
  · rintro ⟨p, q, htext, mid, hfirst, hsecond⟩
    exact ⟨p, mid, q, htext, hfirst, hsecond⟩
  · rintro ⟨p, mid, q, htext, hfirst, hsecond⟩
    exact ⟨p, q, htext, mid, hfirst, hsecond⟩

/-- Anything leads over any number of characters that a dot stands for. -/
theorem leadsByAll_anything_iff {p q : Cursor} :
    Ast.LeadsByAll m anything.items p q ↔ ∃ n, Cursor.Repeats (Cursor.Passes m.dot) n p q := by
  simp [anything, single, Ast.LeadsByAll, Ast.Leads]

theorem leadsByAll_anything_refl (p : Cursor) : Ast.LeadsByAll m anything.items p p :=
  leadsByAll_anything_iff.2 ⟨0, rfl⟩

theorem text_of_leadsByAll_anything {p q : Cursor} (h : Ast.LeadsByAll m anything.items p q) :
    q.text = p.text := by
  obtain ⟨n, hn⟩ := leadsByAll_anything_iff.1 h
  exact Cursor.text_of_repeats hn

/-- Room before a phrase asks for nothing: the phrase may be looked for from where the room ends. -/
theorem occurs_anything_append_iff (b : Phrase) :
    (anything ++ b).Occurs m text ↔ b.Occurs m text := by
  rw [occurs_append_iff]
  constructor
  · rintro ⟨p, mid, q, htext, hroom, hb⟩
    exact ⟨mid, q, (text_of_leadsByAll_anything hroom).trans htext, hb⟩
  · rintro ⟨p, q, htext, hb⟩
    exact ⟨p, p, q, htext, leadsByAll_anything_refl p, hb⟩

/-- Anything after a phrase asks for nothing more. -/
theorem occurs_append_anything_iff (a : Phrase) :
    (a ++ anything).Occurs m text ↔ a.Occurs m text := by
  rw [occurs_append_iff]
  constructor
  · rintro ⟨p, mid, q, htext, ha, -⟩
    exact ⟨p, mid, htext, ha⟩
  · rintro ⟨p, q, htext, ha⟩
    exact ⟨p, q, q, htext, ha, leadsByAll_anything_refl q⟩

/-- Unless lines count, the start of a line is the start of the text. -/
theorem leadsByAll_lineStart_iff (hm : m.multiLine = false) {p q : Cursor} :
    Ast.LeadsByAll m lineStart.items p q ↔ p = q ∧ p.before = [] := by
  simp [lineStart, single, Ast.LeadsByAll, Ast.Leads, Mode.place, hm, Place.holds]

/-- Unless lines count, the end of a line is the end of the text. -/
theorem leadsByAll_lineEnd_iff (hm : m.multiLine = false) {p q : Cursor} :
    Ast.LeadsByAll m lineEnd.items p q ↔ p = q ∧ p.after = [] := by
  simp [lineEnd, single, Ast.LeadsByAll, Ast.Leads, Mode.place, hm, Place.holds]

/-- Between the start and the end of the text there is nothing but the characters. -/
theorem occurs_anchored_iff (cs : List Char) :
    (lineStart ++ escaped cs ++ lineEnd).Occurs (.ofCase false) text ↔ text = cs := by
  have hline : (Mode.ofCase false).multiLine = false := rfl
  have hcase : (Mode.ofCase false).ignoreCase = false := rfl
  rw [occurs_append_iff]
  -- The anchors pass nothing, so the characters lead from the first place to the last.
  simp only [items_append, Ast.leadsByAll_append lineStart.steady, leadsByAll_lineStart_iff hline,
    leadsByAll_lineEnd_iff hline, items_escaped, Ast.leadsByAll_literals hcase]
  constructor
  · rintro ⟨p, mid, q, htext, ⟨start, ⟨rfl, hstart⟩, hafter, -⟩, rfl, hend⟩
    rw [← htext, Cursor.text, hstart, hafter, hend]
    simp
  · rintro rfl
    exact ⟨⟨[], text⟩, ⟨text.reverse, []⟩, _, rfl, ⟨_, ⟨rfl, rfl⟩, by simp, by simp⟩, rfl, rfl⟩

end Phrase

end Regex

open Regex (Ast Finds Phrase)

namespace Pattern

variable {text : List Char}

/-- The phrase for a value that is contained occurs where the value is part of the text. -/
theorem occurs_containedPhrase_iff (value : String) :
    (containedPhrase value).Occurs (.ofCase false) text ↔ value.toList <:+: text := by
  rw [containedPhrase, Phrase.occurs_append_anything_iff, Phrase.occurs_anything_append_iff]
  exact Phrase.occurs_iff_isInfix (Phrase.items_escaped value.toList)

/-- The phrase for an exact value occurs in that text only. -/
theorem occurs_exactPhrase_iff (value : String) :
    (exactPhrase value).Occurs (.ofCase false) text ↔ text = value.toList :=
  Phrase.occurs_anchored_iff value.toList

/-- The phrase for a block occurs where its identifier stands in double parentheses. -/
theorem occurs_blockPhrase_iff (id : String) :
    (blockPhrase id).Occurs (.ofCase false) text ↔
      ['(', '('] ++ id.toList ++ [')', ')'] <:+: text := by
  apply Phrase.occurs_iff_isInfix
  simp only [blockPhrase, Phrase.items_append, Phrase.items_escaped, Ast.literals, List.map_append]

end Pattern

namespace Condition

variable {c : Condition}

/-- A pattern that is one phrase is found where the phrase occurs. -/
theorem finds_source_iff_occurs (hc : c.isRaw = false) {p : Phrase} (hp : c.choice = ⟨p, []⟩)
    (text : String) : Finds (c.source false) text ↔ p.Occurs (.ofCase false) text.toList := by
  rw [finds_source_iff hc, hp]
  simp [Regex.Choice.phrases]

/-- A text in a field is found where it is part of the field, whatever characters it has; a text
that is to be all of the field in that field alone; and a block where its identifier stands in
double parentheses, in either mode. -/
theorem finds_source_iff_literal (c : Condition) (text : String) :
    (c.kind = .text → c.mode = .contains →
      (Finds (c.source false) text ↔ c.value.toList <:+: text.toList)) ∧
    (c.kind = .text → c.mode = .exact → (Finds (c.source false) text ↔ text = c.value)) ∧
    (c.kind = .blockReference → c.mode = .exact ∨ c.mode = .contains →
      (Finds (c.source false) text ↔ ("((" ++ c.value ++ "))").toList <:+: text.toList)) := by
  refine ⟨?_, ?_, ?_⟩
  · intro hkind hmode
    have hraw : c.isRaw = false := by simp [isRaw, hkind, hmode]
    have hchoice : c.choice = ⟨Pattern.containedPhrase c.value, []⟩ := by
      simp [choice, hkind, hmode]
    rw [finds_source_iff_occurs hraw hchoice, Pattern.occurs_containedPhrase_iff]
  · intro hkind hmode
    have hraw : c.isRaw = false := by simp [isRaw, hkind, hmode]
    have hchoice : c.choice = ⟨Pattern.exactPhrase c.value, []⟩ := by
      simp [choice, hkind, hmode]
    rw [finds_source_iff_occurs hraw hchoice, Pattern.occurs_exactPhrase_iff, String.toList_inj]
  · intro hkind hmode
    have hraw : c.isRaw = false := by
      rcases hmode with hmode | hmode <;> simp [isRaw, hkind, hmode]
    have hchoice : c.choice = ⟨Pattern.blockPhrase c.value, []⟩ := by
      simp [choice, hkind]
    rw [finds_source_iff_occurs hraw hchoice, Pattern.occurs_blockPhrase_iff]
    simp only [String.toList_append]
    rfl

/-- Characters with a meaning of their own, on two lines. -/
def markText (kind : Kind) (mode : MatchMode) : Condition :=
  ⟨kind, ".*\n(?i)", mode, false, Binary64.one, none⟩

/-- The marks are looked for as they stand, across the line break too, and in their own case. -/
theorem finds_source_iff_literal_markText :
    Finds ((markText .text .contains).source false) "a.*\n(?i)b" ∧
      ¬Finds ((markText .text .contains).source false) ".*\n(?I)" ∧
      Finds ((markText .text .exact).source false) ".*\n(?i)" ∧
      ¬Finds ((markText .text .exact).source false) "a.*\n(?i)b" ∧
      Finds ((markText .blockReference .exact).source false) "a((.*\n(?i)))b" ∧
      ¬Finds ((markText .blockReference .contains).source false) "((.*\n(?I)))" := by
  have hcontains (text : String) :=
    (finds_source_iff_literal (markText .text .contains) text).1 rfl rfl
  have hexact (text : String) :=
    (finds_source_iff_literal (markText .text .exact) text).2.1 rfl rfl
  have hblock (text : String) :=
    (finds_source_iff_literal (markText .blockReference .exact) text).2.2 rfl (.inl rfl)
  have hblock' (text : String) :=
    (finds_source_iff_literal (markText .blockReference .contains) text).2.2 rfl (.inr rfl)
  -- A text without the small letter has no part with it.
  have hcase {part text : List Char} (hpart : 'i' ∈ part) (htext : 'i' ∉ text) : ¬part <:+: text :=
    fun hsub => htext (hsub.subset hpart)
  rw [hcontains, hcontains, hexact, hexact, hblock, hblock']
  refine ⟨⟨['a'], ['b'], rfl⟩, ?_, rfl, by decide, ⟨['a'], ['b'], rfl⟩, ?_⟩
  · exact hcase (by decide) (by decide)
  · exact hcase (by decide) (by decide)

end Condition

end OutlineQuery
