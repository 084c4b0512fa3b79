import OutlineQuery.Proofs.Regex.Reading

/-!
Texts that are read as the same items wherever they stand in a pattern, and the patterns that are
put together from them. A phrase comes with the proof that it is such a text.
-/
namespace OutlineQuery.Regex

/-- A text that is read as the same items wherever it stands, that leaves what stands before it as
it is, and that touches no switches. -/
structure Phrase where
  text : List Char
  items : List Ast
  writes : Writes text items
  calm : isCalm text = true
  steady : ∀ x ∈ items, x.Steady

namespace Phrase

def append (a b : Phrase) : Phrase where
  text := a.text ++ b.text
  items := a.items ++ b.items
  writes := a.writes.append b.writes b.calm
  calm := isCalm_append a.calm b.calm
  steady := List.forall_mem_append.2 ⟨a.steady, b.steady⟩

instance : Append Phrase := ⟨append⟩

theorem text_append (a b : Phrase) : (a ++ b).text = a.text ++ b.text := rfl

theorem items_append (a b : Phrase) : (a ++ b).items = a.items ++ b.items := rfl

def empty : Phrase :=
  ⟨[], [], Writes.nil, rfl, by simp⟩

def single (text : List Char) (item : Ast) (writes : Writes text [item]) (calm : isCalm text = true)
    (steady : item.Steady) : Phrase :=
  ⟨text, [item], writes, calm, by simpa using steady⟩

def lineStart : Phrase :=
  single ['^'] (.assertion .lineStart) .lineStart rfl (Ast.steady_assertion _)

def lineEnd : Phrase :=
  single ['$'] (.assertion .lineEnd) .lineEnd rfl (Ast.steady_assertion _)

def wordBoundary : Phrase :=
  single ['\\', 'b'] (.assertion .wordBoundary) .wordBoundary rfl (Ast.steady_assertion _)

/-- Any text on one line. -/
def anything : Phrase :=
  single ['.', '*'] (.repeated .dot 0 none true) .anything rfl (Ast.steady_repeated_dot 0 none true)

/-- A character that needs no backslash. -/
def char (c : Char) (h : c ∉ marks) : Phrase :=
  single [c] (.literal ⟨c, false⟩) (.char h) (isCalm_of_not_mem_marks h) (Ast.steady_literal _)

/-- A text in which every character stands for itself. -/
def escaped : List Char → Phrase
  | [] => empty
  | c :: cs =>
    single (escapeChar c) (.literal ⟨c, false⟩) (.escapeChar c) (isCalm_escapeChar c)
      (Ast.steady_literal _) ++ escaped cs

theorem text_escaped (cs : List Char) : (escaped cs).text = cs.flatMap escapeChar := by
  induction cs with
  | nil => rfl
  | cons c cs ih => rw [escaped, text_append, ih, List.flatMap_cons]; rfl

theorem items_escaped (cs : List Char) : (escaped cs).items = Ast.literals cs := by
  induction cs with
  | nil => rfl
  | cons c cs ih => rw [escaped, items_append, ih]; rfl

/-- Under the switches a phrase leads on from some place in a text. -/
def Occurs (m : Mode) (p : Phrase) (text : List Char) : Prop :=
  ∃ a b : Cursor, a.text = text ∧ Ast.LeadsByAll m p.items a b

/-- Phrases occur at places, which can be chosen before the phrase. -/
theorem exists_occurs_iff {m : Mode} {ps : List Phrase} {text : List Char} :
    (∃ p ∈ ps, p.Occurs m text) ↔
      ∃ a b : Cursor, a.text = text ∧ ∃ p ∈ ps, Ast.LeadsByAll m p.items a b := by
  constructor
  · rintro ⟨p, hp, a, b, htext, hleads⟩
    exact ⟨a, b, htext, p, hp, hleads⟩
  · rintro ⟨a, b, htext, p, hp, hleads⟩
    exact ⟨p, hp, a, b, htext, hleads⟩

end Phrase

/-- Phrases of which one is to be chosen. There is at least one. -/
structure Choice where
  first : Phrase
  others : List Phrase

namespace Choice

def phrases (ch : Choice) : List Phrase :=
  ch.first :: ch.others

/-- The phrases with bars between them. -/
def text (ch : Choice) : List Char :=
  ['|'].intercalate (ch.phrases.map Phrase.text)

theorem text_singleton (p : Phrase) : text ⟨p, []⟩ = p.text := by
  simp [text, phrases]

theorem text_cons (p q : Phrase) (ps : List Phrase) :
    text ⟨p, q :: ps⟩ = p.text ++ ['|'] ++ text ⟨q, ps⟩ := by
  simp [text, phrases, List.intercalate_cons_cons]

theorem calm (ch : Choice) : isCalm ch.text = true := by
  obtain ⟨p, ps⟩ := ch
  cases ps with
  | nil => rw [text_singleton, p.calm]
  | cons q ps =>
    rw [text_cons, List.append_assoc]
    exact isCalm_append p.calm rfl

/-- The level after a choice has been read. -/
def level (ch : Choice) (l : Level) : Level :=
  l.extendRows ch.first.items (ch.others.map Phrase.items)

/-- A choice is read as branches, the first one after the items already there. -/
theorem reads (ch : Choice) (l : Level) : Reads ch.text l (ch.level l) := by
  obtain ⟨p, ps⟩ := ch
  induction ps generalizing p l with
  | nil =>
    rw [text_singleton]
    exact p.writes l
  | cons q ps ih =>
    rw [text_cons]
    exact ((p.writes l).append Reads.bar rfl).append (ih _ q) (calm _)

variable {m : Mode} {a b : Cursor}

theorem leadsByOne_phrases (ch : Choice) :
    Ast.LeadsByOne m (ch.phrases.map fun p => Ast.ofItems p.items) a b ↔
      ∃ p ∈ ch.phrases, Ast.LeadsByAll m p.items a b := by
  have hsteady : ∀ row ∈ ch.phrases.map Phrase.items, ∀ x ∈ row, x.Steady := by
    simpa using fun p _ => p.steady
  have hrows := Ast.leadsByOne_rows (m := m) (p := a) (q := b) hsteady
  rw [List.map_map] at hrows
  refine hrows.trans ⟨?_, fun ⟨p, hp, h⟩ => ⟨p.items, List.mem_map_of_mem hp, h⟩⟩
  rintro ⟨row, hrow, h⟩
  obtain ⟨p, hp, rfl⟩ := List.mem_map.1 hrow
  exact ⟨p, hp, h⟩

/-- The items that stand before a choice stand in its first branch. -/
theorem leads_level (ch : Choice) (lead : List Ast) :
    (ch.level (Level.empty.extend lead)).close.Leads m a b ↔
      Ast.LeadsByOne m (Ast.ofItems (lead ++ ch.first.items) ::
        ch.others.map fun p => Ast.ofItems p.items) a b := by
  rw [Level.leads_close, level, Level.branches_extendRows]
  simp [Level.empty, Level.extend, Function.comp_def]

def grouped (ch : Choice) : Phrase :=
  Phrase.single ("(?:".toList ++ ch.text ++ [')'])
    (.group (.plain .none) (ch.level Level.empty).close) (.group (ch.reads Level.empty)) rfl
    (Ast.steady_group _ _)

/-- A choice in a group leads on as one of its phrases does. -/
theorem leadsByAll_grouped (ch : Choice) :
    Ast.LeadsByAll m ch.grouped.items a b ↔ ∃ p ∈ ch.phrases, Ast.LeadsByAll m p.items a b := by
  have hmode : m.change (GroupKind.plain .none).flags = m := rfl
  have hlevel := ch.leads_level (m := m) (a := a) (b := b) []
  rw [Level.extend_nil, List.nil_append] at hlevel
  rw [← leadsByOne_phrases, phrases, List.map_cons, ← hlevel]
  simp only [grouped, Phrase.single, Ast.LeadsByAll, Ast.Leads, hmode, exists_eq_right]

theorem occurs_grouped (ch : Choice) {text : List Char} :
    ch.grouped.Occurs m text ↔ ∃ p ∈ ch.phrases, p.Occurs m text := by
  rw [Phrase.exists_occurs_iff]
  simp only [Phrase.Occurs, leadsByAll_grouped]

end Choice

/-- The switches at the start of a pattern, with case ignored or not. -/
def Mode.ofCase (ignoreCase : Bool) : Mode :=
  { Mode.initial with ignoreCase }

/-- How a pattern starts that ignores case or not. -/
def caseText (ignoreCase : Bool) : List Char :=
  if ignoreCase then "(?i)".toList else []

/-- What the start of a pattern is read as. -/
def caseItems (ignoreCase : Bool) : List Ast :=
  if ignoreCase then [.flags ⟨[.ignoreCase], []⟩] else []

theorem writes_caseText (ignoreCase : Bool) : Writes (caseText ignoreCase) (caseItems ignoreCase) := by
  cases ignoreCase with
  | false => exact Writes.nil
  | true => exact fun _ => Reads.ignoreCase

namespace Choice

variable (ch : Choice) (ignoreCase : Bool) {a b : Cursor}

/-- A switch at the start holds for every branch. -/
theorem leads_caseItems :
    (ch.level (Level.empty.extend (caseItems ignoreCase))).close.Leads .initial a b ↔
      ∃ p ∈ ch.phrases, Ast.LeadsByAll (.ofCase ignoreCase) p.items a b := by
  have hfirst : Ast.LeadsByAll .initial (caseItems ignoreCase ++ ch.first.items) a b ↔
      Ast.LeadsByAll (.ofCase ignoreCase) ch.first.items a b := by
    cases ignoreCase with
    | false => rfl
    | true =>
      change (∃ mid, a = mid ∧ Ast.LeadsByAll (.ofCase true) ch.first.items mid b) ↔ _
      rw [exists_eq_left']
  have hmode : (Ast.ofItems (caseItems ignoreCase ++ ch.first.items)).modeAfter .initial =
      (Ast.ofItems ch.first.items).modeAfter (.ofCase ignoreCase) := by
    rw [Ast.modeAfter_ofItems, Ast.modeAfter_ofItems]
    cases ignoreCase <;> rfl
  rw [leads_level, ← leadsByOne_phrases]
  simp only [phrases, List.map_cons, Ast.LeadsByOne, Ast.leads_ofItems, hfirst, hmode]

variable {pattern : String} (h : pattern.toList = caseText ignoreCase ++ ch.text)

include h

/-- A pattern that is a choice, after the switch for case, is read as one. -/
theorem parse_eq :
    parse? pattern = some (ch.level (Level.empty.extend (caseItems ignoreCase))).close := by
  have hreads := (writes_caseText ignoreCase Level.empty).append (ch.reads _) ch.calm
  rw [← h] at hreads
  exact hreads.parse

theorem parse_isSome : (parse? pattern).isSome := by
  rw [ch.parse_eq ignoreCase h, Option.isSome_some]

theorem finds_iff (text : String) :
    Finds pattern text ↔ ∃ p ∈ ch.phrases, p.Occurs (.ofCase ignoreCase) text.toList := by
  rw [Phrase.exists_occurs_iff]
  simp only [Finds, ch.parse_eq ignoreCase h, Option.some.injEq, exists_eq_left', leads_caseItems]

end Choice

namespace Phrase

variable {p : Phrase} {cs : List Char} {text : List Char}

/-- Where case counts, a phrase that starts with characters occurs where these stand in the text and
the rest of it leads on from there. -/
theorem occurs_iff_of_items {tail : List Ast} (hitems : p.items = Ast.literals cs ++ tail) :
    p.Occurs (.ofCase false) text ↔
      ∃ before after, before ++ cs ++ after = text ∧
        ∃ b, Ast.LeadsByAll (.ofCase false) tail ⟨cs.reverse ++ before.reverse, after⟩ b := by
  simp only [Occurs, hitems, Ast.leadsByAll_append (Ast.steady_literals cs)]
  constructor
  · rintro ⟨a, b, rfl, mid, hmid, htail⟩
    obtain ⟨hafter, hbefore⟩ := (Ast.leadsByAll_literals rfl cs).1 hmid
    have hcursor : mid = ⟨cs.reverse ++ a.before, mid.after⟩ := by rw [← hbefore]
    refine ⟨a.before.reverse, mid.after, by simp [Cursor.text, hafter], b, ?_⟩
    rw [List.reverse_reverse, ← hcursor]
    exact htail
  · rintro ⟨before, after, rfl, b, htail⟩
    refine ⟨⟨before.reverse, cs ++ after⟩, b, by simp [Cursor.text], _, ?_, htail⟩
    exact (Ast.leadsByAll_literals rfl cs).2 ⟨rfl, rfl⟩

/-- Where case counts, a text that stands for itself occurs where it is part of the other. -/
theorem occurs_iff_isInfix (hitems : p.items = Ast.literals cs) :
    p.Occurs (.ofCase false) text ↔ cs <:+: text := by
  have hnil : p.items = Ast.literals cs ++ [] := by rw [hitems, List.append_nil]
  rw [occurs_iff_of_items hnil]
  simp [List.IsInfix, Ast.LeadsByAll]

/-- A boundary after characters asks that of the last of them and the one that follows in the text
one belongs to words and the other does not. -/
theorem occurs_iff_boundary (hne : cs ≠ [])
    (hitems : p.items = Ast.literals cs ++ [.assertion .wordBoundary]) :
    p.Occurs (.ofCase false) text ↔
      ∃ before after, before ++ cs ++ after = text ∧
        cs.getLast?.any (isWord true) ≠ after.head?.any (isWord true) := by
  have hlast (before : List Char) : (cs.reverse ++ before).head? = cs.getLast? := by
    rw [List.head?_append_of_ne_nil _ (by simpa using hne), List.head?_reverse]
  rw [occurs_iff_of_items hitems]
  simp only [Ast.leadsByAll_wordBoundary, hlast, exists_eq_left']
  rfl

end Phrase

end OutlineQuery.Regex
