import OutlineQuery.Proofs.Text.CodePoints
import OutlineQuery.Regex.Normal
import OutlineQuery.Regex.Reader

/-!
What it means that a pattern is found in a text. Under the switches in force an expression leads
from one place in the text to others further on; switches that it sets hold for what comes after it,
in the next branch of an alternation too, up to the end of the group.
-/
namespace OutlineQuery.Regex

open OutlineQuery.Text (CodePoints)

/-- A place in a text: the characters before it, the last one first, and those after it. -/
structure Cursor where
  before : List Char
  after : List Char

namespace Cursor

def text (p : Cursor) : List Char :=
  p.before.reverse ++ p.after

/-- Between the two places there is one character, and it is in the set. -/
def Passes (s : CodePoints) (p q : Cursor) : Prop :=
  ∃ c, s.contains c.toNat = true ∧ p.after = c :: q.after ∧ q.before = c :: p.before

/-- A way on, taken so many times. -/
def Repeats (way : Cursor → Cursor → Prop) : Nat → Cursor → Cursor → Prop
  | 0, p, q => p = q
  | n + 1, p, q => ∃ mid, way p mid ∧ Repeats way n mid q

end Cursor

def isWord (unicode : Bool) (c : Char) : Bool :=
  (if unicode then LetterClass.word.points else LetterClass.word.asciiPoints).contains c.toNat

/-- Whether an assertion about words holds between characters of which it is known whether they
belong to words. -/
def Assertion.holdsBetween (before after : Bool) : Assertion → Bool
  | wordBoundary => before != after
  | notWordBoundary => before == after
  | wordStart => !before && after
  | wordEnd => before && !after
  | wordStartHalf => !before
  | wordEndHalf => !after
  | _ => false

/-- Whether a cursor is at a place of a kind. Where a carriage return ends a line too, there is no
place between it and the line feed after it. -/
def Place.holds (p : Cursor) : Place → Bool
  | textStart => p.before.isEmpty
  | textEnd => p.after.isEmpty
  | lineStart crlf =>
    p.before.isEmpty || p.before.head? == some '\n' ||
      (crlf && p.before.head? == some '\r' && p.after.head? != some '\n')
  | lineEnd crlf =>
    p.after.isEmpty || (crlf && p.after.head? == some '\r') ||
      (p.after.head? == some '\n' && !(crlf && p.before.head? == some '\r'))
  | word a unicode =>
    a.holdsBetween (p.before.head?.any (isWord unicode)) (p.after.head?.any (isWord unicode))

namespace Ast

def modeAfter (m : Mode) (e : Ast) : Mode :=
  (e.normal m).2

mutual

/-- An expression leads from a place to another, under the switches in force before it. -/
def Leads (m : Mode) : Ast → Cursor → Cursor → Prop
  | empty => fun p q => p = q
  | flags _ => fun p q => p = q
  | literal l => Cursor.Passes (m.fold [(l.char.toNat, l.char.toNat)])
  | dot => Cursor.Passes m.dot
  | assertion a => fun p q => p = q ∧ (m.place a).holds p = true
  | letter k negated => Cursor.Passes (k.select m negated)
  | property p negated => Cursor.Passes (p.select m negated)
  | bracket negated set => Cursor.Passes (m.select negated (set.points m))
  | repeated body min most _ => fun p q =>
    ∃ n, min ≤ n ∧ (∀ k ∈ most, n ≤ k) ∧ Cursor.Repeats (Leads m body) n p q
  | group kind body => Leads (m.change kind.flags) body
  | alternation branches => LeadsByOne m branches
  | concat items => LeadsByAll m items

def LeadsByAll (m : Mode) : List Ast → Cursor → Cursor → Prop
  | [] => fun p q => p = q
  | item :: rest => fun p q =>
    ∃ mid, Leads m item p mid ∧ LeadsByAll (item.modeAfter m) rest mid q

def LeadsByOne (m : Mode) : List Ast → Cursor → Cursor → Prop
  | [] => fun _ _ => False
  | branch :: rest => fun p q =>
    Leads m branch p q ∨ LeadsByOne (branch.modeAfter m) rest p q

end

end Ast

/-- A text is a pattern that leads on from some place in another text. -/
def Finds (pattern text : String) : Prop :=
  ∃ e, parse? pattern = some e ∧ ∃ p q : Cursor, p.text = text.toList ∧ e.Leads .initial p q

namespace Ast

variable {m : Mode} {p q : Cursor}

/-- The expression leaves the switches as they are. -/
def Steady (e : Ast) : Prop :=
  ∀ m, e.modeAfter m = m

theorem steady_literal (l : Literal) : (literal l).Steady := fun _ => rfl

theorem steady_assertion (a : Assertion) : (assertion a).Steady := fun _ => rfl

theorem steady_group (kind : GroupKind) (body : Ast) : (group kind body).Steady := fun _ => rfl

theorem steady_repeated_dot (min : Nat) (most : Option Nat) (greedy : Bool) :
    (repeated dot min most greedy).Steady := fun _ => rfl

/-- Items that touch no switches lead to where the items after them begin. -/
theorem leadsByAll_append {xs ys : List Ast} (h : ∀ x ∈ xs, x.Steady) :
    LeadsByAll m (xs ++ ys) p q ↔ ∃ mid, LeadsByAll m xs p mid ∧ LeadsByAll m ys mid q := by
  induction xs generalizing p with
  | nil => simp [LeadsByAll]
  | cons x xs ih =>
    have hx : x.modeAfter m = m := h x (by simp) m
    have hrest := fun r => ih (p := r) fun y hy => h y (by simp [hy])
    simp only [List.cons_append, LeadsByAll, hx, hrest]
    constructor
    · rintro ⟨r, hr, mid, hmid, hq⟩
      exact ⟨mid, ⟨r, hr, hmid⟩, hq⟩
    · rintro ⟨mid, ⟨r, hr, hmid⟩, hq⟩
      exact ⟨r, hr, mid, hmid, hq⟩

theorem leads_ofItems (items : List Ast) : (ofItems items).Leads m p q ↔ LeadsByAll m items p q := by
  rcases items with _ | ⟨item, _ | ⟨second, rest⟩⟩
  · simp [ofItems, Leads, LeadsByAll]
  · simp [ofItems, LeadsByAll]
  · simp [ofItems, Leads]

theorem modeAfter_ofItems (items : List Ast) :
    (ofItems items).modeAfter m = (normals m items).2 := by
  rcases items with _ | ⟨item, _ | ⟨second, rest⟩⟩ <;> rfl

theorem normals_of_steady {items : List Ast} (h : ∀ x ∈ items, x.Steady) :
    (normals m items).2 = m := by
  induction items with
  | nil => rfl
  | cons x rest ih =>
    have hx : (normal m x).2 = m := h x (by simp) m
    have hrest := ih fun y hy => h y (by simp [hy])
    simp only [normals, hx, hrest]

/-- Where no row touches the switches, all rows are read under the same ones. -/
theorem leadsByOne_rows {rows : List (List Ast)} (h : ∀ row ∈ rows, ∀ x ∈ row, x.Steady) :
    LeadsByOne m (rows.map ofItems) p q ↔ ∃ row ∈ rows, LeadsByAll m row p q := by
  induction rows with
  | nil => simp [LeadsByOne]
  | cons row rest ih =>
    have hmode : (ofItems row).modeAfter m = m := by
      rw [modeAfter_ofItems, normals_of_steady (h row (by simp))]
    have hrest := ih fun r hr => h r (by simp [hr])
    simp only [List.map_cons, LeadsByOne, leads_ofItems, hmode, hrest, List.mem_cons,
      exists_eq_or_imp]

def literals (cs : List Char) : List Ast :=
  cs.map fun c => literal ⟨c, false⟩

theorem steady_literals (cs : List Char) : ∀ x ∈ literals cs, x.Steady := by
  intro x hx
  obtain ⟨c, -, rfl⟩ := List.mem_map.1 hx
  exact steady_literal _

end Ast

namespace Cursor

variable {p q : Cursor}

theorem passes_singleton {c : Char} :
    Passes [(c.toNat, c.toNat)] p q ↔ p.after = c :: q.after ∧ q.before = c :: p.before := by
  have hc (d : Char) : CodePoints.contains [(c.toNat, c.toNat)] d.toNat = true ↔ d = c := by
    rw [← Char.toNat_inj]
    simp only [CodePoints.contains]
    grind
  simp only [Passes, hc, exists_eq_left]

end Cursor

namespace Ast

variable {m : Mode} {p q : Cursor}

/-- Where case counts, characters that stand for themselves lead over just those characters. -/
theorem leadsByAll_literals (hm : m.ignoreCase = false) (cs : List Char) :
    LeadsByAll m (literals cs) p q ↔ p.after = cs ++ q.after ∧ q.before = cs.reverse ++ p.before := by
  induction cs generalizing p with
  | nil =>
    obtain ⟨pb, pa⟩ := p
    obtain ⟨qb, qa⟩ := q
    simp [literals, LeadsByAll, and_comm, eq_comm]
  | cons c cs ih =>
    have hmode : (literal ⟨c, false⟩).modeAfter m = m := rfl
    simp only [literals, List.map_cons, LeadsByAll, Leads, Mode.fold, hm, Bool.false_eq_true, if_false,
      hmode, Cursor.passes_singleton]
    constructor
    · rintro ⟨mid, ⟨hafter, hbefore⟩, hrest⟩
      obtain ⟨hafter', hbefore'⟩ := ih.1 hrest
      simp [hafter, hafter', hbefore', hbefore]
    · rintro ⟨hafter, hbefore⟩
      refine ⟨⟨c :: p.before, cs ++ q.after⟩, ⟨hafter, rfl⟩, ih.2 ⟨rfl, ?_⟩⟩
      simp [hbefore]

end Ast

/-- A boundary is where a character of words and one of none meet, the end of the text being
none. -/
theorem Ast.leadsByAll_wordBoundary {m : Mode} {p q : Cursor} :
    LeadsByAll m [assertion .wordBoundary] p q ↔
      p = q ∧ p.before.head?.any (isWord m.unicode) ≠ p.after.head?.any (isWord m.unicode) := by
  simp [LeadsByAll, Leads, Mode.place, Place.holds, Assertion.holdsBetween]

def wordTables : List CodePoints :=
  [Text.alphabeticTable, Unicode.nonspacingMark, Unicode.spacingMark, Unicode.enclosingMark,
    Unicode.decimalNumber, Unicode.connectorPunctuation, Unicode.joinControl]

/-- The union of the tables of words is searched as the tables are, since all of them ascend. -/
theorem isWord_eq_any (c : Char) : isWord true c = wordTables.any (·.contains c.toNat) := by
  have hchain : ∀ s ∈ wordTables, s.IsChain CodePoints.Leads := by decide +kernel
  have htables : ∀ s ∈ wordTables, s.Ascends :=
    fun s hs => CodePoints.ascends_of_isChain (hchain s hs)
  simp only [wordTables, List.forall_mem_cons] at htables
  obtain ⟨halphabetic, hnonspacing, hspacing, henclosing, hdecimal, hconnector, hjoin, -⟩ := htables
  have hmarks : ∀ s ∈ [Unicode.nonspacingMark, Unicode.spacingMark, Unicode.enclosingMark],
      s.Ascends := by
    simp [hnonspacing, hspacing, henclosing]
  -- Marks are themselves a union, of the three kinds of them.
  have hmark : Unicode.mark.Ascends := (CodePoints.unionAll_spec (n := c.toNat) hmarks).1
  have hword : ∀ s ∈ [Text.alphabeticTable, Unicode.mark, Unicode.decimalNumber,
      Unicode.connectorPunctuation, Unicode.joinControl], s.Ascends := by
    simp [halphabetic, hmark, hdecimal, hconnector, hjoin]
  have hunion : isWord true c = wordPoints.contains c.toNat := rfl
  rw [hunion, wordPoints, CodePoints.contains_unionAll hword]
  simp only [wordTables, List.any_cons, Unicode.mark, CodePoints.contains_unionAll hmarks,
    List.any_nil, Bool.or_false, Bool.or_assoc]

end OutlineQuery.Regex
