import OutlineQuery.Pattern
import OutlineQuery.Proofs.Regex.Phrase

/-!
The patterns of conditions, as choices of phrases.
-/
namespace OutlineQuery

open Regex (Choice Finds Phrase caseText parse?)

namespace Pattern

/-- All of a field. -/
def exactPhrase (value : String) : Phrase :=
  .lineStart ++ .escaped value.toList ++ .lineEnd

/-- A text somewhere in a field. -/
def containedPhrase (value : String) : Phrase :=
  .anything ++ .escaped value.toList ++ .anything

/-- The boundary that a tag must end at, if there is to be one. -/
def tagEnd (name : String) : Phrase :=
  if name.toList.getLast?.any isWordChar then .wordBoundary else .empty

def tagPhrase (name : String) : Phrase :=
  .char '#' (by decide) ++ .escaped name.toList ++ tagEnd name

def linkPhrase (name : String) : Phrase :=
  .escaped ['[', '['] ++ .escaped name.toList ++ .escaped [']', ']']

def keyPhrase (name : String) : Phrase :=
  .escaped name.toList ++ .char ':' (by decide) ++ .char ':' (by decide)

def blockPhrase (id : String) : Phrase :=
  .escaped ['(', '('] ++ .escaped id.toList ++ .escaped [')', ')']

/-- An escaped text is the phrase in which every character stands for itself. -/
theorem toList_escape (s : String) : (Regex.escape s).toList = (Phrase.escaped s.toList).text := by
  rw [Phrase.text_escaped, Regex.escape, String.toList_ofList]

theorem toList_exactText (value : String) :
    (exactText value).toList = (exactPhrase value).text := by
  simp only [exactText, String.toList_append, toList_escape]
  rfl

theorem toList_containedText (value : String) :
    (containedText value).toList = (containedPhrase value).text := by
  simp only [containedText, String.toList_append, toList_escape]
  rfl

/-- The text of a tag is that of its phrase, with a boundary at its end or without. -/
theorem toList_tag (name : String) : (tag name).toList = (tagPhrase name).text := by
  have hend : (if name.toList.getLast?.any isWordChar then "\\b" else "").toList =
      (tagEnd name).text := by
    unfold tagEnd
    split <;> rfl
  simp only [tag, String.toList_append, toList_escape, hend]
  rfl

/-- A reference to a page is a choice among a link, a tag and a key. -/
theorem toList_pageReference (name : String) :
    (pageReference name).toList =
      Choice.text ⟨linkPhrase name, [tagPhrase name, keyPhrase name]⟩ := by
  have hlink : "\\[\\[".toList ++ (Phrase.escaped name.toList).text ++ "\\]\\]|".toList =
      (linkPhrase name).text ++ ['|'] := by
    rw [linkPhrase, Phrase.text_append, List.append_assoc _ _ ['|']]
    rfl
  have hkey : (Phrase.escaped name.toList).text ++ "::".toList = (keyPhrase name).text := by
    rw [keyPhrase, Phrase.text_append, Phrase.text_append, List.append_assoc]
    rfl
  rw [Choice.text_cons, Choice.text_cons, Choice.text_singleton, ← hkey]
  simp only [pageReference, String.toList_append, toList_escape, toList_tag, hlink, List.append_assoc]
  rfl

theorem toList_blockReference (id : String) :
    (blockReference id).toList = (blockPhrase id).text := by
  simp only [blockReference, String.toList_append, toList_escape]
  rfl

end Pattern

namespace Condition

/-- The phrases of which one must occur, for a condition that is not a raw pattern. -/
def choice (c : Condition) : Choice :=
  match c.kind with
  | .text => if c.mode == .exact then ⟨Pattern.exactPhrase c.value, []⟩
    else ⟨Pattern.containedPhrase c.value, []⟩
  | .pageReference =>
    ⟨Pattern.linkPhrase c.value, [Pattern.tagPhrase c.value, Pattern.keyPhrase c.value]⟩
  | .blockReference => ⟨Pattern.blockPhrase c.value, []⟩
  | .pattern => ⟨.empty, []⟩

variable {c : Condition}

/-- The text of the pattern that is made from a condition is that of its phrases with bars between
them. -/
theorem toList_fragment (hc : c.isRaw = false) : c.fragment.toList = c.choice.text := by
  simp only [fragment, hc, Bool.false_eq_true, if_false, choice]
  cases hkind : c.kind with
  | text =>
    simp only
    split
    · rw [Pattern.toList_exactText, Choice.text_singleton]
    · rw [Pattern.toList_containedText, Choice.text_singleton]
  | pageReference => exact Pattern.toList_pageReference c.value
  | blockReference => exact (Pattern.toList_blockReference c.value).trans (Choice.text_singleton _).symm
  | pattern => simp [isRaw, hkind] at hc

theorem source_false (c : Condition) : c.source false = c.fragment := by
  simp [source]

/-- The pattern that a query tests is the same text after the switch for case. -/
theorem toList_source (hc : c.isRaw = false) (ignoreCase : Bool) :
    (c.source ignoreCase).toList = caseText ignoreCase ++ c.choice.text := by
  rw [← toList_fragment hc]
  cases ignoreCase with
  | false => simp [source_false, caseText]
  | true => simp [source, hc, caseText, Pattern.ignoreCase]

/-- Whatever the value is, the pattern made from it can be read. -/
theorem parse_source_isSome (hc : c.isRaw = false) (ignoreCase : Bool) :
    (parse? (c.source ignoreCase)).isSome :=
  c.choice.parse_isSome ignoreCase (toList_source hc ignoreCase)

/-- The pattern of a condition is found where one of its phrases occurs. -/
theorem finds_source_iff (hc : c.isRaw = false) (ignoreCase : Bool) (text : String) :
    Finds (c.source ignoreCase) text ↔
      ∃ p ∈ c.choice.phrases, p.Occurs (.ofCase ignoreCase) text.toList :=
  c.choice.finds_iff ignoreCase (toList_source hc ignoreCase) text

end Condition

end OutlineQuery
