import OutlineQuery.Expansion
import OutlineQuery.Proofs.Pattern.Phrases
import OutlineQuery.Proofs.Regex.Grouping

/-!
Which patterns of conditions are accepted. What is generated always is. A pattern merged from others
that are accepted need not be: they may name groups alike, nest too deep for the group around them,
or end in a comment that hides the parenthesis after it. But nothing else can go wrong.
-/
namespace OutlineQuery

open Regex

namespace Regex

/-- An expression that is a part of generated patterns. -/
structure Ast.Simple (x : Ast) : Prop where
  nesting_le : x.nesting ≤ 1
  check_eq : x.check true = some true
  groupNames_eq : x.groupNames = []

theorem Ast.simple_literal (c : Char) : (Ast.literal ⟨c, false⟩).Simple :=
  ⟨Nat.zero_le _, rfl, rfl⟩

theorem Ast.simple_assertion (a : Assertion) : (Ast.assertion a).Simple :=
  ⟨Nat.zero_le _, rfl, rfl⟩

theorem Ast.simple_anything : (Ast.repeated .dot 0 none true).Simple :=
  ⟨Nat.le_refl _, rfl, rfl⟩

namespace Phrase

def Simple (p : Phrase) : Prop :=
  ∀ x ∈ p.items, x.Simple

theorem Simple.append {p q : Phrase} (hp : p.Simple) (hq : q.Simple) : (p ++ q).Simple :=
  List.forall_mem_append.2 ⟨hp, hq⟩

theorem simple_empty : empty.Simple := by
  simp [Simple, empty]

theorem simple_char {c : Char} (h : c ∉ marks) : (char c h).Simple :=
  List.forall_mem_singleton.2 (Ast.simple_literal c)

theorem simple_escaped (cs : List Char) : (escaped cs).Simple := by
  intro x hx
  rw [items_escaped] at hx
  obtain ⟨c, -, rfl⟩ := List.mem_map.1 hx
  exact Ast.simple_literal c

theorem simple_lineStart : lineStart.Simple :=
  List.forall_mem_singleton.2 (Ast.simple_assertion _)

theorem simple_lineEnd : lineEnd.Simple :=
  List.forall_mem_singleton.2 (Ast.simple_assertion _)

theorem simple_wordBoundary : wordBoundary.Simple :=
  List.forall_mem_singleton.2 (Ast.simple_assertion _)

theorem simple_anything : anything.Simple :=
  List.forall_mem_singleton.2 Ast.simple_anything

end Phrase

namespace Choice

variable {ch : Choice} {pattern : String} {ignoreCase : Bool}

/-- A closing parenthesis after a choice of phrases is read, and closes nothing. -/
theorem endsInComment_eq (h : pattern.toList = ch.text) : endsInComment pattern = false := by
  have hrun : parse? (pattern ++ ")") = none := by
    rw [parse?, String.toList_append, h]
    obtain ⟨k, -, hreads⟩ :=
      ch.reads Level.empty [] [] [')'] (ch.text ++ [')']).length rfl (by simp)
    show (ReaderState.run (ch.text ++ [')']).length .initial (ch.text ++ [')'])).bind _ = none
    rw [ReaderState.initial, hreads]
    cases k <;> rfl
  simp [endsInComment, hrun]

/-- All phrases of the choice are simple. -/
def Simple (ch : Choice) : Prop :=
  ∀ p ∈ ch.phrases, p.Simple

/-- The items of each branch, with those of the switch for case in the first. -/
def rows (ch : Choice) (ignoreCase : Bool) : List (List Ast) :=
  (caseItems ignoreCase ++ ch.first.items) :: ch.others.map Phrase.items

/-- The switch for case is simple too, so it can stand in the first row. -/
theorem simple_of_mem_rows (hch : ch.Simple) :
    ∀ row ∈ ch.rows ignoreCase, ∀ x ∈ row, x.Simple := by
  obtain ⟨hfirst, hothers⟩ := List.forall_mem_cons.1 hch
  have hcase : ∀ x ∈ caseItems ignoreCase, x.Simple := by
    cases ignoreCase with
    | false => simp [caseItems]
    | true => exact List.forall_mem_singleton.2 ⟨Nat.zero_le _, rfl, rfl⟩
  refine List.forall_mem_cons.2 ⟨List.forall_mem_append.2 ⟨hcase, hfirst⟩, ?_⟩
  exact List.forall_mem_map.2 hothers

section Reading

variable (hch : ch.Simple) (h : pattern.toList = caseText ignoreCase ++ ch.text)

include h

/-- A choice is read as rows, the first one with the switch for case. -/
theorem parse_eq_ofRows : parse? pattern = some (Ast.ofRows (ch.rows ignoreCase)) := by
  rw [ch.parse_eq ignoreCase h, level, Level.close_extendRows]
  rfl

include hch

theorem depth_le : depth pattern ≤ 3 := by
  rw [depth, parse_eq_ofRows h]
  exact Ast.nesting_ofRows_le fun row hrow x hx => (simple_of_mem_rows hch row hrow x hx).nesting_le

/-- A choice of simple phrases is valid. -/
theorem isValid_eq : isValid pattern = true := by
  have hdepth := depth_le hch h
  rw [depth, parse_eq_ofRows h] at hdepth
  have hcheck : (Ast.ofRows (ch.rows ignoreCase)).check true = some true :=
    Ast.check_ofRows fun row hrow x hx => (simple_of_mem_rows hch row hrow x hx).check_eq
  rw [isValid, parse_eq_ofRows h, Ast.isValid_iff, hcheck]
  exact ⟨Nat.le_trans hdepth (by decide), rfl⟩

theorem groupNames_eq : groupNames pattern = [] := by
  rw [groupNames, parse_eq_ofRows h]
  exact Ast.groupNames_ofRows fun row hrow x hx =>
    (simple_of_mem_rows hch row hrow x hx).groupNames_eq

end Reading

end Choice

namespace Part

theorem joined_eq_intercalate (p : Part) (ps : List Part) :
    joined p ps = ['|'].intercalate ((p :: ps).map grouped) := by
  induction ps generalizing p with
  | nil => simp [joined]
  | cons q qs ih =>
    rw [joined, ih]
    simp [List.intercalate_cons_cons]

theorem toList_alternation (p : Part) (ps : List Part) :
    (Pattern.alternation ((p :: ps).map Part.pattern)).toList = joined p ps := by
  have hgrouped (q : Part) : ("(?:" ++ q.pattern ++ ")").toList = q.grouped := by
    simp [grouped, String.toList_append]
  rw [Pattern.alternation, String.toList_intercalate, joined_eq_intercalate, List.map_map,
    List.map_map]
  simp only [Function.comp_def, hgrouped]
  rfl

/-- Valid patterns that do not end in a comment are parts. -/
theorem exists_map_pattern_eq {patterns : List String}
    (h : ∀ q ∈ patterns, isValid q = true ∧ endsInComment q = false) :
    ∃ ps : List Part, ps.map Part.pattern = patterns := by
  induction patterns with
  | nil => exact ⟨[], rfl⟩
  | cons q qs ih =>
    obtain ⟨⟨hvalid, hcomment⟩, hqs⟩ := List.forall_mem_cons.1 h
    have hread : (parse? q).isSome = true := by
      cases hparse : parse? q with
      | none => simp [isValid, hparse] at hvalid
      | some e => rfl
    obtain ⟨p, rfl⟩ := exists_pattern_eq hread hcomment
    obtain ⟨ps, rfl⟩ := ih hqs
    exact ⟨p :: ps, rfl⟩

end Part

section Alternation

variable {pattern p : String} {ps : List String} {ignoreCase : Bool}
  (htext : pattern.toList = caseText ignoreCase ++ (Pattern.alternation (p :: ps)).toList)
  (hparts : ∀ q ∈ p :: ps, isValid q = true ∧ endsInComment q = false)

include htext hparts

/-- What the validity of an alternation comes to, for patterns that are valid and over where their
text is. -/
theorem exists_choice_of_alternation :
    ∃ q qs, (q :: qs).map Part.pattern = p :: ps ∧ (isValid pattern = true ↔
      (p :: ps).Pairwise (fun a b => ∀ n ∈ groupNames b, n ∉ groupNames a) ∧
        (Part.choice ignoreCase q qs).nesting ≤ nestingLimit) := by
  obtain ⟨_ | ⟨q, qs⟩, hqs⟩ := Part.exists_map_pattern_eq hparts
  · cases hqs
  refine ⟨q, qs, hqs, ?_⟩
  rw [← hqs] at htext hparts ⊢
  rw [Part.toList_alternation] at htext
  have hvalid : ∀ r ∈ q :: qs, r.expr.isValid = true := by
    intro r hr
    rw [← r.isValid_pattern]
    exact (hparts r.pattern (List.mem_map_of_mem hr)).1
  rw [Part.isValid_joined_iff htext hvalid, List.pairwise_map]

/-- An alternation of two or more valid patterns is valid if their names are apart and none of them
is too deep for it; the first one has the switch for case with it, which is one level more. -/
theorem isValid_alternation_iff (hps : ps ≠ []) :
    isValid pattern = true ↔
      (p :: ps).Pairwise (fun a b => ∀ n ∈ groupNames b, n ∉ groupNames a) ∧
        depth p + ignoreCase.toNat + 2 ≤ nestingLimit ∧ ∀ q ∈ ps, depth q + 2 ≤ nestingLimit := by
  obtain ⟨q, qs, hqs, hvalid⟩ := exists_choice_of_alternation htext hparts
  obtain ⟨rfl, rfl⟩ := List.cons.inj hqs
  have hne : qs ≠ [] := by simpa using hps
  have hlimit : nestingLimit = 248 + 2 := rfl
  simp only [hvalid, hlimit, Part.nesting_choice_le_iff hne, List.forall_mem_map,
    Part.depth_pattern, Nat.add_le_add_iff_right]

/-- Without names only the depth counts. -/
theorem isValid_alternation_of_shallow (hnames : ∀ q ∈ p :: ps, groupNames q = [])
    (hdepth : ∀ q ∈ p :: ps, depth q + 3 ≤ nestingLimit) : isValid pattern = true := by
  obtain ⟨q, qs, hqs, hvalid⟩ := exists_choice_of_alternation htext hparts
  refine hvalid.2 ⟨?_, ?_⟩
  · refine List.pairwise_of_forall_mem_list fun a _ b hb n hn => ?_
    rw [hnames b hb] at hn
    cases hn
  · have hshallow : ∀ r ∈ q :: qs, r.expr.nesting ≤ 247 := by
      intro r hr
      rw [← hqs] at hdepth
      have := hdepth r.pattern (List.mem_map_of_mem hr)
      rw [r.depth_pattern] at this
      exact Nat.le_of_add_le_add_right this
    exact Part.nesting_choice_le hshallow

end Alternation

end Regex

namespace Condition

variable {c : Condition}

/-- Whatever a condition asks for, it is written in simple phrases. -/
theorem simple_choice (c : Condition) : c.choice.Simple := by
  have hescaped := Phrase.simple_escaped
  have htagEnd : (Pattern.tagEnd c.value).Simple := by
    unfold Pattern.tagEnd
    split
    · exact Phrase.simple_wordBoundary
    · exact Phrase.simple_empty
  have hlink : (Pattern.linkPhrase c.value).Simple :=
    ((hescaped _).append (hescaped _)).append (hescaped _)
  have htag : (Pattern.tagPhrase c.value).Simple :=
    ((Phrase.simple_char _).append (hescaped _)).append htagEnd
  have hkey : (Pattern.keyPhrase c.value).Simple :=
    ((hescaped _).append (Phrase.simple_char _)).append (Phrase.simple_char _)
  unfold choice
  split
  case h_1 =>
    split
    · exact List.forall_mem_singleton.2
        ((Phrase.simple_lineStart.append (hescaped _)).append Phrase.simple_lineEnd)
    · exact List.forall_mem_singleton.2
        ((Phrase.simple_anything.append (hescaped _)).append Phrase.simple_anything)
  case h_2 =>
    refine List.forall_mem_cons.2 ⟨hlink, List.forall_mem_cons.2 ⟨htag, ?_⟩⟩
    exact List.forall_mem_singleton.2 hkey
  case h_3 =>
    exact List.forall_mem_singleton.2 (((hescaped _).append (hescaped _)).append (hescaped _))
  case h_4 => exact List.forall_mem_singleton.2 Phrase.simple_empty

theorem isValid_source (hc : c.isRaw = false) (ignoreCase : Bool) :
    isValid (c.source ignoreCase) = true :=
  Choice.isValid_eq c.simple_choice (toList_source hc ignoreCase)

/-- A pattern made from a condition is valid without the switch for case too, so that it can be part
of an alternation. -/
theorem isValid_fragment (hc : c.isRaw = false) : isValid c.fragment = true := by
  rw [← source_false]
  exact isValid_source hc false

theorem endsInComment_fragment (hc : c.isRaw = false) : endsInComment c.fragment = false :=
  Choice.endsInComment_eq (toList_fragment hc)

/-- However many patterns are generated, the alternation of them is accepted. -/
theorem isValid_of_alternation_fragments {pattern : String} {ignoreCase : Bool}
    {cs : List Condition} (hne : cs ≠ []) (hraw : ∀ d ∈ cs, d.isRaw = false)
    (htext : pattern.toList =
      caseText ignoreCase ++ (Pattern.alternation (cs.map fragment)).toList) :
    isValid pattern = true := by
  obtain ⟨c, rest, rfl⟩ := List.exists_cons_of_ne_nil hne
  have hvalid : ∀ q ∈ (c :: rest).map fragment, isValid q = true ∧ endsInComment q = false :=
    List.forall_mem_map.2 fun d hd =>
      ⟨isValid_fragment (hraw d hd), endsInComment_fragment (hraw d hd)⟩
  have hnames : ∀ q ∈ (c :: rest).map fragment, groupNames q = [] := by
    refine List.forall_mem_map.2 fun d hd => ?_
    rw [← source_false]
    exact Choice.groupNames_eq d.simple_choice (toList_source (hraw d hd) false)
  have hdepth : ∀ q ∈ (c :: rest).map fragment, depth q + 3 ≤ nestingLimit := by
    refine List.forall_mem_map.2 fun d hd => ?_
    have hle := Choice.depth_le d.simple_choice (toList_source (hraw d hd) false)
    rw [source_false] at hle
    exact Nat.le_trans (Nat.add_le_add_right hle 3) (by decide)
  exact isValid_alternation_of_shallow htext hvalid hnames hdepth

theorem toList_ignoreCase_append (body : String) (ignoreCase : Bool) :
    (if ignoreCase then Pattern.ignoreCase ++ body else body).toList =
      caseText ignoreCase ++ body.toList := by
  cases ignoreCase with
  | false => rfl
  | true => exact String.toList_append

/-- Whatever the values of conditions are that are not raw patterns, the patterns made of them are
accepted: that of each condition, that of two or more merged into one, and that of one widened by
any terms. -/
theorem isValid_generated :
    (∀ (c : Condition) (ignoreCase : Bool), c.isRaw = false →
      isValid (c.source ignoreCase) = true) ∧
    (∀ cs : List Condition, 2 ≤ cs.length → (∀ c ∈ cs, c.isRaw = false ∧ c.negated = false) →
      ∃ merged, merge? cs = some merged ∧ isValid merged.value = true) ∧
    (∀ (c : Condition) (ignoreCase : Bool) (extra : List String), c.isRaw = false →
      isValid (c.widen ignoreCase extra).value = true) := by
  refine ⟨fun c ignoreCase hc => isValid_source hc ignoreCase, ?_, ?_⟩
  · intro cs hmany hcs
    have hfew : ¬cs.length < 2 := by omega
    have hne : cs ≠ [] := by
      rintro rfl
      exact hfew (by decide)
    refine ⟨_, if_neg hfew, ?_⟩
    exact isValid_of_alternation_fragments hne (fun d hd => (hcs d hd).1)
      (toList_ignoreCase_append _ true)
  · intro c ignoreCase extra hc
    -- A widened condition is the alternation of conditions like it, one for each term.
    have hraw : ∀ d ∈ (c.value :: extra).map fun t => { c with value := t }, d.isRaw = false :=
      List.forall_mem_map.2 fun t _ => hc
    have htext := toList_ignoreCase_append (Pattern.alternation
      (((c.value :: extra).map fun t => { c with value := t }).map fragment)) ignoreCase
    rw [← isValid_of_alternation_fragments (by simp) hraw htext, List.map_map]
    rfl

/-- A page with a name that is no pattern. -/
def openPage : Condition := ⟨.pageReference, "C++ (", .contains, false, Binary64.one, none⟩

def blankText : Condition := ⟨.text, "", .exact, false, Binary64.one, none⟩

theorem isValid_generated_openPage :
    openPage.isRaw = false ∧ isValid openPage.value = false ∧
      isValid (openPage.source true) = true ∧
      (∃ merged, merge? [openPage, blankText] = some merged ∧ isValid merged.value = true) ∧
      isValid (openPage.widen false ["", "a|b)"]).value = true := by
  have hcs : ∀ c ∈ [openPage, blankText], c.isRaw = false ∧ c.negated = false :=
    List.forall_mem_cons.2 ⟨⟨rfl, rfl⟩, List.forall_mem_singleton.2 ⟨rfl, rfl⟩⟩
  exact ⟨rfl, by decide +kernel, isValid_generated.1 openPage true rfl,
    isValid_generated.2.1 _ (by decide) hcs, isValid_generated.2.2 openPage false _ rfl⟩

end Condition

end OutlineQuery
