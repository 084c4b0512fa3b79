import OutlineQuery.Proofs.Group.Meaning
import OutlineQuery.Proofs.Pattern.Phrases

/-!
The one condition that some conditions are merged into. Its pattern is found exactly where the
pattern of one of them is: each stands in a group of its own, so that no bar, anchor or boundary of
one has an effect on another, and the switch for case holds for all of them.
-/
namespace OutlineQuery

open Regex (Choice Finds Phrase caseText parse?)

/-- What is put before a pattern: the switch for case, if case is to be ignored. -/
def Pattern.caseSwitch (ignoreCase : Bool) : String :=
  if ignoreCase then Pattern.ignoreCase else ""

namespace Condition

variable {c : Condition} {cs : List Condition}

/-- The pattern of a condition that is not raw is its fragment, after the switch for case. -/
theorem source_eq_caseSwitch (hc : c.isRaw = false) (ignoreCase : Bool) :
    c.source ignoreCase = Pattern.caseSwitch ignoreCase ++ c.fragment := by
  cases ignoreCase <;> simp [source, hc, Pattern.caseSwitch]

/-- The patterns of some conditions, each in a group. -/
def groupedChoice (c : Condition) (cs : List Condition) : Choice :=
  ⟨c.choice.grouped, cs.map fun d => d.choice.grouped⟩

theorem phrases_groupedChoice :
    (groupedChoice c cs).phrases = (c :: cs).map fun d => d.choice.grouped := rfl

theorem toList_grouped (hc : c.isRaw = false) :
    ("(?:" ++ c.fragment ++ ")").toList = c.choice.grouped.text := by
  rw [String.toList_append, String.toList_append, toList_fragment hc]
  rfl

theorem toList_alternation (h : ∀ d ∈ c :: cs, d.isRaw = false) :
    (Pattern.alternation ((c :: cs).map fragment)).toList = (groupedChoice c cs).text := by
  have hparts : (c :: cs).map (fun d => ("(?:" ++ d.fragment ++ ")").toList) =
      (groupedChoice c cs).phrases.map Phrase.text := by
    rw [phrases_groupedChoice, List.map_map]
    exact List.map_congr_left fun d hd => toList_grouped (h d hd)
  rw [Pattern.alternation, String.toList_intercalate, List.map_map, List.map_map, Choice.text, ← hparts]
  rfl

theorem toList_caseSwitch_alternation (h : ∀ d ∈ c :: cs, d.isRaw = false) (ignoreCase : Bool) :
    (Pattern.caseSwitch ignoreCase ++ Pattern.alternation ((c :: cs).map fragment)).toList =
      caseText ignoreCase ++ (groupedChoice c cs).text := by
  rw [String.toList_append, toList_alternation h]
  cases ignoreCase <;> rfl

/-- An alternation is found where one of its patterns is, under the same switch for case. -/
theorem finds_caseSwitch_alternation_iff (h : ∀ d ∈ c :: cs, d.isRaw = false) (ignoreCase : Bool)
    (text : String) :
    Finds (Pattern.caseSwitch ignoreCase ++ Pattern.alternation ((c :: cs).map fragment)) text ↔
      ∃ d ∈ c :: cs, Finds (d.source ignoreCase) text := by
  rw [(groupedChoice c cs).finds_iff ignoreCase (toList_caseSwitch_alternation h ignoreCase),
    phrases_groupedChoice]
  constructor
  · rintro ⟨p, hp, hoccurs⟩
    obtain ⟨d, hd, rfl⟩ := List.mem_map.1 hp
    exact ⟨d, hd, (finds_source_iff (h d hd) ignoreCase text).2 (d.choice.occurs_grouped.1 hoccurs)⟩
  · rintro ⟨d, hd, hfinds⟩
    have hoccurs := d.choice.occurs_grouped.2 ((finds_source_iff (h d hd) ignoreCase text).1 hfinds)
    exact ⟨d.choice.grouped, List.mem_map_of_mem hd, hoccurs⟩

end Condition

open Classical in
noncomputable def Matcher.search : Matcher String :=
  fun pattern text => decide (Finds pattern text)

/-- A matcher reads an alternation of the patterns made from conditions as a choice among them, with
the switch for case before it or without. -/
def Matcher.ReadsAlternationUnder {H : Type} (m : Matcher H) (ignoreCase : Bool) : Prop :=
  ∀ cs : List Condition, cs ≠ [] → (∀ c ∈ cs, c.isRaw = false) → ∀ h : H,
    m (Pattern.caseSwitch ignoreCase ++ Pattern.alternation (cs.map Condition.fragment)) h =
      cs.any fun c => m (Pattern.caseSwitch ignoreCase ++ c.fragment) h

/-- Searching reads bars as alternation, whether case counts or not. -/
theorem Matcher.search_readsAlternationUnder (ignoreCase : Bool) :
    Matcher.search.ReadsAlternationUnder ignoreCase := by
  intro cs hne hraw text
  obtain ⟨c, rest, rfl⟩ := List.exists_cons_of_ne_nil hne
  rw [Bool.eq_iff_iff, List.any_eq_true]
  simp only [search, decide_eq_true_eq, Condition.finds_caseSwitch_alternation_iff hraw]
  refine exists_congr fun d => and_congr_right fun hd => ?_
  rw [Condition.source_eq_caseSwitch (hraw d hd)]

/-- Searching has the one property of a matcher that collapsing groups relies on. -/
theorem Matcher.search_readsAlternation : Matcher.search.ReadsAlternation :=
  Matcher.search_readsAlternationUnder true

/-- The one group that `letters` collapses into asks a search for what its two groups ask for. -/
theorem letters_collapse_holds :
    Matcher.search.ReadsAlternation ∧ ∃ c, letters.collapse false = .ok c ∧
      c.group.conditions.length = 3 ∧ ∀ text, c.group.combined Matcher.search true text = true ↔
        (Finds "(?i).*a.*" text ∨ Finds "(?i).*b.*" text) ∧ ¬Finds "(?i).*c.*" text ∧
          Finds "(?i).*d.*" text := by
  have hmain := GroupSet.collapse_combined_eq_holds Matcher.search Matcher.search_readsAlternation
    letters (by decide) (by decide) (by decide) false
  obtain ⟨c, hc⟩ := (hmain "").2.2 (by decide)
  have hlength : c.group.conditions.length = 3 := by
    obtain rfl := Except.ok.inj hc
    decide
  refine ⟨Matcher.search_readsAlternation, c, hc, hlength, fun text => ?_⟩
  have ha : (askFor "a" false).source true = "(?i).*a.*" := by decide
  have hb : (askFor "b" false).source true = "(?i).*b.*" := by decide
  have hc' : (askFor "c" true).source true = "(?i).*c.*" := by decide
  have hd : (askFor "d" false).source true = "(?i).*d.*" := by decide
  rw [(hmain text).1 c hc, ← ha, ← hb, ← hc', ← hd]
  simp [letters, GroupSet.holds, Group.holds, Group.hasNegation, Combinator.combine, askFor,
    Condition.holds, Matcher.search, and_assoc]

namespace Condition

/-- Two conditions or more that are not raw patterns merge into one. All patterns can be read, and
that of the merged condition is found in just the texts in which one of theirs is. -/
theorem finds_merge_iff {cs : List Condition} (hmany : 2 ≤ cs.length)
    (hraw : ∀ c ∈ cs, c.isRaw = false) :
    ∃ merged, merge? cs = some merged ∧ (parse? merged.value).isSome ∧
      (∀ c ∈ cs, (parse? (c.source true)).isSome) ∧
      ∀ text, Finds merged.value text ↔ ∃ c ∈ cs, Finds (c.source true) text := by
  have hfew : ¬cs.length < 2 := by omega
  obtain ⟨c, rest, rfl⟩ := List.exists_cons_of_length_pos (l := cs) (by omega)
  refine ⟨_, if_neg hfew, ?_, ?_, ?_⟩
  · exact (groupedChoice c rest).parse_isSome true (toList_caseSwitch_alternation hraw true)
  · exact fun d hd => parse_source_isSome (hraw d hd) true
  · exact finds_caseSwitch_alternation_iff hraw true

def barText : Condition := ⟨.text, "a|b", .exact, false, Binary64.one, none⟩

/-- A page whose name has a parenthesis that closes nothing. -/
def bracketPage : Condition := ⟨.pageReference, "c)", .contains, false, Binary64.one, none⟩

theorem finds_merge_iff_barText_bracketPage :
    2 ≤ [barText, bracketPage].length ∧ (barText.isRaw = false ∧ bracketPage.isRaw = false) ∧
      ∃ merged, merge? [barText, bracketPage] = some merged ∧ (parse? merged.value).isSome ∧
        (∀ c ∈ [barText, bracketPage], (parse? (c.source true)).isSome) ∧
        ∀ text, Finds merged.value text ↔ ∃ c ∈ [barText, bracketPage], Finds (c.source true) text :=
  ⟨by decide, ⟨rfl, rfl⟩,
    finds_merge_iff (by decide) (List.forall_mem_cons.2 ⟨rfl, List.forall_mem_singleton.2 rfl⟩)⟩

end Condition

end OutlineQuery
