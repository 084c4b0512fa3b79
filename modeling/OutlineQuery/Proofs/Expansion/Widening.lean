import OutlineQuery.Proofs.Expansion.Shape
import OutlineQuery.Proofs.Pattern.Alternation

/-!
What expansion does to the conditions of a set. Each goes its own way: one that asks for nothing is
left alone, one that can get nothing new loses only its wish, and any other becomes a pattern that
is found where the condition itself or the condition for one of the new terms is.
-/
namespace OutlineQuery

open Expansion (Options Reply Source distinctTerms expandConditions expandGroups expandSet)
open Regex (Finds)

variable {H : Type} {m : Matcher H}

namespace Condition

variable (o : Options) (ask : String → String → Reply) (c : Condition)

/-- What becomes of a condition and what is reported about it. -/
structure Expands (m : Matcher H) (o : Options) (ask : String → String → Reply) (c : Condition)
    (result : Noted Condition) : Prop where
  negated : result.value.negated = c.negated
  weight : result.value.weight = c.weight
  /-- No wish is left, whatever came of it. -/
  expansion : result.value.expansion = none
  unasked : c.expansion = none → result = ⟨c, []⟩
  unavailable : ∀ strategy, c.expansion = some strategy →
    c.isRaw = true ∨ (∃ reason, ask c.value strategy = .failed reason) ∨
      ask c.value strategy = .timedOut →
    ∃ report, report.code = .expansionUnavailable ∧ result = ⟨{ c with expansion := none }, [report]⟩
  nothingNew : ∀ strategy terms, c.expansion = some strategy → c.isRaw = false →
    ask c.value strategy = .terms terms → distinctTerms c.value terms o.maxTerms = [] →
    result = ⟨{ c with expansion := none }, []⟩
  widened : ∀ strategy terms, c.expansion = some strategy → c.isRaw = false →
    ask c.value strategy = .terms terms → distinctTerms c.value terms o.maxTerms ≠ [] →
    result.value.isRaw = true ∧ result.notes = [] ∧
      ∀ h, m (result.value.source o.ignoreCase) h = true ↔
        ∃ c', (c' = c ∨ ∃ t ∈ distinctTerms c.value terms o.maxTerms, c' = { c with value := t }) ∧
          m (c'.source o.ignoreCase) h = true

variable {o ask c}

theorem isRaw_widen (ignoreCase : Bool) (extra : List String) :
    (c.widen ignoreCase extra).isRaw = true := rfl

/-- The pattern of a widened condition is the alternation of those for its value and for each of the
terms, with the switch for case if that is asked for. -/
theorem source_widen (ignoreCase : Bool) (extra : List String) :
    (c.widen ignoreCase extra).source ignoreCase = Pattern.caseSwitch ignoreCase ++
      Pattern.alternation (((c.value :: extra).map fun t => { c with value := t }).map fragment) := by
  rw [source, isRaw_widen, Bool.true_or, if_pos rfl, fragment, isRaw_widen, if_pos rfl, widen,
    List.map_map]
  cases ignoreCase with
  | true => rfl
  | false => exact (String.empty_append).symm

/-- A widened condition is found where the condition is for its value or for one of the terms. -/
theorem finds_widen_iff {ignoreCase : Bool} (hm : m.ReadsAlternationUnder ignoreCase)
    (hraw : c.isRaw = false) (extra : List String) (h : H) :
    m ((c.widen ignoreCase extra).source ignoreCase) h = true ↔
      ∃ t ∈ c.value :: extra, m ({ c with value := t }.source ignoreCase) h = true := by
  have hmembers : ∀ d ∈ (c.value :: extra).map fun t => { c with value := t }, d.isRaw = false := by
    intro d hd
    obtain ⟨t, -, rfl⟩ := List.mem_map.1 hd
    exact hraw
  rw [source_widen, hm _ (by simp) hmembers, List.any_map, List.any_eq_true]
  refine exists_congr fun t => and_congr_right fun _ => ?_
  rw [source_eq_caseSwitch (c := { c with value := t }) hraw]
  rfl

/-- New terms widen the condition, and nothing is noted. -/
theorem receive_terms_of_ne_nil {strategy : String} {terms : List String}
    (hnew : distinctTerms c.value terms o.maxTerms ≠ []) :
    c.receive o strategy (.terms terms) =
      ⟨c.settled.widen o.ignoreCase (distinctTerms c.value terms o.maxTerms), []⟩ := by
  rw [receive]
  split
  · rename_i hnone
    exact absurd hnone hnew
  · rfl

/-- Without new terms the condition is left as it is, and that is not worth a note. -/
theorem receive_terms_of_nil {strategy : String} {terms : List String}
    (hnone : distinctTerms c.value terms o.maxTerms = []) :
    c.receive o strategy (.terms terms) = ⟨c.settled, []⟩ := by
  simp only [receive, hnone]

/-- A condition with a tag asks for terms, unless it has a raw pattern. -/
theorem expand_of_tagged {strategy : String} (htag : c.expansion = some strategy)
    (hraw : c.isRaw = false) : c.expand ask o = c.receive o strategy (ask c.value strategy) := by
  simp only [expand, htag, hraw, Bool.false_eq_true, if_false]

/-- Whatever is replied, the weight stays and the tag goes. -/
theorem receive_weight_expansion (strategy : String) (reply : Reply) :
    (c.receive o strategy reply).value.weight = c.weight ∧
      (c.receive o strategy reply).value.expansion = none := by
  cases reply with
  | failed reason => exact ⟨rfl, rfl⟩
  | timedOut => exact ⟨rfl, rfl⟩
  | terms l =>
    by_cases hnone : distinctTerms c.value l o.maxTerms = []
    · rw [receive_terms_of_nil hnone]
      exact ⟨rfl, rfl⟩
    · rw [receive_terms_of_ne_nil hnone]
      exact ⟨rfl, rfl⟩

theorem expand_weight_expansion :
    (c.expand ask o).value.weight = c.weight ∧ (c.expand ask o).value.expansion = none := by
  cases htag : c.expansion with
  | none =>
    rw [expand_of_untagged htag]
    exact ⟨rfl, htag⟩
  | some strategy =>
    cases hraw : c.isRaw with
    | true =>
      simp only [expand, htag, hraw, if_true]
      exact ⟨rfl, rfl⟩
    | false =>
      rw [expand_of_tagged htag hraw]
      exact receive_weight_expansion strategy _

/-- One condition, whatever the reply. -/
theorem expand_expands (hm : m.ReadsAlternationUnder o.ignoreCase) :
    c.Expands m o ask (c.expand ask o) where
  negated := expand_negated ask o c
  weight := expand_weight_expansion.1
  expansion := expand_weight_expansion.2
  unasked h := expand_of_untagged h ask o
  unavailable := by
    rintro strategy htag hno
    -- A raw pattern is refused before anything is asked.
    cases hraw : c.isRaw with
    | true =>
      simp only [expand, htag, hraw, if_true]
      exact ⟨_, rfl, rfl⟩
    | false =>
      rw [expand_of_tagged htag hraw]
      rcases hno with hno | ⟨reason, hno⟩ | hno
      · rw [hraw] at hno
        cases hno
      · rw [hno]
        exact ⟨_, rfl, rfl⟩
      · rw [hno]
        exact ⟨_, rfl, rfl⟩
  nothingNew := by
    intro strategy terms htag hraw hreply hnone
    rw [expand_of_tagged htag hraw, hreply, receive_terms_of_nil hnone]
    rfl
  widened := by
    intro strategy terms htag hraw hreply hnew
    rw [expand_of_tagged htag hraw, hreply, receive_terms_of_ne_nil hnew]
    refine ⟨rfl, rfl, fun h => ?_⟩
    rw [finds_widen_iff hm (c := c.settled) hraw]
    -- The value of the condition is the first of the terms that are searched for.
    constructor
    · rintro ⟨t, ht, hfound⟩
      rcases List.mem_cons.1 ht with rfl | ht
      · exact ⟨c, .inl rfl, hfound⟩
      · exact ⟨_, .inr ⟨t, ht, rfl⟩, hfound⟩
    · rintro ⟨c', rfl | ⟨t, ht, rfl⟩, hfound⟩
      · exact ⟨c'.value, List.mem_cons_self, hfound⟩
      · exact ⟨t, List.mem_cons_of_mem _ ht, hfound⟩

end Condition

namespace Expansion

variable (source : Source) (o : Options)

/-- What becomes of each of some conditions, the first of which has the given place. -/
def results (start : Nat) (cs : List Condition) : List (Noted Condition) :=
  (cs.zipIdx start).map fun c => c.1.expand (source c.2) o

theorem results_append (start : Nat) (cs ds : List Condition) :
    results source o start (cs ++ ds) =
      results source o start cs ++ results source o (start + cs.length) ds := by
  rw [results, List.zipIdx_append, List.map_append]
  rfl

/-- Values and notes of expanded conditions are those of each of them, in order. -/
theorem expandConditions_eq (start : Nat) (cs : List Condition) :
    expandConditions source o start cs =
      ⟨(results source o start cs).map (·.value), (results source o start cs).flatMap (·.notes)⟩ := by
  induction cs generalizing start with
  | nil => rfl
  | cons c rest ih =>
    rw [expandConditions, ih]
    rfl

/-- Which group a condition stands in has no part in what becomes of it. -/
theorem expandGroups_eq (start : Nat) (gs : List Group) :
    (expandGroups source o start gs).value.flatMap (·.conditions) =
        (results source o start (gs.flatMap (·.conditions))).map (·.value) ∧
      (expandGroups source o start gs).notes =
        (results source o start (gs.flatMap (·.conditions))).flatMap (·.notes) := by
  induction gs generalizing start with
  | nil => exact ⟨rfl, rfl⟩
  | cons g rest ih =>
    obtain ⟨hvalues, hnotes⟩ := ih (start + g.conditions.length)
    simp only [expandGroups, List.flatMap_cons, results_append, List.map_append, List.flatMap_append,
      hvalues, hnotes, expandConditions_eq, and_self]

/-- A set is expanded condition by condition, across its groups. -/
theorem conditions_expandSet (start : Nat) (s : GroupSet) :
    (expandSet source o start s).value.conditions =
      (results source o start s.conditions).map (·.value) :=
  (expandGroups_eq source o start s.groups).1

theorem notes_expandSet (start : Nat) (s : GroupSet) :
    (expandSet source o start s).notes = (results source o start s.conditions).flatMap (·.notes) :=
  (expandGroups_eq source o start s.groups).2

theorem expansion_of_mem_expandSet (start : Nat) (s : GroupSet) :
    ∀ c ∈ (expandSet source o start s).value.conditions, c.expansion = none := by
  intro c hc
  rw [conditions_expandSet, List.mem_map] at hc
  obtain ⟨result, hresult, rfl⟩ := hc
  obtain ⟨d, -, rfl⟩ := List.mem_map.1 hresult
  exact Condition.expand_weight_expansion.2

/-- Expansion keeps the groups of a set with their sizes, combinators and negations. Its conditions
and its reports are those that come of each condition in order, and once expanded a set stays as it
is without a report. -/
theorem expandSet_expands (m : Matcher H) (source : Source) (o : Options)
    (hm : m.ReadsAlternationUnder o.ignoreCase) (start : Nat) (s : GroupSet) :
    let expanded := expandSet source o start s
    expanded.value.shape = s.shape ∧
      (∃ results : List (Noted Condition),
        expanded.value.conditions = results.map (·.value) ∧
        expanded.notes = results.flatMap (·.notes) ∧
        List.Forall₂ (fun c result => c.1.Expands m o (source c.2) result)
          (s.conditions.zipIdx start) results) ∧
      ∀ source' o' start', expandSet source' o' start' expanded.value = ⟨expanded.value, []⟩ := by
  intro expanded
  refine ⟨expandSet_shape source o start s, ⟨results source o start s.conditions,
    conditions_expandSet source o start s, notes_expandSet source o start s, ?_⟩, ?_⟩
  · rw [results, List.forall₂_map_right_iff]
    exact List.forall₂_same.2 fun c _ => Condition.expand_expands hm
  · intro source' o' start'
    exact expandSet_of_untagged source' o' (expansion_of_mem_expandSet source o start s) start'

/-- Conditions with a wish and one without: a text that has a new term, a raw pattern, and texts for
which there is no reply, a reply too late and nothing new. -/
def wishes : GroupSet :=
  let text (value : String) (expansion : Option String) : Condition :=
    ⟨.text, value, .contains, false, Binary64.one, expansion⟩
  ⟨[⟨[text "AI" (some "synonyms"), text "plain" none], .or⟩,
    ⟨[⟨.pattern, "a+", .pattern, true, Binary64.one, some "synonyms"⟩, text "b" (some "synonyms"),
      text "c" (some "related"), text "d" (some "related")], .and⟩], .and⟩

def replies : Source
  | 0, _, _ => .terms ["ai", " ", " ML ", "ml"]
  | 3, _, _ => .failed "no service"
  | 4, _, _ => .timedOut
  | _, term, _ => .terms [term]

theorem expandSet_expands_wishes :
    let expanded := expandSet replies ⟨1500, 5, true⟩ 0 wishes
    Matcher.search.ReadsAlternationUnder true ∧ expanded.value.shape = wishes.shape ∧
      expanded.notes.map (·.code) = List.replicate 3 .expansionUnavailable ∧
      ∃ c rest, expanded.value.conditions = c :: rest ∧ c.isRaw = true ∧
        ∀ text, Finds (c.source true) text ↔
          Finds "(?i).*AI.*" text ∨ Finds "(?i).*ML.*" text := by
  have hmain := expandSet_expands Matcher.search replies ⟨1500, 5, true⟩
    (Matcher.search_readsAlternationUnder true) 0 wishes
  obtain ⟨hshape, ⟨results, hconditions, -, hall⟩, -⟩ := hmain
  refine ⟨Matcher.search_readsAlternationUnder true, hshape, by decide +kernel, ?_⟩
  rw [hconditions]
  cases hall with
  | @cons _ first _ others hfirst hothers =>
    have hterms : distinctTerms "AI" ["ai", " ", " ML ", "ml"] 5 = ["ML"] := by decide +kernel
    have hnew : distinctTerms "AI" ["ai", " ", " ML ", "ml"] 5 ≠ [] := by simp [hterms]
    obtain ⟨hraw, -, hfound⟩ := hfirst.widened "synonyms" _ rfl rfl rfl hnew
    refine ⟨first.value, others.map (·.value), rfl, hraw, fun text => ?_⟩
    have hiff := hfound text
    simp only [Matcher.search, decide_eq_true_eq] at hiff
    rw [hiff]
    constructor
    · rintro ⟨c', rfl | ⟨t, ht, rfl⟩, hc⟩
      · exact .inl hc
      · obtain rfl : t = "ML" := List.mem_singleton.1 (hterms ▸ ht)
        exact .inr hc
    · rintro (hc | hc)
      · exact ⟨_, .inl rfl, hc⟩
      · exact ⟨_, .inr ⟨"ML", hterms ▸ List.mem_singleton_self _, rfl⟩, hc⟩

end Expansion

end OutlineQuery
