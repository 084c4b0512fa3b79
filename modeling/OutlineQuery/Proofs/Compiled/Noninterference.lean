import OutlineQuery.Proofs.Compiled.Inversion
import OutlineQuery.Proofs.Plan.Skeleton

/-!
What conditions and identifiers say never changes the structure of a compiled search. Two searches
of one shape fail alike, or compile to texts that are equal but for what is in string literals.
-/
namespace OutlineQuery

/-- The same number of groups and conditions under the same combinators, with the same conditions
negated, and for hierarchies the same operator. -/
inductive Search.Body.SameShape : Search.Body → Search.Body → Prop
  | groups {set set' : GroupSet} (h : set.shape = set'.shape) :
    SameShape (.groups set) (.groups set')
  | hierarchy {left left' right right' : GroupSet} (operator : Operator)
    (hleft : left.shape = left'.shape) (hright : right.shape = right'.shape) :
    SameShape (.hierarchy ⟨left, operator, right⟩) (.hierarchy ⟨left', operator, right'⟩)

/-- Searches that may differ in what their conditions and their identifiers say, but in nothing
else. -/
structure Search.SameShape (s s' : Search) : Prop where
  entity : s.entity = s'.entity
  body : s.body.SameShape s'.body
  scope : s.scope.SameSize s'.scope

namespace Compiled

/-- Sets of one shape fail to collapse for the same reason, or collapse to groups of one shape. -/
theorem collapse_cases {set set' : GroupSet} (h : set.shape = set'.shape) (config : Config)
    (place : String) :
    (∃ e, collapse config place set = .error e ∧ collapse config place set' = .error e) ∨
      ∃ c c', collapse config place set = .ok c ∧ collapse config place set' = .ok c' ∧
        c.group.shape = c'.group.shape := by
  have hcollapse := GroupSet.collapse_shape_eq config.mergePlainOr h
  unfold collapse
  rw [GroupSet.tier_eq_of_shape h]
  generalize set.collapse config.mergePlainOr = r at hcollapse ⊢
  generalize set'.collapse config.mergePlainOr = r' at hcollapse ⊢
  rcases r with obstacle | c <;> rcases r' with obstacle' | c'
  · rw [Except.error.inj hcollapse]
    exact .inl ⟨_, rfl, rfl⟩
  · cases hcollapse
  · cases hcollapse
  · have hshape : c.group.shape = c'.group.shape := congrArg Prod.fst (Except.ok.inj hcollapse)
    have hempty : c.group.conditions.isEmpty = c'.group.conditions.isEmpty := by
      rw [Bool.eq_iff_iff, List.isEmpty_iff_length_eq_zero, List.isEmpty_iff_length_eq_zero,
        Group.length_eq_of_shape hshape]
    simp only [hempty]
    cases c'.group.conditions.isEmpty with
    | true => exact .inl ⟨_, rfl, rfl⟩
    | false => exact .inr ⟨c, c', rfl, rfl, hshape⟩

theorem conditionCount_eq {b b' : Search.Body} (h : b.SameShape b') :
    b.conditionCount = b'.conditionCount := by
  cases h with
  | groups h => exact GroupSet.conditionCount_eq_of_shape h
  | hierarchy operator hleft hright =>
    simp only [Search.Body.conditionCount, GroupSet.conditionCount_eq_of_shape hleft,
      GroupSet.conditionCount_eq_of_shape hright]

/-- Searches of one shape fail with one error, or both compile, to texts that are equal once their
string literals are emptied. -/
theorem emptyLiterals_text_eq (config : Config) (s s' : Search) (h : s.SameShape s') :
    (∃ e, ofSearch config s = .error e ∧ ofSearch config s' = .error e) ∨
      ∃ c c', ofSearch config s = .ok c ∧ ofSearch config s' = .ok c' ∧
        Datalog.emptyLiterals c.text = Datalog.emptyLiterals c'.text := by
  obtain ⟨e, body, scope⟩ := s
  obtain ⟨e', body', scope'⟩ := s'
  obtain ⟨hentity, hbody, hscope⟩ := h
  obtain rfl : e = e' := hentity
  simp only [ofSearch, conditionCount_eq hbody]
  split
  · exact .inl ⟨_, rfl, rfl⟩
  · cases hbody with
    | groups hset =>
      rcases collapse_cases hset config "" with ⟨e, herr, herr'⟩ | ⟨c, c', hok, hok', hshape⟩
      · simp only [ofBody, herr, herr']
        exact .inl ⟨_, rfl, rfl⟩
      · simp only [ofBody, hok, hok']
        exact .inr ⟨_, _, rfl, rfl, Plan.emptyLiterals_select_eq hshape hscope config e⟩
    | hierarchy operator hleft hright =>
      rcases collapse_cases hleft config "hierarchy.left" with
        ⟨e, herr, herr'⟩ | ⟨l, l', hl, hl', hshapeLeft⟩
      · simp only [ofBody, herr, herr']
        exact .inl ⟨_, rfl, rfl⟩
      · rcases collapse_cases hright config "hierarchy.right" with
          ⟨e, herr, herr'⟩ | ⟨r, r', hr, hr', hshapeRight⟩
        · simp only [ofBody, hl, hl', herr, herr']
          exact .inl ⟨_, rfl, rfl⟩
        · simp only [ofBody, hl, hl', hr, hr']
          exact .inr ⟨_, _, rfl, rfl,
            Plan.emptyLiterals_relate_eq hshapeLeft hshapeRight hscope config operator⟩

/-- The search for `letterRelation`, and one of its shape whose texts try to close the literals that
they end up in. -/
theorem emptyLiterals_text_eq_letterRelation :
    let hostile : GroupSet := ⟨[⟨[askFor "\")] [?x" false, askFor "\\" true], .or⟩], .or⟩
    let s : Search := ⟨.block, .hierarchy letterRelation, ⟨["x", " y"], ["z"], true⟩⟩
    let s' : Search := ⟨.block, .hierarchy ⟨letters, .flexDescendantOf, hostile⟩,
      ⟨["\" \"", "\\", "\\ "], [" ]\x7d", ""], true⟩⟩
    s.SameShape s' ∧
      ∃ c c', ofSearch .default s = .ok c ∧ ofSearch .default s' = .ok c' ∧
        Datalog.emptyLiterals c.text = Datalog.emptyLiterals c'.text := by
  intro hostile s s'
  have hshape : s.SameShape s' :=
    ⟨rfl, .hierarchy .flexDescendantOf rfl rfl, ⟨by decide +kernel, by decide +kernel, rfl⟩⟩
  refine ⟨hshape, ?_⟩
  have hok : ∃ c, ofSearch .default s = .ok c := ⟨_, rfl⟩
  obtain ⟨c, hc⟩ := hok
  rcases emptyLiterals_text_eq .default s s' hshape with ⟨e, herr, -⟩ | ⟨d, d', hd, hd', htexts⟩
  · rw [hc] at herr
    cases herr
  · exact ⟨d, d', hd, hd', htexts⟩

end Compiled

end OutlineQuery
