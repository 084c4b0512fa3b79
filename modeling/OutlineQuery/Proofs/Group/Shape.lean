import Mathlib.Logic.Function.Basic
import OutlineQuery.Group.Collapse

/-!
The shape of groups: how many members there are, how they combine and which are negated, but not
what they ask for. Groups of one shape collapse in the same way.
-/
namespace OutlineQuery

/-- Which members of a group are negated, and how they combine. -/
def Group.shape (g : Group) : List Bool × Combinator :=
  (g.conditions.map (·.negated), g.combinator)

def GroupSet.shape (s : GroupSet) : List (List Bool × Combinator) × Combinator :=
  (s.groups.map Group.shape, s.combinator)

def Collapsed.shape (c : Collapsed) : (List Bool × Combinator) × Nat :=
  (c.group.shape, c.merges)

/-- Lists that agree on one property of their members agree on all that depend on it. -/
theorem map_eq_of_factorsThrough {α β γ : Type} {f : α → β} {g : α → γ} (hg : g.FactorsThrough f)
    {xs ys : List α} (h : xs.map f = ys.map f) : xs.map g = ys.map g := by
  induction xs generalizing ys with
  | nil =>
    rw [List.map_nil, eq_comm, List.map_eq_nil_iff] at h
    rw [h]
  | cons x xs ih =>
    cases ys with
    | nil => cases h
    | cons y ys =>
      obtain ⟨hxy, hrest⟩ := List.cons.inj h
      rw [List.map_cons, List.map_cons, hg hxy, ih hrest]

namespace Group

variable {g g' : Group}

theorem length_eq_of_shape (h : g.shape = g'.shape) :
    g.conditions.length = g'.conditions.length := by
  simpa [shape] using congrArg (fun k : List Bool × Combinator => k.1.length) h

theorem combinator_eq_of_shape (h : g.shape = g'.shape) : g.combinator = g'.combinator :=
  congrArg Prod.snd h

theorem hasNegation_eq_of_shape (h : g.shape = g'.shape) : g.hasNegation = g'.hasNegation := by
  have hany (g : Group) : g.hasNegation = g.shape.1.any id := by
    rw [hasNegation, shape, List.any_map]
    rfl
  rw [hany, hany, h]

theorem isConjunction_eq_of_shape (h : g.shape = g'.shape) :
    g.isConjunction = g'.isConjunction := by
  rw [isConjunction, isConjunction, combinator_eq_of_shape h, length_eq_of_shape h]

theorem isConjunctive_factorsThrough : isConjunctive.FactorsThrough shape := by
  intro g g' h
  rw [isConjunctive, isConjunctive, isConjunction_eq_of_shape h, hasNegation_eq_of_shape h]

/-- What stands in the way of merging a group is told by its shape. -/
theorem obstacle_eq_of_shape (place : Nat) (h : g.shape = g'.shape) :
    Obstacle.ofGroup place g = Obstacle.ofGroup place g' := by
  rw [Obstacle.ofGroup, Obstacle.ofGroup, isConjunction_eq_of_shape h, length_eq_of_shape h]

end Group

/-- How a disjunction with exclusions is split is a matter of the signs of its members. -/
theorem splitExclusions_shape (cs : List Condition) :
    (splitExclusions cs).shape =
      let positives := (cs.map (·.negated)).filter (!·)
      let negatives := (cs.map (·.negated)).filter id
      if positives.length < 2 then ((positives ++ negatives, .and), 0)
      else ((false :: negatives, .and), 1) := by
  have hpositives : (cs.map (·.negated)).filter (!·) =
      (cs.filter (!·.negated)).map (·.negated) := List.filter_map ..
  have hnegatives : (cs.map (·.negated)).filter id =
      (cs.filter (·.negated)).map (·.negated) := List.filter_map ..
  simp only [hpositives, hnegatives, List.length_map, splitExclusions, Condition.merge?]
  by_cases hfew : (cs.filter (!·.negated)).length < 2
  · simp only [hfew, if_true, Collapsed.shape, Group.shape, List.map_append]
  · simp only [hfew, if_false, Collapsed.shape, Group.shape, List.map_cons, Condition.ofPattern]

/-- Merging replaces the wanted conditions by one, however they are written. -/
theorem splitExclusions_shape_eq {cs cs' : List Condition}
    (h : cs.map (·.negated) = cs'.map (·.negated)) :
    (splitExclusions cs).shape = (splitExclusions cs').shape := by
  rw [splitExclusions_shape, splitExclusions_shape, h]

namespace Group

variable {g g' : Group}

theorem plan_eq_of_shape (mergePlain : Bool) (h : g.shape = g'.shape) :
    g.plan mergePlain = g'.plan mergePlain := by
  have hcount (g : Group) :
      (g.conditions.filter (!·.negated)).length = (g.shape.1.filter (!·)).length := by
    rw [shape, List.filter_map, List.length_map]
    rfl
  rw [plan, plan, combinator_eq_of_shape h, hasNegation_eq_of_shape h, hcount, hcount, h]

theorem collapse_shape_eq (mergePlain : Bool) (h : g.shape = g'.shape) :
    (g.collapse mergePlain).shape = (g'.collapse mergePlain).shape := by
  have hsigns := congrArg Prod.fst h
  rw [collapse, collapse, plan_eq_of_shape mergePlain h]
  cases g'.plan mergePlain with
  | keepAll => exact congrArg (fun signs => ((signs, Combinator.and), 0)) hsigns
  | keepAny => exact congrArg (fun signs => ((signs, Combinator.or), 0)) hsigns
  | mergePositives => exact splitExclusions_shape_eq hsigns
  | splitExclusions => exact splitExclusions_shape_eq hsigns

theorem conjoin_factorsThrough : (Collapsed.shape ∘ conjoin).FactorsThrough shape := by
  intro g g' h
  have hsigns := congrArg Prod.fst h
  have hkeep := congrArg (fun signs => ((signs, Combinator.and), 0)) hsigns
  rw [Function.comp_apply, Function.comp_apply, conjoin, conjoin, combinator_eq_of_shape h]
  cases g'.combinator with
  | and => exact hkeep
  | or =>
    simp only [conjoinDisjunction, length_eq_of_shape h]
    split
    · exact hkeep
    · exact splitExclusions_shape_eq hsigns

end Group

theorem Collapsed.all_shape_eq {cs cs' : List Collapsed} (h : cs.map shape = cs'.map shape) :
    (all cs).shape = (all cs').shape := by
  have hall (cs : List Collapsed) : (all cs).shape =
      (((cs.map shape).flatMap (·.1.1), .and), (cs.map shape).foldr (·.2 + ·) 0) := by
    simp [all, shape, Group.shape, List.map_flatMap, List.flatMap_map, List.foldr_map]
  rw [hall, hall, h]

namespace GroupSet

variable {s s' : GroupSet}

theorem tier_eq_of_shape (h : s.shape = s'.shape) : s.tier = s'.tier := by
  obtain ⟨hgroups, hcombinator⟩ := Prod.mk.inj h
  have hlength : s.groups.length = s'.groups.length := by
    simpa using congrArg List.length hgroups
  have hany : s.groups.any Group.isConjunctive = s'.groups.any Group.isConjunctive := by
    have hmap := map_eq_of_factorsThrough Group.isConjunctive_factorsThrough hgroups
    simpa [List.any_map] using congrArg (List.any · id) hmap
  rw [tier, tier, hlength, hcombinator, hany]

theorem firstObstacle_eq {gs gs' : List Group} (place : Nat)
    (h : gs.map Group.shape = gs'.map Group.shape) :
    firstObstacle place gs = firstObstacle place gs' := by
  induction gs generalizing gs' place with
  | nil =>
    rw [List.map_nil, eq_comm, List.map_eq_nil_iff] at h
    rw [h]
  | cons g gs ih =>
    cases gs' with
    | nil => cases h
    | cons g' gs' =>
      obtain ⟨hfirst, hrest⟩ := List.cons.inj h
      rw [firstObstacle, firstObstacle, Group.isConjunctive_factorsThrough hfirst,
        Group.obstacle_eq_of_shape place hfirst, ih (place + 1) hrest]

theorem conditionCount_eq_of_shape (h : s.shape = s'.shape) :
    s.conditionCount = s'.conditionCount := by
  have hcount (s : GroupSet) : s.conditionCount = (s.shape.1.flatMap (·.1)).length := by
    simp [conditionCount, conditions, shape, Group.shape, List.length_flatMap, List.flatMap_map]
  rw [hcount, hcount, h]

theorem joined_shape_eq (h : s.shape = s'.shape) : s.joined.shape = s'.joined.shape := by
  obtain ⟨groups, k⟩ := s
  obtain ⟨groups', k'⟩ := s'
  obtain ⟨hgroups, -⟩ := Prod.mk.inj h
  -- Joining asks whether there is no group, one, or more, and the shapes say how many there are.
  rcases groups with _ | ⟨g, _ | ⟨g₂, gs⟩⟩ <;> rcases groups' with _ | ⟨g', _ | ⟨g₂', gs'⟩⟩
  case nil.nil => rfl
  case cons.nil.cons.nil => exact List.head_eq_of_cons_eq hgroups
  case cons.cons.cons.cons =>
    have hkinds := congrArg (List.flatMap Prod.fst) hgroups
    simpa [joined, shape, Group.shape, List.map_flatMap, List.flatMap_map] using hkinds
  all_goals simp at hgroups

/-- Sets of one shape collapse to groups of one shape, or not at all, and then for one reason. -/
theorem collapse_shape_eq (mergePlain : Bool) (h : s.shape = s'.shape) :
    (s.collapse mergePlain).map Collapsed.shape = (s'.collapse mergePlain).map Collapsed.shape := by
  obtain ⟨hgroups, -⟩ := Prod.mk.inj h
  rw [collapse, collapse, tier_eq_of_shape h]
  cases s'.tier with
  | flat => exact congrArg Except.ok (Group.collapse_shape_eq mergePlain (joined_shape_eq h))
  | andDominant =>
    have hparts := map_eq_of_factorsThrough Group.conjoin_factorsThrough hgroups
    rw [← List.map_map, ← List.map_map] at hparts
    exact congrArg Except.ok (Collapsed.all_shape_eq hparts)
  | orDominant => exact congrArg Except.error (firstObstacle_eq 0 hgroups)

end GroupSet

end OutlineQuery
