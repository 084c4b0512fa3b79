import OutlineQuery.Compiled
import OutlineQuery.Proofs.Group.Shape

/-!
Weights and expansions are annotations of conditions: no step of compiling a search looks at them.
To take them away and then collapse, plan or compile is the same as to do it with them there.
-/
namespace OutlineQuery

open Datalog (Var)

namespace Condition

/-- A condition without annotations. -/
def bare (c : Condition) : Condition :=
  { c with weight := Binary64.one, expansion := none }

@[simp] theorem negated_bare (c : Condition) : c.bare.negated = c.negated := rfl

@[simp] theorem fragment_bare (c : Condition) : c.bare.fragment = c.fragment := rfl

@[simp] theorem source_bare (c : Condition) (ignoreCase : Bool) :
    c.bare.source ignoreCase = c.source ignoreCase := rfl

/-- A merged condition has no annotations, whatever those of its members. -/
theorem merge?_map_bare (cs : List Condition) :
    merge? (cs.map bare) = merge? cs ∧ (merge? cs).map bare = merge? cs := by
  have hfragments : (cs.map bare).map fragment = cs.map fragment := by
    simp only [List.map_map, Function.comp_def, fragment_bare]
  unfold merge?
  rw [List.length_map, hfragments]
  split <;> exact ⟨rfl, rfl⟩

end Condition

def Group.bare (g : Group) : Group :=
  { g with conditions := g.conditions.map Condition.bare }

def Collapsed.bare (c : Collapsed) : Collapsed :=
  { c with group := c.group.bare }

def GroupSet.bare (s : GroupSet) : GroupSet :=
  { s with groups := s.groups.map Group.bare }

/-- What is chosen by negation alone is chosen without annotations too. -/
theorem filter_map_bare {p : Bool → Bool} (cs : List Condition) :
    (cs.map Condition.bare).filter (fun c => p c.negated) =
      (cs.filter fun c => p c.negated).map Condition.bare := by
  simp only [List.filter_map, Function.comp_def, Condition.negated_bare]

/-- Merging reads values and drops annotations anyway. -/
theorem splitExclusions_map_bare (cs : List Condition) :
    splitExclusions (cs.map Condition.bare) = (splitExclusions cs).bare := by
  have hpositives := filter_map_bare (p := (!·)) cs
  have hnegatives := filter_map_bare (p := id) cs
  simp only [id_eq] at hnegatives
  obtain ⟨hmerge, hmerged⟩ := Condition.merge?_map_bare (cs.filter (!·.negated))
  simp only [splitExclusions, hpositives, hnegatives, hmerge]
  cases hcase : Condition.merge? (cs.filter (!·.negated)) with
  | none => simp only [Collapsed.bare, Group.bare, List.map_append]
  | some merged =>
    rw [hcase] at hmerged
    have hbare : merged.bare = merged := Option.some.inj hmerged
    simp only [Collapsed.bare, Group.bare, List.map_cons, hbare]

namespace Group

theorem shape_bare (g : Group) : g.bare.shape = g.shape := by
  simp only [shape, bare, List.map_map, Function.comp_def, Condition.negated_bare]

/-- A group without annotations collapses to the collapsed group without them. -/
theorem collapse_bare (mergePlain : Bool) (g : Group) :
    g.bare.collapse mergePlain = (g.collapse mergePlain).bare := by
  rw [collapse, collapse, plan_eq_of_shape mergePlain g.shape_bare]
  cases g.plan mergePlain with
  | keepAll => rfl
  | keepAny => rfl
  | mergePositives => exact splitExclusions_map_bare g.conditions
  | splitExclusions => exact splitExclusions_map_bare g.conditions

theorem conjoin_bare (g : Group) : g.bare.conjoin = g.conjoin.bare := by
  obtain ⟨cs, k⟩ := g
  cases k with
  | and => rfl
  | or =>
    simp only [conjoin, bare, conjoinDisjunction, List.length_map]
    split
    · rfl
    · exact splitExclusions_map_bare cs

end Group

theorem Collapsed.all_map_bare (cs : List Collapsed) : all (cs.map bare) = (all cs).bare := by
  simp only [all, bare, Group.bare, List.flatMap_map, List.map_flatMap, List.foldr_map]

namespace GroupSet

theorem shape_bare (s : GroupSet) : s.bare.shape = s.shape := by
  simp only [shape, bare, List.map_map]
  congr 1
  exact List.map_congr_left fun g _ => g.shape_bare

theorem joined_bare (s : GroupSet) : s.bare.joined = s.joined.bare := by
  obtain ⟨groups, k⟩ := s
  rcases groups with _ | ⟨g, _ | ⟨g', rest⟩⟩
  · rfl
  · rfl
  · simp only [joined, bare, Group.bare, List.map_cons, List.flatMap_cons, List.flatMap_map,
      List.map_append, List.map_flatMap]

/-- A set without its annotations collapses to the same, without them, or fails for the same
reason. -/
theorem collapse_bare (mergePlain : Bool) (s : GroupSet) :
    s.bare.collapse mergePlain = (s.collapse mergePlain).map Collapsed.bare := by
  have hobstacle : s.bare.obstacle = s.obstacle :=
    firstObstacle_eq 0 (congrArg Prod.fst s.shape_bare)
  rw [collapse, collapse, tier_eq_of_shape s.shape_bare]
  cases s.tier with
  | flat =>
    rw [joined_bare, Group.collapse_bare]
    rfl
  | andDominant =>
    have hparts : s.bare.groups.map Group.conjoin = (s.groups.map Group.conjoin).map
        Collapsed.bare := by
      simp only [bare, List.map_map]
      exact List.map_congr_left fun g _ => g.conjoin_bare
    dsimp only
    rw [hparts, Collapsed.all_map_bare]
    rfl
  | orDominant =>
    dsimp only
    rw [hobstacle]
    rfl

end GroupSet

def PatternTest.bare (t : PatternTest) : PatternTest :=
  { t with condition := t.condition.bare }

theorem PatternTest.number_map_bare (n : Naming) (start : Nat) (cs : List Condition) :
    number n start (cs.map Condition.bare) = (number n start cs).map bare := by
  induction cs generalizing start with
  | nil => rfl
  | cons c rest ih => simp only [List.map_cons, number, ih, bare]

/-- The clauses for a group have no place for annotations. -/
theorem matchClauses_bare (ignoreCase : Bool) (n : Naming) (field : Var) (g : Group) :
    matchClauses ignoreCase n field g.bare = matchClauses ignoreCase n field g := by
  have hbinding (t : PatternTest) : t.bare.binding ignoreCase = t.binding ignoreCase := by
    simp only [PatternTest.binding, PatternTest.bare, Condition.source_bare]
  have htest (t : PatternTest) : t.bare.test field = t.test field := rfl
  have hre (t : PatternTest) : t.bare.re = t.re := rfl
  simp only [matchClauses, Group.bare, PatternTest.number_map_bare, List.length_map, List.map_map,
    List.flatMap_map, Function.comp_def, hbinding, htest, hre]

namespace Plan

variable (config : Config)

theorem select_bare (e : Entity) (g : Group) (scope : Scope) :
    select config e g.bare scope = select config e g scope := by
  simp only [select, matchClauses_bare]

theorem relate_bare (left : Group) (op : Operator) (right : Group) (scope : Scope) :
    relate config left.bare op right.bare scope = relate config left op right scope := by
  simp only [relate, matchClauses_bare]

end Plan

namespace Search

def Body.bare : Body → Body
  | .groups set => .groups set.bare
  | .hierarchy r => .hierarchy { r with left := r.left.bare, right := r.right.bare }

/-- A search without annotations. -/
def bare (s : Search) : Search :=
  { s with body := s.body.bare }

theorem Body.conditionCount_bare (b : Body) : b.bare.conditionCount = b.conditionCount := by
  cases b with
  | groups set => exact GroupSet.conditionCount_eq_of_shape set.shape_bare
  | hierarchy r =>
    simp only [bare, conditionCount, GroupSet.conditionCount_eq_of_shape r.left.shape_bare,
      GroupSet.conditionCount_eq_of_shape r.right.shape_bare]

end Search

namespace Compiled

theorem collapse_bare (config : Config) (place : String) (s : GroupSet) :
    collapse config place s.bare = (collapse config place s).map Collapsed.bare := by
  unfold collapse
  rw [GroupSet.collapse_bare, GroupSet.tier_eq_of_shape s.shape_bare]
  rcases s.collapse config.mergePlainOr with obstacle | c
  · rfl
  · simp only [Except.map, Collapsed.bare, Group.bare, List.isEmpty_map]
    split <;> rfl

/-- A search compiles to the same without its annotations, or fails with the same error. -/
theorem ofSearch_bare (config : Config) (s : Search) :
    ofSearch config s.bare = ofSearch config s := by
  obtain ⟨e, body, scope⟩ := s
  simp only [ofSearch, Search.bare, Search.Body.conditionCount_bare]
  split
  · rfl
  · cases body with
    | groups set =>
      simp only [Search.Body.bare, ofBody, collapse_bare]
      rcases collapse config "" set with error | c
      · rfl
      · simp only [Except.map, bind, Except.bind, Collapsed.bare, Plan.select_bare,
          GroupSet.tier_eq_of_shape set.shape_bare]
    | hierarchy r =>
      simp only [Search.Body.bare, ofBody, collapse_bare]
      rcases collapse config "hierarchy.left" r.left with error | left
      · rfl
      · rcases collapse config "hierarchy.right" r.right with error | right
        · rfl
        · simp only [Except.map, bind, Except.bind, Collapsed.bare, Plan.relate_bare,
            GroupSet.tier_eq_of_shape r.left.shape_bare,
            GroupSet.tier_eq_of_shape r.right.shape_bare]

end Compiled

end OutlineQuery
