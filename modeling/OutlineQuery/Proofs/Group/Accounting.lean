import Mathlib.Algebra.GroupWithZero.Nat
import OutlineQuery.Proofs.Group.Origin

/-!
Collapsing accounts for every condition. Negated conditions stay as they are and in order; positive
ones do too, but for those of a disjunction that is merged, which become one condition together.
-/
namespace OutlineQuery

def positives (cs : List Condition) : List Condition :=
  cs.filter (!·.negated)

def negatives (cs : List Condition) : List Condition :=
  cs.filter (·.negated)

section Signs

variable (cs ds : List Condition)

@[simp] theorem positives_append : positives (cs ++ ds) = positives cs ++ positives ds :=
  List.filter_append ..

@[simp] theorem negatives_append : negatives (cs ++ ds) = negatives cs ++ negatives ds :=
  List.filter_append ..

@[simp] theorem positives_positives : positives (positives cs) = positives cs := by
  simp [positives]

@[simp] theorem negatives_negatives : negatives (negatives cs) = negatives cs := by
  simp [negatives]

@[simp] theorem positives_negatives : positives (negatives cs) = [] := by
  simp [positives, negatives, List.filter_filter]

@[simp] theorem negatives_positives : negatives (positives cs) = [] := by
  simp [positives, negatives, List.filter_filter]

/-- Every condition is wanted or excluded, and not both. -/
theorem positives_append_negatives_perm : (positives cs ++ negatives cs).Perm cs := by
  simpa [positives, negatives] using List.filter_append_perm (!·.negated) cs

theorem negatives_eq_nil_iff : negatives cs = [] ↔ ∀ c ∈ cs, c.negated = false := by
  simp [negatives]

theorem positive_of_mem_positives : ∀ c ∈ positives cs, c.negated = false := by
  intro c hc
  simpa using (List.mem_filter.1 hc).2

end Signs

/-- Whether the positive members of a disjunction become one condition: there are several of them,
and merging is wanted or there are exclusions beside them. -/
def isMergeable (wanted : Bool) (cs : List Condition) : Bool :=
  2 ≤ (positives cs).length && (wanted || !(negatives cs).isEmpty)

def mergedOf (wanted : Bool) (disjunctions : List (List Condition)) : List (List Condition) :=
  (disjunctions.filter (isMergeable wanted)).map positives

@[simp] theorem mergedOf_append (wanted : Bool) (ds ds' : List (List Condition)) :
    mergedOf wanted (ds ++ ds') = mergedOf wanted ds ++ mergedOf wanted ds' := by
  simp [mergedOf]

/-- A single wanted condition is not merged. -/
theorem mergedOf_of_few {wanted : Bool} {cs : List Condition} (h : (positives cs).length < 2) :
    mergedOf wanted [cs] = [] := by
  simp [mergedOf, isMergeable, Nat.not_le.2 h]

/-- Several wanted conditions are merged if that is asked for or something is excluded beside
them. -/
theorem mergedOf_of_several {wanted : Bool} {cs : List Condition} (h : 2 ≤ (positives cs).length)
    (hwanted : wanted = true ∨ negatives cs ≠ []) : mergedOf wanted [cs] = [positives cs] := by
  have hmerge : isMergeable wanted cs = true := by
    rcases hwanted with rfl | hne
    · simp [isMergeable, h]
    · simp [isMergeable, h, hne]
  simp [mergedOf, hmerge]

/-- The disjunction that a group is, if it is one. -/
def Group.disjunctions (g : Group) : List (List Condition) :=
  match g.combinator with
  | .or => [g.conditions]
  | .and => []

/-- The disjunctions of a set: its OR groups, or all conditions together where the groups are
alternatives themselves. -/
def GroupSet.disjunctions (s : GroupSet) : List (List Condition) :=
  if s.combinator = .or ∧ 2 ≤ s.groups.length then [s.conditions]
  else s.groups.flatMap Group.disjunctions

/-- Where the conditions of a collapsed group come from. Each has its origin, those that stand for
several merge some lists, and with these written out they are some conditions again, the positive
and the negated ones each in their order. -/
structure Collapsed.Accounts (c : Collapsed) (origins : List Origin)
    (merged : List (List Condition)) (cs : List Condition) : Prop where
  conditions_eq : c.group.conditions = origins.map Origin.condition
  merges_eq : c.merges = origins.countP Origin.isMerged
  merged_eq : (origins.filter Origin.isMerged).map Origin.members = merged
  positives_eq : positives (origins.flatMap Origin.members) = positives cs
  negatives_eq : negatives (origins.flatMap Origin.members) = negatives cs

namespace Origin

/-- What is merged is positive, before and after, so the negated conditions are the single ones. -/
theorem negatives_map_condition (origins : List Origin) :
    negatives (origins.map condition) = negatives (origins.flatMap members) := by
  induction origins with
  | nil => rfl
  | cons o rest ih =>
    have hfirst : negatives [o.condition] = negatives o.members := by
      cases o with
      | single c => rfl
      | merged cs several positive => exact ((negatives_eq_nil_iff cs).2 positive).symm
    rw [List.map_cons, List.flatMap_cons, negatives_append, ← ih, ← hfirst, ← negatives_append]
    rfl

/-- Each merge saves all conditions that it takes up but one. -/
theorem length_add_sum (origins : List Origin) :
    origins.length + ((origins.filter isMerged).map fun o => o.members.length - 1).sum =
      (origins.flatMap members).length := by
  induction origins with
  | nil => rfl
  | cons o rest ih =>
    rw [List.flatMap_cons, List.length_append, List.length_cons]
    cases o with
    | single c =>
      have hone : (single c).members.length = 1 := rfl
      rw [List.filter_cons_of_neg Bool.false_ne_true]
      omega
    | merged cs several positive =>
      have hseveral : 2 ≤ (merged cs several positive).members.length := several
      rw [List.filter_cons_of_pos rfl, List.map_cons, List.sum_cons]
      omega

end Origin

namespace Collapsed

/-- Conditions that only change places account for themselves. -/
theorem accounts_single {cs ds : List Condition} (k : Combinator)
    (hpositives : positives cs = positives ds) (hnegatives : negatives cs = negatives ds) :
    Accounts ⟨⟨cs, k⟩, 0⟩ (cs.map .single) [] ds where
  conditions_eq := by simp [Function.comp_def, Origin.condition]
  merges_eq := by simp [List.countP_map, Function.comp_def, Origin.isMerged]
  merged_eq := by simp [List.filter_map, Function.comp_def, Origin.isMerged]
  positives_eq := by simpa [List.flatMap_map, Origin.members] using hpositives
  negatives_eq := by simpa [List.flatMap_map, Origin.members] using hnegatives

theorem accounts_merged {cs : List Condition} (several : 2 ≤ cs.length)
    (positive : ∀ c ∈ cs, c.negated = false) :
    Accounts ⟨⟨[(Origin.merged cs several positive).condition], .and⟩, 1⟩
      [.merged cs several positive] [cs] cs :=
  ⟨rfl, rfl, rfl, by simp [Origin.members], by simp [Origin.members]⟩

/-- Accounts of two lists of conditions add up. -/
theorem Accounts.append {c d : Collapsed} {os os' : List Origin} {ms ms' : List (List Condition)}
    {cs cs' : List Condition} (k : Combinator) (hc : c.Accounts os ms cs)
    (hd : d.Accounts os' ms' cs') :
    Accounts ⟨⟨c.group.conditions ++ d.group.conditions, k⟩, c.merges + d.merges⟩ (os ++ os')
      (ms ++ ms') (cs ++ cs') where
  conditions_eq := by simp [hc.conditions_eq, hd.conditions_eq]
  merges_eq := by simp [hc.merges_eq, hd.merges_eq]
  merged_eq := by simp [hc.merged_eq, hd.merged_eq]
  positives_eq := by simp [hc.positives_eq, hd.positives_eq]
  negatives_eq := by simp [hc.negatives_eq, hd.negatives_eq]

/-- An account is more than an origin: it says what was merged as well. -/
theorem Accounts.arises {c : Collapsed} {origins : List Origin} {merged : List (List Condition)}
    {cs : List Condition} (h : c.Accounts origins merged cs) : c.Arises origins cs := by
  refine ⟨h.conditions_eq, h.merges_eq, ?_⟩
  have hmembers := (positives_append_negatives_perm (origins.flatMap Origin.members)).symm
  rw [h.positives_eq, h.negatives_eq] at hmembers
  exact hmembers.trans (positives_append_negatives_perm cs)

/-- With fewer than two positive conditions there is nothing to merge. -/
theorem splitExclusions_of_few {cs : List Condition} (h : (positives cs).length < 2) :
    splitExclusions cs = ⟨⟨positives cs ++ negatives cs, .and⟩, 0⟩ := by
  have hnone : Condition.merge? (cs.filter (!·.negated)) = none := merge?_eq_none_iff.2 h
  rw [splitExclusions, hnone]
  rfl

theorem splitExclusions_combinator (cs : List Condition) :
    (splitExclusions cs).group.combinator = .and := by
  unfold splitExclusions
  dsimp only
  split <;> rfl

/-- Several wanted conditions become one, in front of those excluded. -/
theorem splitExclusions_of_several {cs : List Condition} (several : 2 ≤ (positives cs).length) :
    splitExclusions cs =
      ⟨⟨(Origin.merged _ several (positive_of_mem_positives cs)).condition :: negatives cs, .and⟩,
        1⟩ := by
  have hsome : Condition.merge? (cs.filter (!·.negated)) =
      some (Origin.merged _ several (positive_of_mem_positives cs)).condition :=
    Origin.merge?_eq several (positive_of_mem_positives cs)
  rw [splitExclusions, hsome]
  rfl

/-- Splitting off what is excluded loses nothing and merges what is wanted. -/
theorem exists_accounts_splitExclusions (cs : List Condition) :
    ∃ origins, (splitExclusions cs).Accounts origins (mergedOf true [cs]) cs := by
  rcases Nat.lt_or_ge (positives cs).length 2 with hfew | hseveral
  · rw [splitExclusions_of_few hfew, mergedOf_of_few hfew]
    exact ⟨_, accounts_single .and (by simp) (by simp)⟩
  · rw [splitExclusions_of_several hseveral, mergedOf_of_several hseveral (.inl rfl)]
    have hmerged := accounts_merged hseveral (positive_of_mem_positives cs)
    have hkept := accounts_single .and (rfl : positives (negatives cs) = _) rfl
    have hboth := hmerged.append .and hkept
    refine ⟨_, hboth.conditions_eq, hboth.merges_eq, hboth.merged_eq, ?_, ?_⟩
    · rw [hboth.positives_eq]
      simp
    · rw [hboth.negatives_eq]
      simp

end Collapsed

namespace Group

/-- What becomes of a group that stands alone: it is a conjunction and stays, or it is split, or it
stays a disjunction, and then nothing in it is negated. -/
theorem collapse_cases (mergePlain : Bool) (g : Group) :
    (g.combinator = .and ∧ g.collapse mergePlain = ⟨⟨g.conditions, .and⟩, 0⟩) ∨
    (g.combinator = .or ∧ (mergePlain = true ∨ negatives g.conditions ≠ []) ∧
      g.collapse mergePlain = OutlineQuery.splitExclusions g.conditions) ∨
    (g.combinator = .or ∧ negatives g.conditions = [] ∧
      isMergeable mergePlain g.conditions = false ∧
      g.collapse mergePlain = ⟨⟨g.conditions, .or⟩, 0⟩) := by
  cases hk : g.combinator with
  | and => exact .inl ⟨rfl, by simp [collapse, plan, hk, apply]⟩
  | or =>
    refine .inr ?_
    -- Something excluded forces the split, whether or not there is anything to merge.
    by_cases hne : negatives g.conditions = []
    · have hneg := hasNegation_eq_false_iff.2 ((negatives_eq_nil_iff _).1 hne)
      by_cases hmerge : isMergeable mergePlain g.conditions = true
      · have hwanted : mergePlain = true ∧ 2 ≤ (positives g.conditions).length := by
          simpa [isMergeable, hne, and_comm] using hmerge
        obtain ⟨rfl, hseveral⟩ := hwanted
        rw [positives] at hseveral
        exact .inl ⟨rfl, .inl rfl, by simp [collapse, plan, hk, hneg, hseveral, apply]⟩
      · have hplain : (mergePlain && decide (2 ≤ (positives g.conditions).length)) = false := by
          simpa [isMergeable, hne, and_comm] using hmerge
        rw [positives] at hplain
        refine .inr ⟨rfl, hne, by simpa using hmerge, ?_⟩
        simp [collapse, plan, hk, hneg, hplain, apply]
    · have hneg : g.hasNegation = true := by
        rw [negatives_eq_nil_iff, ← hasNegation_eq_false_iff] at hne
        simpa using hne
      refine .inl ⟨rfl, .inr hne, ?_⟩
      rw [collapse, plan, hk]
      simp only [hneg, if_true]
      split <;> rfl

/-- Collapsing a group loses nothing, and merges several alternatives only if that is asked for or
something is excluded beside them. -/
theorem exists_accounts_collapse (mergePlain : Bool) (g : Group) :
    ∃ origins, (g.collapse mergePlain).Accounts origins (mergedOf mergePlain g.disjunctions)
      g.conditions := by
  rcases g.collapse_cases mergePlain with ⟨hk, heq⟩ | ⟨hk, hwanted, heq⟩ | ⟨hk, -, hkept, heq⟩
  · rw [heq, disjunctions, hk]
    exact ⟨_, Collapsed.accounts_single .and rfl rfl⟩
  · have hmerged : mergedOf mergePlain [g.conditions] = mergedOf true [g.conditions] := by
      rcases Nat.lt_or_ge (positives g.conditions).length 2 with hfew | hseveral
      · rw [mergedOf_of_few hfew, mergedOf_of_few hfew]
      · rw [mergedOf_of_several hseveral hwanted, mergedOf_of_several hseveral (.inl rfl)]
    simp only [heq, disjunctions, hk, hmerged]
    exact Collapsed.exists_accounts_splitExclusions g.conditions
  · have hnone : mergedOf mergePlain [g.conditions] = [] := by simp [mergedOf, hkept]
    simp only [heq, disjunctions, hk, hnone]
    exact ⟨_, Collapsed.accounts_single .or rfl rfl⟩

/-- Beside other groups a disjunction is merged in any case. -/
theorem exists_accounts_conjoin (g : Group) :
    ∃ origins, g.conjoin.Accounts origins (mergedOf true g.disjunctions) g.conditions := by
  cases hk : g.combinator with
  | and =>
    simp only [conjoin, disjunctions, hk]
    exact ⟨_, Collapsed.accounts_single .and rfl rfl⟩
  | or =>
    simp only [conjoin, disjunctions, hk, conjoinDisjunction]
    split
    case isTrue hfew =>
      have hpositives : (positives g.conditions).length < 2 :=
        Nat.lt_of_le_of_lt (List.length_filter_le ..) hfew
      rw [mergedOf_of_few hpositives]
      exact ⟨_, Collapsed.accounts_single .and rfl rfl⟩
    case isFalse => exact Collapsed.exists_accounts_splitExclusions g.conditions

theorem exists_accounts_all (groups : List Group) :
    ∃ origins, (Collapsed.all (groups.map conjoin)).Accounts origins
      (mergedOf true (groups.flatMap disjunctions)) (groups.flatMap (·.conditions)) := by
  induction groups with
  | nil => exact ⟨[], rfl, rfl, rfl, rfl, rfl⟩
  | cons g rest ih =>
    obtain ⟨origins, hrest⟩ := ih
    obtain ⟨first, hfirst⟩ := exists_accounts_conjoin g
    rw [List.flatMap_cons, List.flatMap_cons, mergedOf_append]
    exact ⟨first ++ origins, hfirst.append .and hrest⟩

end Group

namespace GroupSet

variable {s : GroupSet} {mergePlain : Bool} {c : Collapsed}

/-- The groups of a flat set are one disjunction, or a single group. -/
theorem joined_disjunctions (h : s.tier = .flat) : s.joined.disjunctions = s.disjunctions := by
  obtain ⟨groups, k⟩ := s
  rcases groups with _ | ⟨g, _ | ⟨g', rest⟩⟩
  case nil => simp [joined, disjunctions, Group.disjunctions]
  case cons.nil => simp [joined, disjunctions]
  case cons.cons =>
    cases k with
    | and => simp [tier] at h
    | or => simp [joined, disjunctions, Group.disjunctions, conditions]

/-- A set that is collapsed is taken up whole. Its disjunctions are merged where they stand beside
other groups, and otherwise if that is asked for or something is excluded. -/
theorem exists_accounts_of_collapse (h : s.collapse mergePlain = .ok c) :
    ∃ origins, c.Accounts origins
      (mergedOf (mergePlain || s.tier == .andDominant) s.disjunctions) s.conditions := by
  unfold collapse at h
  cases htier : s.tier with
  | flat =>
    rw [htier] at h
    obtain rfl := Except.ok.inj h
    have hjoined := s.joined.exists_accounts_collapse mergePlain
    rw [joined_disjunctions htier, joined_conditions] at hjoined
    have hwanted : (mergePlain || Tier.flat == .andDominant) = mergePlain := Bool.or_false _
    rwa [hwanted]
  | andDominant =>
    rw [htier] at h
    obtain rfl := Except.ok.inj h
    have hdisjunctions : s.disjunctions = s.groups.flatMap Group.disjunctions := by
      simp [disjunctions, (tier_eq_andDominant_iff.1 htier).1]
    have hwanted : (mergePlain || Tier.andDominant == .andDominant) = true := Bool.or_true _
    rw [hdisjunctions, hwanted]
    exact Group.exists_accounts_all s.groups
  | orDominant =>
    rw [htier] at h
    cases h

/-- Every condition of a collapsed set has an origin. -/
theorem exists_arises_of_collapse (h : s.collapse mergePlain = .ok c) :
    ∃ origins, c.Arises origins s.conditions := by
  obtain ⟨origins, haccounts⟩ := exists_accounts_of_collapse h
  exact ⟨origins, haccounts.arises⟩

/-- A set that stays a disjunction has nothing merged and nothing negated. -/
theorem collapse_disjunction (h : s.collapse mergePlain = .ok c) (hor : c.group.combinator = .or) :
    c.merges = 0 ∧ negatives c.group.conditions = [] := by
  unfold collapse at h
  split at h
  · obtain rfl := Except.ok.inj h
    rcases s.joined.collapse_cases mergePlain with ⟨-, heq⟩ | ⟨-, -, heq⟩ | ⟨-, hnone, -, heq⟩
    · rw [heq] at hor
      cases hor
    · rw [heq, Collapsed.splitExclusions_combinator] at hor
      cases hor
    · rw [heq]
      exact ⟨rfl, hnone⟩
  · obtain rfl := Except.ok.inj h
    cases hor
  · cases h

/-- Collapsing accounts for every condition of a set. -/
theorem collapse_accounts (h : s.collapse mergePlain = .ok c) :
    negatives c.group.conditions = negatives s.conditions ∧
    (∃ origins : List Origin,
      c.group.conditions = origins.map Origin.condition ∧
      c.merges = origins.countP Origin.isMerged ∧
      (origins.filter Origin.isMerged).map Origin.members =
        (s.disjunctions.filter (isMergeable (mergePlain || s.tier == .andDominant))).map positives ∧
      positives (origins.flatMap Origin.members) = positives s.conditions ∧
      c.group.conditions.length +
          ((origins.filter Origin.isMerged).map fun o => o.members.length - 1).sum =
        s.conditionCount) ∧
    (c.group.combinator = .or → c.merges = 0 ∧ ∀ d ∈ c.group.conditions, d.negated = false) := by
  obtain ⟨origins, haccounts⟩ := exists_accounts_of_collapse h
  have hlength : c.group.conditions.length = origins.length := by
    rw [haccounts.conditions_eq, List.length_map]
  have hcount : (origins.flatMap Origin.members).length = s.conditionCount :=
    haccounts.arises.members_perm.length_eq
  refine ⟨?_, ⟨origins, haccounts.conditions_eq, haccounts.merges_eq, haccounts.merged_eq,
    haccounts.positives_eq, ?_⟩, ?_⟩
  · rw [haccounts.conditions_eq, Origin.negatives_map_condition, haccounts.negatives_eq]
  · rw [hlength, Origin.length_add_sum, hcount]
  · intro hor
    obtain ⟨hmerges, hnone⟩ := collapse_disjunction h hor
    exact ⟨hmerges, (negatives_eq_nil_iff _).1 hnone⟩

/-- One disjunction with two positive members, one with a single one, and a conjunction. -/
def mixedLetters : GroupSet :=
  ⟨[⟨[askFor "a" false, askFor "c" true, askFor "b" false], .or⟩,
    ⟨[askFor "d" true, askFor "e" false], .or⟩, ⟨[askFor "f" false, askFor "g" true], .and⟩], .and⟩

theorem collapse_accounts_mixedLetters :
    ∃ c, mixedLetters.collapse false = .ok c ∧ c.merges = 1 ∧
      negatives c.group.conditions = [askFor "c" true, askFor "d" true, askFor "g" true] ∧
      ∃ origins : List Origin, c.group.conditions = origins.map Origin.condition ∧
        (origins.filter Origin.isMerged).map Origin.members =
          [[askFor "a" false, askFor "b" false]] ∧
        positives (origins.flatMap Origin.members) =
          [askFor "a" false, askFor "b" false, askFor "e" false, askFor "f" false] := by
  obtain ⟨c, hc, hmerges⟩ : ∃ c, mixedLetters.collapse false = .ok c ∧ c.merges = 1 :=
    ⟨_, rfl, rfl⟩
  obtain ⟨hnegatives, ⟨origins, hconditions, -, hmerged, hpositives, -⟩, -⟩ := collapse_accounts hc
  exact ⟨c, hc, hmerges, hnegatives, origins, hconditions, hmerged, hpositives⟩

end GroupSet

end OutlineQuery
