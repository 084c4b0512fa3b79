import OutlineQuery.Group.Collapse

/-!
What groups and sets of groups mean on a text, and that collapsing a set keeps its meaning. How a
pattern is matched is left open but for one law: an alternation of generated patterns is found
exactly where one of them is.
-/
namespace OutlineQuery

variable {H : Type}

/-- Whether the pattern with a source is found in a text. -/
abbrev Matcher (H : Type) := String → H → Bool

/-- A matcher reads an alternation of the patterns made from conditions as a choice among them. -/
def Matcher.ReadsAlternation (m : Matcher H) : Prop :=
  ∀ cs : List Condition, cs ≠ [] → (∀ c ∈ cs, c.isRaw = false) → ∀ h : H,
    m (Pattern.ignoreCase ++ Pattern.alternation (cs.map Condition.fragment)) h =
      cs.any fun c => m (Pattern.ignoreCase ++ c.fragment) h

/-- A condition holds where its pattern is found or, if it is negated, where it is not. -/
def Condition.holds (m : Matcher H) (ignoreCase : Bool) (h : H) (c : Condition) : Bool :=
  m (c.source ignoreCase) h != c.negated

/-- Whether all members or some member pass a test. -/
def Combinator.combine {α : Type} (k : Combinator) (p : α → Bool) (xs : List α) : Bool :=
  match k with
  | .and => xs.all p
  | .or => xs.any p

namespace Group

def combined (m : Matcher H) (ignoreCase : Bool) (h : H) (g : Group) : Bool :=
  g.combinator.combine (Condition.holds m ignoreCase h) g.conditions

/-- What a group asks for. Negated members of a disjunction are exclusions: no one of them may be
found, and of the positive members, if there are any, one must be. -/
def holds (m : Matcher H) (h : H) (g : Group) : Bool :=
  let found := fun c : Condition => m (c.source true) h
  let positives := g.conditions.filter (!·.negated)
  let negatives := g.conditions.filter (·.negated)
  match g.combinator with
  | .and => g.conditions.all (Condition.holds m true h)
  | .or =>
    if g.hasNegation then
      (positives.isEmpty || positives.any found) && negatives.all (fun c => !found c)
    else g.conditions.any (Condition.holds m true h)

end Group

def GroupSet.holds (m : Matcher H) (h : H) (s : GroupSet) : Bool :=
  s.combinator.combine (Group.holds m h) s.groups

variable {m : Matcher H} {h : H}

theorem any_congr_of_mem {α : Type} {p q : α → Bool} {l : List α} (hl : ∀ a ∈ l, p a = q a) :
    l.any p = l.any q := by
  induction l with
  | nil => rfl
  | cons a l ih =>
    rw [List.any_cons, List.any_cons, hl a (by simp), ih fun b hb => hl b (by simp [hb])]

theorem all_congr_of_mem {α : Type} {p q : α → Bool} {l : List α} (hl : ∀ a ∈ l, p a = q a) :
    l.all p = l.all q := by
  induction l with
  | nil => rfl
  | cons a l ih =>
    rw [List.all_cons, List.all_cons, hl a (by simp), ih fun b hb => hl b (by simp [hb])]

theorem holds_of_positive {c : Condition} (hc : c.negated = false) :
    c.holds m true h = m (c.source true) h := by
  simp [Condition.holds, hc]

theorem holds_of_negated {c : Condition} (hc : c.negated = true) :
    c.holds m true h = !m (c.source true) h := by
  simp [Condition.holds, hc]

theorem source_of_not_raw {c : Condition} (hc : c.isRaw = false) :
    c.source true = Pattern.ignoreCase ++ c.fragment := by
  simp [Condition.source, hc]

/-- The merged condition holds exactly where one of the merged ones does. -/
theorem merge?_holds (hm : m.ReadsAlternation) {cs : List Condition} {c : Condition}
    (hraw : ∀ c ∈ cs, c.isRaw = false) (hpos : ∀ c ∈ cs, c.negated = false)
    (hc : Condition.merge? cs = some c) :
    c.holds m true h = cs.any (Condition.holds m true h) := by
  unfold Condition.merge? at hc
  split at hc
  · cases hc
  · rename_i hlen
    cases hc
    have hne : cs ≠ [] := by
      rintro rfl
      exact hlen (by decide)
    calc
      _ = m (Pattern.ignoreCase ++ Pattern.alternation (cs.map Condition.fragment)) h := by
        simp [Condition.holds, Condition.ofPattern, Condition.source, Condition.fragment,
          Condition.isRaw]
      _ = cs.any fun c => m (Pattern.ignoreCase ++ c.fragment) h := hm cs hne hraw h
      _ = cs.any (Condition.holds m true h) := by
        apply any_congr_of_mem
        intro c hc
        rw [holds_of_positive (hpos c hc), source_of_not_raw (hraw c hc)]

/-- It takes two conditions to merge. -/
theorem merge?_eq_none_iff {cs : List Condition} : Condition.merge? cs = none ↔ cs.length < 2 := by
  unfold Condition.merge?
  split <;> simp_all

/-- Exclusions split off: the one condition for the positive members and the negated ones hold
together exactly when a disjunction with exclusions does. -/
theorem splitExclusions_combined (hm : m.ReadsAlternation) {cs : List Condition}
    (hraw : ∀ c ∈ cs, c.isRaw = false) :
    (splitExclusions cs).group.combined m true h =
      (((cs.filter (!·.negated)).isEmpty ||
          (cs.filter (!·.negated)).any (Condition.holds m true h)) &&
        (cs.filter (·.negated)).all (Condition.holds m true h)) := by
  have hpos : ∀ c ∈ cs.filter (!·.negated), c.negated = false := by
    intro c hc
    simpa using (List.mem_filter.1 hc).2
  have hsub : ∀ c ∈ cs.filter (!·.negated), c.isRaw = false :=
    fun c hc => hraw c (List.mem_filter.1 hc).1
  simp only [splitExclusions]
  generalize cs.filter (!·.negated) = positives at hpos hsub ⊢
  split
  · rename_i merged hmerged
    have hne : positives.isEmpty = false := by
      rcases positives with _ | ⟨c, rest⟩
      · cases hmerged
      · rfl
    simp [Group.combined, Combinator.combine, merge?_holds hm hsub hpos hmerged, hne]
  · rename_i hnone
    have hlen := merge?_eq_none_iff.1 hnone
    -- At most one positive member: "some" and "all" say the same of it.
    rcases positives with _ | ⟨c, _ | ⟨d, rest⟩⟩
    · simp [Group.combined, Combinator.combine]
    · simp [Group.combined, Combinator.combine]
    · simp only [List.length_cons] at hlen
      omega

namespace Group

theorem hasNegation_eq_false_iff {g : Group} :
    g.hasNegation = false ↔ ∀ c ∈ g.conditions, c.negated = false := by
  simp [hasNegation]

/-- A disjunction with its exclusions split off means what it did. -/
theorem splitExclusions_holds (hm : m.ReadsAlternation) {g : Group}
    (hraw : ∀ c ∈ g.conditions, c.isRaw = false) (hor : g.combinator = .or)
    (hne : g.conditions ≠ []) :
    (OutlineQuery.splitExclusions g.conditions).group.combined m true h = g.holds m h := by
  rw [splitExclusions_combined hm hraw]
  have hpos : (g.conditions.filter (!·.negated)).any (Condition.holds m true h) =
      (g.conditions.filter (!·.negated)).any fun c => m (c.source true) h := by
    apply any_congr_of_mem
    intro c hc
    exact holds_of_positive (by simpa using (List.mem_filter.1 hc).2)
  have hneg : (g.conditions.filter (·.negated)).all (Condition.holds m true h) =
      (g.conditions.filter (·.negated)).all fun c => !m (c.source true) h := by
    apply all_congr_of_mem
    intro c hc
    exact holds_of_negated (List.mem_filter.1 hc).2
  simp only [holds, hor]
  -- With a negation the group itself means wanted and excluded conditions apart; without one
  -- nothing is excluded.
  split
  · rw [hpos, hneg]
  · rename_i hno
    have hall := hasNegation_eq_false_iff.1 (Bool.eq_false_iff.2 hno)
    have hkeep : g.conditions.filter (!·.negated) = g.conditions := by
      apply List.filter_eq_self.2
      intro c hc
      simp [hall c hc]
    have hdrop : g.conditions.filter (·.negated) = [] := by
      apply List.filter_eq_nil_iff.2
      intro c hc
      simp [hall c hc]
    rw [hkeep, hdrop]
    simp [hne]

/-- A group that stands alone means the same collapsed. -/
theorem collapse_combined (hm : m.ReadsAlternation) {g : Group}
    (hraw : ∀ c ∈ g.conditions, c.isRaw = false) (hne : g.conditions ≠ []) (mergePlain : Bool) :
    (g.collapse mergePlain).group.combined m true h = g.holds m h := by
  rcases hk : g.combinator with _ | _
  · simp [collapse, plan, hk, apply, combined, holds, Combinator.combine]
  · by_cases hneg : g.hasNegation = true
    · have hsplit : g.collapse mergePlain = OutlineQuery.splitExclusions g.conditions := by
        simp only [collapse, plan, hk, hneg, if_true]
        split <;> rfl
      rw [hsplit, splitExclusions_holds hm hraw hk hne]
    · by_cases hmerge : mergePlain && 2 ≤ (g.conditions.filter (!·.negated)).length
      · have hsplit : g.collapse mergePlain = OutlineQuery.splitExclusions g.conditions := by
          simp only [collapse, plan, hk, hneg, hmerge, if_true]
          rfl
        rw [hsplit, splitExclusions_holds hm hraw hk hne]
      · simp [collapse, plan, hk, hneg, hmerge, apply, combined, holds, Combinator.combine]

theorem conjoin_combinator (g : Group) : g.conjoin.group.combinator = .and := by
  unfold conjoin
  split
  · unfold conjoinDisjunction OutlineQuery.splitExclusions
    split
    · rfl
    · dsimp only
      split <;> rfl
  · rfl

/-- A group made a conjunction, to stand beside others that must hold, means what it did. -/
theorem conjoin_combined (hm : m.ReadsAlternation) {g : Group}
    (hraw : ∀ c ∈ g.conditions, c.isRaw = false) (hne : g.conditions ≠ []) :
    g.conjoin.group.combined m true h = g.holds m h := by
  rcases hk : g.combinator with _ | _
  · simp [conjoin, hk, combined, holds, Combinator.combine]
  · by_cases hlen : g.conditions.length < 2
    · obtain ⟨c, hc⟩ : ∃ c, g.conditions = [c] := by
        rcases hcs : g.conditions with _ | ⟨c, _ | ⟨d, rest⟩⟩
        · exact absurd hcs hne
        · exact ⟨c, rfl⟩
        · rw [hcs, List.length_cons, List.length_cons] at hlen
          omega
      -- One condition alone is its own conjunction, an exclusion or not.
      rcases hn : c.negated with _ | _ <;>
        simp [conjoin, hk, conjoinDisjunction, hc, combined, holds, hasNegation, hn,
          Combinator.combine, Condition.holds]
    · have hsplit : g.conjoin = OutlineQuery.splitExclusions g.conditions := by
        simp [conjoin, hk, conjoinDisjunction, hlen]
      rw [hsplit, splitExclusions_holds hm hraw hk hne]

/-- A group that can be an alternative means some one of its conditions. -/
theorem holds_of_not_conjunctive {g : Group} (hg : g.isConjunctive = false)
    (hne : g.conditions ≠ []) :
    g.holds m h = g.conditions.any (Condition.holds m true h) := by
  obtain ⟨hconj, hneg⟩ := Bool.or_eq_false_iff.1 hg
  rcases hk : g.combinator with _ | _
  · rcases hcs : g.conditions with _ | ⟨c, _ | ⟨d, rest⟩⟩
    · exact absurd hcs hne
    · simp [holds, hk, hcs]
    · simp [isConjunction, hk, hcs] at hconj
  · simp [holds, hk, hneg]

end Group

/-- The conjunction of collapsed groups that are conjunctions themselves. -/
theorem Collapsed.all_combined {cs : List Collapsed} (hcs : ∀ c ∈ cs, c.group.combinator = .and) :
    (Collapsed.all cs).group.combined m true h = cs.all (·.group.combined m true h) := by
  have hmembers : cs.all (·.group.combined m true h) =
      cs.all (·.group.conditions.all (Condition.holds m true h)) := by
    apply all_congr_of_mem
    intro c hc
    simp [Group.combined, hcs c hc, Combinator.combine]
  rw [hmembers]
  simp [Collapsed.all, Group.combined, Combinator.combine, List.all_flatMap]

namespace GroupSet

/-- A set has the highest tier if it is a choice of several groups of which one is not a plain
choice. -/
theorem tier_eq_orDominant_iff {s : GroupSet} :
    s.tier = .orDominant ↔
      s.combinator = .or ∧ 2 ≤ s.groups.length ∧ ∃ g ∈ s.groups, g.isConjunctive = true := by
  unfold tier
  by_cases hlen : s.groups.length ≤ 1
  · have hfew : ¬ 2 ≤ s.groups.length := by omega
    simp [hlen, hfew]
  · have hmany : 2 ≤ s.groups.length := by omega
    cases s.combinator <;> simp [hlen, hmany]

/-- A set has the middle tier if several groups all must hold. -/
theorem tier_eq_andDominant_iff {s : GroupSet} :
    s.tier = .andDominant ↔ s.combinator = .and ∧ 2 ≤ s.groups.length := by
  unfold tier
  by_cases hlen : s.groups.length ≤ 1
  · have hfew : ¬ 2 ≤ s.groups.length := by omega
    simp [hlen, hfew]
  · have hmany : 2 ≤ s.groups.length := by omega
    rcases s.combinator with _ | _
    · simp [hlen, hmany]
    · rw [if_neg hlen]
      dsimp only
      split <;> simp

/-- Every set can be collapsed but those of the highest tier. -/
theorem exists_collapse_iff {s : GroupSet} {mergePlain : Bool} :
    (∃ c, s.collapse mergePlain = .ok c) ↔ s.tier ≠ .orDominant := by
  unfold collapse
  split <;> simp_all

/-- Several alternatives that are alternatives themselves mean some one of all their conditions. -/
theorem joined_holds {s : GroupSet} (hs : s.groups ≠ []) (hne : ∀ g ∈ s.groups, g.conditions ≠ [])
    (hflat : s.tier = .flat) : s.joined.holds m h = s.holds m h := by
  obtain ⟨groups, k⟩ := s
  rcases groups with _ | ⟨g, _ | ⟨g', rest⟩⟩
  · exact absurd rfl hs
  · cases k <;> simp [joined, holds, Combinator.combine]
  · have hk : k = .or ∧ ∀ a ∈ g :: g' :: rest, a.isConjunctive = false := by
      cases k <;> simp_all [tier]
    obtain ⟨rfl, hconj⟩ := hk
    have hpos : (joined ⟨g :: g' :: rest, .or⟩).hasNegation = false := by
      apply Group.hasNegation_eq_false_iff.2
      intro c hc
      obtain ⟨a, ha, hca⟩ := List.mem_flatMap.1 hc
      exact Group.hasNegation_eq_false_iff.1 (Bool.or_eq_false_iff.1 (hconj a ha)).2 c hca
    calc
      _ = ((g :: g' :: rest).flatMap (·.conditions)).any (Condition.holds m true h) := by
        unfold Group.holds
        rw [hpos]
        rfl
      _ = (g :: g' :: rest).any (·.conditions.any (Condition.holds m true h)) := by
        rw [List.any_flatMap]
      _ = (g :: g' :: rest).any (Group.holds m h) := by
        apply any_congr_of_mem
        intro a ha
        exact (Group.holds_of_not_conjunctive (hconj a ha) (hne a ha)).symm

theorem joined_conditions (s : GroupSet) : s.joined.conditions = s.conditions := by
  obtain ⟨groups, k⟩ := s
  rcases groups with _ | ⟨g, _ | ⟨g', rest⟩⟩ <;> simp [joined, conditions]

theorem conditions_ne_nil {s : GroupSet} (hs : s.groups ≠ [])
    (hne : ∀ g ∈ s.groups, g.conditions ≠ []) : s.conditions ≠ [] := by
  obtain ⟨g, hg⟩ := List.exists_mem_of_ne_nil _ hs
  obtain ⟨c, hc⟩ := List.exists_mem_of_ne_nil _ (hne g hg)
  exact List.ne_nil_of_mem (List.mem_flatMap.2 ⟨g, hg, hc⟩)

/-- Collapsing keeps the meaning of a set, and fails only on alternatives of which one asks for
several things at once or excludes some. -/
theorem collapse_combined_eq_holds (m : Matcher H) (hm : m.ReadsAlternation) (s : GroupSet)
    (hs : s.groups ≠ []) (hne : ∀ g ∈ s.groups, g.conditions ≠ [])
    (hraw : ∀ g ∈ s.groups, ∀ c ∈ g.conditions, c.isRaw = false) (mergePlain : Bool) (h : H) :
    (∀ c, s.collapse mergePlain = .ok c → c.group.combined m true h = s.holds m h) ∧
      ((∃ c, s.collapse mergePlain = .ok c) ↔
        (s.combinator = .or → 2 ≤ s.groups.length → ∀ g ∈ s.groups, g.isConjunctive = false)) := by
  constructor
  · intro c hc
    unfold collapse at hc
    split at hc
    · rename_i hflat
      cases hc
      -- A flat set is one group by joining, which keeps the conditions.
      have hmem : ∀ c ∈ s.joined.conditions, c.isRaw = false := by
        rw [joined_conditions]
        intro c hc
        obtain ⟨g, hg, hcg⟩ := List.mem_flatMap.1 hc
        exact hraw g hg c hcg
      have hjoined : s.joined.conditions ≠ [] := by
        rw [joined_conditions]
        exact conditions_ne_nil hs hne
      rw [Group.collapse_combined hm hmem hjoined, joined_holds hs hne hflat]
    · rename_i htier
      cases hc
      -- Groups that all must hold are conjoined one by one.
      have hk := (tier_eq_andDominant_iff.1 htier).1
      rw [Collapsed.all_combined (by simp [Group.conjoin_combinator])]
      simp only [holds, hk, Combinator.combine, List.all_map]
      apply all_congr_of_mem
      intro g hg
      exact Group.conjoin_combined hm (hraw g hg) (hne g hg)
    · cases hc
  · rw [exists_collapse_iff, ne_eq, tier_eq_orDominant_iff]
    simp

end GroupSet

def askFor (value : String) (negated : Bool) : Condition :=
  ⟨.text, value, .contains, negated, Binary64.one, none⟩

/-- Two groups that must both hold: one of `a` and `b` but not `c`, and `d`. -/
def letters : GroupSet :=
  ⟨[⟨[askFor "a" false, askFor "b" false, askFor "c" true], .or⟩, ⟨[askFor "d" false], .and⟩], .and⟩

end OutlineQuery
