import OutlineQuery.Expansion
import OutlineQuery.Proofs.Compiled.Noninterference

/-!
Expansion changes what conditions ask for and nothing else: the shape of a search stays, and where
no condition asks for an expansion so does the whole search.
-/
namespace OutlineQuery

/-- Every condition that a search tests, the left side of a hierarchy before the right. -/
def Search.Body.conditions : Search.Body → List Condition
  | .groups set => set.conditions
  | .hierarchy r => r.left.conditions ++ r.right.conditions

namespace Condition

theorem receive_negated (o : Expansion.Options) (strategy : String) (c : Condition)
    (reply : Expansion.Reply) : (c.receive o strategy reply).value.negated = c.negated := by
  cases reply with
  | failed reason => rfl
  | timedOut => rfl
  | terms l =>
    unfold receive
    dsimp only
    split <;> rfl

/-- Whatever the reply, a condition stays negated or not. -/
theorem expand_negated (ask : String → String → Expansion.Reply) (o : Expansion.Options)
    (c : Condition) : (c.expand ask o).value.negated = c.negated := by
  unfold expand
  split
  · rfl
  · split
    · rfl
    · exact receive_negated o _ c _

/-- A condition without a tag asks for nothing and is left alone. -/
theorem expand_of_untagged {c : Condition} (h : c.expansion = none)
    (ask : String → String → Expansion.Reply) (o : Expansion.Options) :
    c.expand ask o = ⟨c, []⟩ := by
  simp only [expand, h]

end Condition

namespace Expansion

variable (source : Source) (o : Options)

/-- Expanding keeps the number of conditions, and which of them are negated. -/
theorem expandConditions_negated (i : Nat) (cs : List Condition) :
    (expandConditions source o i cs).value.map (·.negated) = cs.map (·.negated) := by
  induction cs generalizing i with
  | nil => rfl
  | cons c rest ih =>
    have hfirst := Condition.expand_negated (source i) o c
    have hrest := ih (i + 1)
    simp only [expandConditions, List.map_cons, hfirst, hrest]

theorem expandGroups_shape (i : Nat) (gs : List Group) :
    (expandGroups source o i gs).value.map Group.shape = gs.map Group.shape := by
  induction gs generalizing i with
  | nil => rfl
  | cons g rest ih =>
    have hfirst := expandConditions_negated source o i g.conditions
    have hrest := ih (i + g.conditions.length)
    simp only [expandGroups, List.map_cons, hrest, Group.shape, hfirst]

/-- Expanding keeps the shape of a set, whatever is replied. -/
theorem expandSet_shape (start : Nat) (s : GroupSet) :
    (expandSet source o start s).value.shape = s.shape := by
  have hgroups := expandGroups_shape source o start s.groups
  simp only [expandSet, GroupSet.shape, hgroups]

theorem expandBody_sameShape (b : Search.Body) : b.SameShape (expandBody source o b).value := by
  cases b with
  | groups set => exact .groups (expandSet_shape source o 0 set).symm
  | hierarchy r =>
    have hleft := expandSet_shape source o 0 r.left
    have hright := expandSet_shape source o r.left.conditionCount r.right
    exact .hierarchy r.operator hleft.symm hright.symm

theorem expandConditions_of_untagged {cs : List Condition} (h : ∀ c ∈ cs, c.expansion = none)
    (i : Nat) : expandConditions source o i cs = ⟨cs, []⟩ := by
  induction cs generalizing i with
  | nil => rfl
  | cons c rest ih =>
    have hfirst := Condition.expand_of_untagged (h c (by simp)) (source i) o
    have hrest := ih (fun d hd => h d (by simp [hd])) (i + 1)
    simp only [expandConditions, hfirst, hrest, List.append_nil]

theorem expandGroups_of_untagged {gs : List Group}
    (h : ∀ g ∈ gs, ∀ c ∈ g.conditions, c.expansion = none) (i : Nat) :
    expandGroups source o i gs = ⟨gs, []⟩ := by
  induction gs generalizing i with
  | nil => rfl
  | cons g rest ih =>
    have hfirst := expandConditions_of_untagged source o (h g (by simp)) i
    have hrest := ih (fun g' hg => h g' (by simp [hg])) (i + g.conditions.length)
    simp only [expandGroups, hfirst, hrest, List.append_nil]

theorem expandSet_of_untagged {s : GroupSet} (h : ∀ c ∈ s.conditions, c.expansion = none)
    (start : Nat) : expandSet source o start s = ⟨s, []⟩ := by
  have hgroups := expandGroups_of_untagged source o
    (fun g hg c hc => h c (List.mem_flatMap.2 ⟨g, hg, hc⟩)) start
  simp only [expandSet, hgroups]

theorem expandSearch_of_untagged {s : Search} (h : ∀ c ∈ s.body.conditions, c.expansion = none) :
    expandSearch source o s = ⟨s, []⟩ := by
  obtain ⟨e, body, scope⟩ := s
  cases body with
  | groups set =>
    have hset := expandSet_of_untagged source o h 0
    simp only [expandSearch, expandBody, hset]
  | hierarchy r =>
    have hleft := expandSet_of_untagged source o
      (fun c hc => h c (List.mem_append_left _ hc)) 0
    have hright := expandSet_of_untagged source o
      (fun c hc => h c (List.mem_append_right _ hc)) r.left.conditionCount
    simp only [expandSearch, expandBody, hleft, hright, List.append_nil]

end Expansion

end OutlineQuery
