import Mathlib.Data.List.Basic
import OutlineQuery.Proofs.Group.Meaning

/-!
Where the conditions of a collapsed group come from. Each is a condition of the set that was
collapsed, or stands for two or more positive ones of them; none is lost and none used twice.
-/
namespace OutlineQuery

inductive Origin where
  | single (c : Condition)
  | merged (cs : List Condition) (several : 2 ≤ cs.length) (positive : ∀ c ∈ cs, c.negated = false)

namespace Origin

def members : Origin → List Condition
  | single c => [c]
  | merged cs _ _ => cs

def isMerged : Origin → Bool
  | single _ => false
  | merged _ _ _ => true

/-- The pattern before a switch is added to it. -/
def body : Origin → String
  | single c => c.fragment
  | merged cs _ _ => Pattern.alternation (cs.map Condition.fragment)

def condition : Origin → Condition
  | single c => c
  | merged cs _ _ =>
    .ofPattern (Pattern.ignoreCase ++ Pattern.alternation (cs.map Condition.fragment))

/-- The pattern that a query has for the condition. -/
def source (ignoreCase : Bool) (o : Origin) : String :=
  o.condition.source ignoreCase

def addsSwitch (ignoreCase : Bool) : Origin → Bool
  | single c => ignoreCase && !c.isRaw
  | merged _ _ _ => true

/-- The pattern of an origin is its body, after a switch for case if it adds one. -/
theorem source_eq (ignoreCase : Bool) (o : Origin) :
    o.source ignoreCase =
      (if o.addsSwitch ignoreCase then Pattern.ignoreCase else "") ++ o.body := by
  cases o with
  | single c =>
    cases hraw : c.isRaw <;> cases ignoreCase <;>
      simp [source, condition, Condition.source, addsSwitch, body, hraw]
  | merged cs several positive => rfl

/-- If the switch for case is added, the settings ask for it and no condition is a raw pattern. -/
def SwitchAllowed (ignoreCase : Bool) (o : Origin) : Prop :=
  o.addsSwitch ignoreCase = true → ignoreCase = true ∧ ∀ c ∈ o.members, c.isRaw = false

/-- For a condition that stands alone this is so. -/
theorem switchAllowed_iff {ignoreCase : Bool} (o : Origin) :
    o.SwitchAllowed ignoreCase ↔
      (o.isMerged = true → ignoreCase = true ∧ ∀ c ∈ o.members, c.isRaw = false) := by
  cases o with
  | single c => simp [SwitchAllowed, addsSwitch, isMerged, members]
  | merged cs several positive => rfl

/-- Merging several conditions gives the condition of their origin. -/
theorem merge?_eq {cs : List Condition} (several : 2 ≤ cs.length)
    (positive : ∀ c ∈ cs, c.negated = false) :
    Condition.merge? cs = some (merged cs several positive).condition :=
  if_neg (Nat.not_lt.2 several)

end Origin

/-- The conditions of a collapsed group have these origins, which take up some conditions; and the
merges it counts are those among them. -/
structure Collapsed.Arises (c : Collapsed) (origins : List Origin) (cs : List Condition) :
    Prop where
  conditions_eq : c.group.conditions = origins.map Origin.condition
  merges_eq : c.merges = origins.countP Origin.isMerged
  members_perm : (origins.flatMap Origin.members).Perm cs

end OutlineQuery
