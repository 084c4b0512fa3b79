import Mathlib.Logic.Function.Basic
import OutlineQuery.Plan

/-!
The variables of plans. Each variable of a side has one role, different roles have different
variables, and the two sides of a hierarchy share none; so any choice of values for the roles of the
sides is a valuation.
-/
namespace OutlineQuery

open Datalog (Var)

/-- What a variable of one side stands for. -/
inductive Role where
  | block
  | page
  | content
  | pageName
  | title
  | blockUuid
  | blockId
  | pageUuid
  | pageId
  | pattern (i : Nat)
deriving DecidableEq

namespace Role

/-- The name of the variable with a role, without what the side puts before it. -/
def name : Role → String
  | block => "b"
  | page => "p"
  | content => "content"
  | pageName => "page-name"
  | title => "title"
  | blockUuid => "b-uuid"
  | blockId => "b-id"
  | pageUuid => "p-uuid"
  | pageId => "p-id"
  | pattern i => "re" ++ toString i

theorem toString_injective {i j : Nat} (h : toString i = toString j) : i = j := by
  have hdigits : Nat.toDigits 10 i = Nat.toDigits 10 j := by
    simpa only [Nat.toString_eq_repr, Nat.toList_repr] using congrArg String.toList h
  rw [← Nat.ofDigitChars_ten_toDigits (n := i), hdigits, Nat.ofDigitChars_ten_toDigits]

/-- Different roles have different names. -/
theorem name_injective : Function.Injective name := by
  intro r s h
  cases r <;> cases s
  case pattern.pattern i j =>
    have hij : toString i = toString j := (String.append_right_inj "re").1 h
    rw [toString_injective hij]
  all_goals simp_all [name, ← String.toList_inj]

end Role

/-- The variables of a side start with its own sign and not with a question mark. -/
def Naming.Plain (n : Naming) : Prop :=
  n.lead.toList.head? ≠ some '?'

theorem Naming.root_plain : Naming.root.Plain := by
  simp [Naming.Plain, Naming.root]

@[simp] theorem Naming.lead_left : Naming.left.lead = "l-" := rfl

@[simp] theorem Naming.lead_right : Naming.right.lead = "r-" := rfl

theorem Naming.left_plain : Naming.left.Plain := by
  simp [Naming.Plain]

theorem Naming.right_plain : Naming.right.Plain := by
  simp [Naming.Plain]

theorem Datalog.Var.ofString_of_plain {s : String} (h : s.toList.head? ≠ some '?') :
    Var.ofString s = ⟨s⟩ := by
  unfold Var.ofString
  split
  · rename_i rest hs
    exact absurd (by rw [hs]; rfl) h
  · rfl

namespace Naming

def roleVar (n : Naming) (r : Role) : Var :=
  ⟨n.lead ++ r.name⟩

/-- On one side, no two roles have one variable. -/
theorem roleVar_injective (n : Naming) : Function.Injective n.roleVar := by
  intro r s h
  exact Role.name_injective ((String.append_right_inj n.lead).1 (congrArg Var.name h))

@[simp] theorem roleVar_inj {n : Naming} {r s : Role} : n.roleVar r = n.roleVar s ↔ r = s :=
  n.roleVar_injective.eq_iff

/-- The two sides of a hierarchy have no variable in common. -/
@[simp] theorem left_ne_right (r s : Role) : left.roleVar r ≠ right.roleVar s := by
  intro h
  have hnames := congrArg (fun v : Var => v.name.toList.head?) h
  simp [roleVar] at hnames

variable {n : Naming}

theorem var_eq_of_plain (hn : n.Plain) {name : String} (h : name.toList.head? ≠ some '?') :
    n.var name = ⟨n.lead ++ name⟩ := by
  apply Datalog.Var.ofString_of_plain
  rw [String.toList_append, List.head?_append]
  rcases hhead : n.lead.toList.head? with _ | c
  · simpa using h
  · simpa [hhead] using fun hc => hn (hhead.trans (congrArg some hc))

theorem var_role (hn : n.Plain) (r : Role) (h : r.name.toList.head? ≠ some '?') :
    n.var r.name = n.roleVar r :=
  var_eq_of_plain hn h

theorem patternVar_eq (hn : n.Plain) (i : Nat) : n.patternVar i = n.roleVar (.pattern i) :=
  var_role hn (.pattern i) (by simp [Role.name])

theorem uuidVar_block : Scope.uuidVar (n.roleVar .block) = n.roleVar .blockUuid := by
  simp [Scope.uuidVar, Var.extend, roleVar, Role.name, String.append_assoc]

theorem idVar_block : Scope.idVar (n.roleVar .block) = n.roleVar .blockId := by
  simp [Scope.idVar, Var.extend, roleVar, Role.name, String.append_assoc]

theorem uuidVar_page : Scope.uuidVar (n.roleVar .page) = n.roleVar .pageUuid := by
  simp [Scope.uuidVar, Var.extend, roleVar, Role.name, String.append_assoc]

theorem idVar_page : Scope.idVar (n.roleVar .page) = n.roleVar .pageId := by
  simp [Scope.idVar, Var.extend, roleVar, Role.name, String.append_assoc]

end Naming

/-- Any values for the roles of one side come from a valuation. -/
theorem exists_valuation {V : Type} [Nonempty V] (n : Naming) (φ : Role → V) :
    ∃ σ : Var → V, ∀ r, σ (n.roleVar r) = φ r := by
  obtain ⟨v⟩ := ‹Nonempty V›
  exact ⟨Function.extend n.roleVar φ fun _ => v, n.roleVar_injective.extend_apply φ _⟩

/-- Any values for the roles of the two sides of a hierarchy come from one valuation. -/
theorem exists_valuation_sides {V : Type} [Nonempty V] (φ ψ : Role → V) :
    ∃ σ : Var → V, (∀ r, σ (Naming.left.roleVar r) = φ r) ∧
      ∀ r, σ (Naming.right.roleVar r) = ψ r := by
  obtain ⟨τ, hτ⟩ := exists_valuation Naming.right ψ
  refine ⟨Function.extend Naming.left.roleVar φ τ,
    Naming.left.roleVar_injective.extend_apply φ τ, fun r => ?_⟩
  rw [Function.extend_apply' φ τ _ fun ⟨s, hs⟩ => Naming.left_ne_right s r hs, hτ]

end OutlineQuery
