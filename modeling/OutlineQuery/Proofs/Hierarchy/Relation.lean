import Mathlib.Logic.Relation
import OutlineQuery.Hierarchy.Relation
import OutlineQuery.Proofs.Datalog.Semantics

/-!
What the operators between blocks mean. The recursive rule for ancestors has the transitive closure
of the step from a block to its parent as its least fixed point, on stores with cycles and blocks
with several parents too.
-/
namespace OutlineQuery

open Datalog (Var Clause Query Rule Value Store Builtins Interpretation Closed Derived)
open Relation (TransGen)

variable {α : Type}

def Datalog.Store.Child (store : Store α) (x y : Value α) : Prop :=
  store.Has x Datalog.Attr.parent y

def Operator.Relates (store : Store α) (op : Operator) (l r : Value α) : Prop :=
  match op with
  | .childOf => store.Child l r
  | .parentOf => store.Child r l
  | .descendantOf => TransGen store.Child l r
  | .ancestorOf => TransGen store.Child r l
  | .flexChildOf | .flexParentOf => store.Child l r ∨ store.Child r l
  | .flexDescendantOf | .flexAncestorOf => TransGen store.Child l r ∨ TransGen store.Child r l
  | .linkedChildOf | .linkedParentOf => store.Child l r ∨ store.Child r l

namespace Hierarchy

variable {f : Builtins α} {store : Store α} {I : Interpretation α} {scope : List Var}
  {σ : Var → Value α}

theorem holds_childEdge {x y : Var} :
    Clause.Holds I (childEdge x y) scope σ ↔ I.store.Child (σ x) (σ y) :=
  Iff.rfl

/-- The rule for ancestors negates nothing, so it has a least meaning. -/
theorem ancestorRule_positive :
    ∀ r ∈ [ancestorRule], ∀ body ∈ r.bodies, Clause.allPositive body = true := by
  decide

/-- Closure under the rule for ancestors, spelled out. -/
theorem closed_ancestorRule_iff {R : String → List (Value α) → Prop} :
    Closed f store [ancestorRule] R ↔
      (∀ a d, store.Child d a → R "ancestor" [a, d]) ∧
        ∀ a d x, store.Child d x → R "ancestor" [a, x] → R "ancestor" [a, d] := by
  constructor
  · intro h
    constructor
    · intro a d hd
      exact h ancestorRule (by simp) [childEdge ⟨"d"⟩ ⟨"a"⟩] (by simp [ancestorRule])
        (fun v => if v = ⟨"a"⟩ then a else d) ⟨hd, trivial⟩
    · intro a d x hd hx
      exact h ancestorRule (by simp)
        [childEdge ⟨"d"⟩ ⟨"x"⟩, .rule "ancestor" [⟨"a"⟩, ⟨"x"⟩]] (by simp [ancestorRule])
        (fun v => if v = ⟨"a"⟩ then a else if v = ⟨"d"⟩ then d else x) ⟨hd, hx, trivial⟩
  · rintro ⟨hone, hmore⟩ r hr body hbody σ hσ
    obtain rfl := List.mem_singleton.1 hr
    rcases List.mem_cons.1 hbody with rfl | hbody
    · exact hone _ _ hσ.1
    · obtain rfl := List.mem_singleton.1 hbody
      exact hmore _ _ _ hσ.1 hσ.2.1

/-- The least relation closed under the rule for ancestors is the transitive closure of the step to
the parent. -/
theorem derived_ancestor_iff {a d : Value α} :
    Derived f store [ancestorRule] "ancestor" [a, d] ↔ TransGen store.Child d a := by
  constructor
  · intro h
    have hclosed : Closed f store [ancestorRule] fun _ args =>
        ∀ a d, args = [a, d] → TransGen store.Child d a := by
      refine closed_ancestorRule_iff.2 ⟨?_, ?_⟩
      · rintro a d hd _ _ ⟨⟩
        exact .single hd
      · rintro a d x hd hx _ _ ⟨⟩
        exact .head hd (hx _ _ rfl)
    exact h _ hclosed a d rfl
  · intro h
    obtain ⟨hone, hmore⟩ := closed_ancestorRule_iff.1
      (Datalog.derived_closed f store ancestorRule_positive)
    -- Along the path from its lower end: the rule puts the first step before the rest.
    induction h using TransGen.head_induction_on with
    | single hd => exact hone _ _ hd
    | head hd _ ih => exact hmore _ _ _ hd ih

/-- Two blocks are linked when one is the parent of the other, and no further. -/
theorem derived_linked_iff {a b : Value α} :
    Derived f store [linkedRule] "linked" [a, b] ↔ store.Child b a ∨ store.Child a b := by
  constructor
  · intro h
    refine h (fun _ args => ∀ a b, args = [a, b] → store.Child b a ∨ store.Child a b) ?_ a b rfl
    intro r hr body hbody σ hσ
    obtain rfl := List.mem_singleton.1 hr
    rintro a b ⟨⟩
    rcases List.mem_cons.1 hbody with rfl | hbody
    · exact .inl hσ.1
    · obtain rfl := List.mem_singleton.1 hbody
      exact .inr hσ.1
  · intro h R hR
    rcases h with h | h
    · exact hR linkedRule (by simp) [childEdge ⟨"b"⟩ ⟨"a"⟩] (by simp [linkedRule])
        (fun v => if v = ⟨"a"⟩ then a else b) ⟨h, trivial⟩
    · exact hR linkedRule (by simp) [childEdge ⟨"a"⟩ ⟨"b"⟩] (by simp [linkedRule])
        (fun v => if v = ⟨"a"⟩ then a else b) ⟨h, trivial⟩

end Hierarchy

namespace Operator

open Hierarchy

variable {I : Interpretation α} {scope : List Var} {σ : Var → Value α} {left right : Var}

/-- One of two clauses about the same two blocks. -/
theorem holds_either {preferred other : Clause} (hp : preferred.vars ⊆ [left, right])
    (ho : other.vars ⊆ [left, right]) :
    Clause.Holds I (either left right preferred other) scope σ ↔
      Clause.Holds I preferred ([left, right] ++ preferred.bound) σ ∨
        Clause.Holds I other ([left, right] ++ other.bound) σ := by
  have hvars : Clause.varsAll [preferred, other] ⊆ [left, right] := by
    intro v hv
    obtain ⟨c, hc, hvc⟩ := Clause.mem_varsAll.1 hv
    rcases List.mem_cons.1 hc with rfl | hc
    · exact hp hvc
    · obtain rfl := List.mem_singleton.1 hc
      exact ho hvc
  rw [either, Clause.holds_orJoin_iff hvars]
  simp

/-- The clause of an operator says that two blocks stand in its relation. -/
theorem holds_clause_iff (op : Operator)
    (hI : I.rules = Derived I.builtins I.store op.rule?.toList) :
    Clause.Holds I (op.clause left right) scope σ ↔ op.Relates I.store (σ left) (σ right) := by
  have hedge (x y : Var) (s : List Var) :
      Clause.Holds I (childEdge x y) s σ ↔ I.store.Child (σ x) (σ y) := holds_childEdge
  -- The rules in force are those of the operator, so a call has the meaning of its rule.
  have hancestor (x y : Var) (s : List Var) (hop : op.rule? = some ancestorRule) :
      Clause.Holds I (ancestor x y) s σ ↔ TransGen I.store.Child (σ y) (σ x) := by
    change I.rules "ancestor" [σ x, σ y] ↔ _
    rw [hI, hop]
    exact derived_ancestor_iff
  have hlinked (x y : Var) (s : List Var) (hop : op.rule? = some linkedRule) :
      Clause.Holds I (linked x y) s σ ↔ I.store.Child (σ y) (σ x) ∨ I.store.Child (σ x) (σ y) := by
    change I.rules "linked" [σ x, σ y] ↔ _
    rw [hI, hop]
    exact derived_linked_iff
  -- The flexible operators try both directions, and two of them in the other order.
  cases op with
  | childOf => exact hedge left right scope
  | parentOf => exact hedge right left scope
  | descendantOf => exact hancestor right left scope rfl
  | ancestorOf => exact hancestor left right scope rfl
  | flexChildOf =>
    rw [clause, holds_either (by simp [childEdge, Clause.vars, Datalog.Term.var?])
      (by simp [childEdge, Clause.vars, Datalog.Term.var?]), hedge, hedge, Relates]
  | flexParentOf =>
    rw [clause, holds_either (by simp [childEdge, Clause.vars, Datalog.Term.var?])
      (by simp [childEdge, Clause.vars, Datalog.Term.var?]), hedge, hedge, Relates, or_comm]
  | flexDescendantOf =>
    rw [clause, holds_either (by simp [ancestor, Clause.vars]) (by simp [ancestor, Clause.vars]),
      hancestor _ _ _ rfl, hancestor _ _ _ rfl, Relates]
  | flexAncestorOf =>
    rw [clause, holds_either (by simp [ancestor, Clause.vars]) (by simp [ancestor, Clause.vars]),
      hancestor _ _ _ rfl, hancestor _ _ _ rfl, Relates, or_comm]
  | linkedChildOf => exact hlinked right left scope rfl
  | linkedParentOf =>
    rw [Relates, or_comm]
    exact hlinked left right scope rfl

end Operator

end OutlineQuery
