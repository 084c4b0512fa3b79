import Mathlib.Data.List.Chain
import OutlineQuery.Text.CodePoints

/-!
Membership in sets of code points. Looking a code point up is asking whether it is in some range as
long as the ranges ascend, which the union of sets keeps.
-/
namespace OutlineQuery.Text.CodePoints

variable {s t : CodePoints} {n : Nat}

def Has (s : CodePoints) (n : Nat) : Prop :=
  ∃ r ∈ s, r.1 ≤ n ∧ n ≤ r.2

def Leads (r u : Nat × Nat) : Prop :=
  r.1 ≤ u.1

instance : DecidableRel Leads := fun r u => inferInstanceAs (Decidable (r.1 ≤ u.1))

instance : Trans Leads Leads Leads := ⟨Nat.le_trans⟩

theorem startsBy_iff_leads {r u : Nat × Nat} : startsBy r u = true ↔ Leads r u := by
  simp [startsBy, Leads]

def Ascends (s : CodePoints) : Prop :=
  s.Pairwise Leads

theorem ascends_of_isChain (h : s.IsChain Leads) : s.Ascends :=
  List.isChain_iff_pairwise.1 h

theorem not_has_nil : ¬Has [] n := by
  simp [Has]

theorem has_cons_iff {r : Nat × Nat} : Has (r :: s) n ↔ (r.1 ≤ n ∧ n ≤ r.2) ∨ s.Has n := by
  simp [Has]

/-- In ascending ranges the search may stop at the first one that is too high. -/
theorem contains_iff_has (h : s.Ascends) : s.contains n = true ↔ s.Has n := by
  induction s with
  | nil => simp [contains, not_has_nil]
  | cons r rest ih =>
    obtain ⟨hfirst, hrest⟩ := List.pairwise_cons.1 h
    -- The look-up gives up before the first range that starts above; so do all ranges after it.
    have hbelow : Has rest n → r.1 ≤ n := by
      rintro ⟨u, hu, hlo, -⟩
      exact Nat.le_trans (hfirst u hu) hlo
    have hstep : contains (r :: rest) n = true ↔ r.1 ≤ n ∧ (n ≤ r.2 ∨ contains rest n = true) := by
      simp [contains]
    rw [hstep, ih hrest, has_cons_iff]
    tauto

/-- Ranges that overlap or touch are joined without a loss, and start no later for it. -/
theorem joinFrom_spec (lo hi : Nat) {rest : List (Nat × Nat)} (hrest : Ascends rest)
    (hlo : ∀ r ∈ rest, lo ≤ r.1) :
    (joinFrom lo hi rest).Ascends ∧ (∀ r ∈ joinFrom lo hi rest, lo ≤ r.1) ∧
      ((joinFrom lo hi rest).Has n ↔ (lo ≤ n ∧ n ≤ hi) ∨ Has rest n) := by
  -- The bound on the starts is what keeps the joined range in front of the others.
  induction rest generalizing lo hi with
  | nil => simp [joinFrom, Ascends, Has]
  | cons r rest ih =>
    obtain ⟨a, b⟩ := r
    obtain ⟨hfirst, hrest⟩ := List.pairwise_cons.1 hrest
    have hla : lo ≤ a := hlo (a, b) (by simp)
    simp only [joinFrom]
    split
    · rename_i hjoin
      obtain ⟨hascends, hstarts, hhas⟩ := ih lo (max hi b) hrest
        fun r hr => hlo r (by simp [hr])
      refine ⟨hascends, hstarts, ?_⟩
      have hrange : (lo ≤ n ∧ n ≤ max hi b) ↔ (lo ≤ n ∧ n ≤ hi) ∨ a ≤ n ∧ n ≤ b := by
        omega
      rw [hhas, hrange, has_cons_iff, or_assoc]
    · obtain ⟨hascends, hstarts, hhas⟩ := ih a b hrest hfirst
      have hlater : ∀ r ∈ joinFrom a b rest, lo ≤ r.1 := fun r hr => Nat.le_trans hla (hstarts r hr)
      refine ⟨List.pairwise_cons.2 ⟨hlater, hascends⟩, ?_, ?_⟩
      · intro r hr
        rcases List.mem_cons.1 hr with rfl | hr
        · exact Nat.le_refl lo
        · exact hlater r hr
      · rw [has_cons_iff, hhas, has_cons_iff]

/-- Joining ranges that touch keeps them ascending and keeps what is in them. -/
theorem join_spec {rs : List (Nat × Nat)} (h : Ascends rs) :
    (join rs).Ascends ∧ ((join rs).Has n ↔ Has rs n) := by
  cases rs with
  | nil => exact ⟨h, Iff.rfl⟩
  | cons r rest =>
    obtain ⟨hfirst, hrest⟩ := List.pairwise_cons.1 h
    obtain ⟨hascends, -, hhas⟩ := joinFrom_spec (n := n) r.1 r.2 hrest hfirst
    exact ⟨hascends, by rw [has_cons_iff]; exact hhas⟩

theorem ascends_merge (hs : s.Ascends) (ht : t.Ascends) : Ascends (s.merge t startsBy) := by
  have htrans : ∀ a b c, startsBy a b = true → startsBy b c = true → startsBy a c = true := by
    simp only [startsBy_iff_leads]
    exact fun a b c => Trans.trans
  have htotal : ∀ a b, (startsBy a b || startsBy b a) = true := by
    simp only [Bool.or_eq_true, startsBy_iff_leads]
    exact fun a b => Nat.le_total a.1 b.1
  have hsorted := List.pairwise_merge htrans htotal s t (hs.imp startsBy_iff_leads.2)
    (ht.imp startsBy_iff_leads.2)
  exact hsorted.imp startsBy_iff_leads.1

theorem union_spec (hs : s.Ascends) (ht : t.Ascends) :
    (s.union t).Ascends ∧ ((s.union t).Has n ↔ s.Has n ∨ t.Has n) := by
  obtain ⟨hascends, hhas⟩ := join_spec (n := n) (ascends_merge hs ht)
  refine ⟨hascends, hhas.trans ?_⟩
  simp only [Has, List.mem_merge, or_and_right, exists_or]

theorem unionAll_spec {sets : List CodePoints} (h : ∀ s ∈ sets, Ascends s) :
    (unionAll sets).Ascends ∧ ((unionAll sets).Has n ↔ ∃ s ∈ sets, s.Has n) := by
  induction sets with
  | nil => simp [unionAll, Ascends, not_has_nil]
  | cons s rest ih =>
    obtain ⟨hascends, hhas⟩ := ih fun t ht => h t (by simp [ht])
    obtain ⟨hunion, hmem⟩ := union_spec (n := n) (h s (by simp)) hascends
    refine ⟨hunion, hmem.trans ?_⟩
    rw [hhas]
    simp

/-- To look into a union of ascending sets is to look into each of them. -/
theorem contains_unionAll {sets : List CodePoints} (h : ∀ s ∈ sets, Ascends s) :
    (unionAll sets).contains n = sets.any (·.contains n) := by
  obtain ⟨hascends, hhas⟩ := unionAll_spec (n := n) h
  rw [Bool.eq_iff_iff, contains_iff_has hascends, hhas, List.any_eq_true]
  exact exists_congr fun s => and_congr_right fun hs => (contains_iff_has (h s hs)).symm

end OutlineQuery.Text.CodePoints
