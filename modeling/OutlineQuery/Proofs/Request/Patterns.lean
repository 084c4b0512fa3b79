import OutlineQuery.Proofs.Expansion.Shape
import OutlineQuery.Proofs.Request.Resolution

/-!
Which raw patterns a request has if none of them was reported: only ones that are accepted.
-/
namespace OutlineQuery

open Regex (isAccepted)

def Unsuspected (notes : List Diagnostic) : Prop :=
  ∀ d ∈ notes, d.code ≠ .suspectPattern

def RawAccepted (cs : List Condition) : Prop :=
  ∀ c ∈ cs, c.isRaw = true → isAccepted c.value = true

theorem unsuspected_append {notes notes' : List Diagnostic} :
    Unsuspected (notes ++ notes') ↔ Unsuspected notes ∧ Unsuspected notes' :=
  List.forall_mem_append

theorem Search.Body.conditions_eq_flatMap_sets (b : Search.Body) :
    b.conditions = b.sets.flatMap (·.conditions) := by
  cases b <;> simp [conditions, sets]

/-- A raw pattern that is not accepted is reported if its condition is kept. -/
theorem ConditionSpec.suspectPattern_mem_reports {c : ConditionSpec} (husable : c.isUsable = true)
    (h : c.isSuspect = true) : .suspectPattern ∈ c.reports := by
  have hvalue : Text.isBlankText c.value = false := by simpa [isUsable] using husable
  simp [reports, hvalue, h]

namespace Request

variable {r : Request} {config : Config}

/-- Where no pattern is reported, no condition that is kept has one that is not accepted. -/
theorem isSuspect_eq_false (h : Unsuspected r.notes) {c : ConditionSpec}
    (hc : c ∈ ConditionSpec.usable r.conditionSpecs) : c.isSuspect = false := by
  obtain ⟨hmem, husable⟩ := List.mem_filter.1 hc
  obtain ⟨g, hg, hcg⟩ := List.mem_flatMap.1 hmem
  rw [Bool.eq_false_iff]
  intro hsuspect
  have hreport : .suspectPattern ∈ g.reports :=
    List.mem_append_left _
      (List.mem_flatMap.2 ⟨c, hcg, ConditionSpec.suspectPattern_mem_reports husable hsuspect⟩)
  have hcode : .suspectPattern ∈ r.notes.map (·.code) := by
    rw [map_code_notes]
    exact List.mem_flatMap.2 ⟨g, hg, hreport⟩
  obtain ⟨d, hd, hdcode⟩ := List.mem_map.1 hcode
  exact h d hd hdcode

/-- If no pattern is reported, all raw patterns of the search are accepted. -/
theorem rawAccepted_resolve {search : Noted Search} (h : r.resolve config = .ok search)
    (hnotes : Unsuspected search.notes) : RawAccepted search.value.body.conditions := by
  obtain ⟨hmeant, hsame⟩ := eq_meant_of_resolve h
  rw [Search.Body.conditions_eq_flatMap_sets, conditions_of_bodyMeant? hmeant]
  rw [hsame] at hnotes
  intro c hc hraw
  obtain ⟨spec, hspec, rfl⟩ := List.mem_map.1 hc
  have hclear := isSuspect_eq_false hnotes hspec
  rw [ConditionSpec.isSuspect, hraw, Bool.true_and, Bool.not_eq_false'] at hclear
  exact hclear

end Request

end OutlineQuery
