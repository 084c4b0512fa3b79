import Mathlib.Data.List.DropRight
import OutlineQuery.Expansion

/-!
Which terms of a reply an expansion takes. A term is new if it is not blank and its lowercase form
is neither that of the value nor that of any term before it. The terms taken are the first new ones,
as many as are allowed, without the blanks at their ends; so they never change when more are allowed
or more terms follow, but only get company behind them.
-/
namespace OutlineQuery

namespace Text

/-- Trimming drops blanks in front and then at the end. -/
theorem trimChars_eq_rdropWhile (cs : List Char) :
    trimChars cs = (cs.dropWhile isBlank).rdropWhile isBlank :=
  rfl

theorem trimChars_eq_nil_iff {cs : List Char} : trimChars cs = [] ↔ ∀ c ∈ cs, isBlank c = true := by
  rw [trimChars_eq_rdropWhile, List.rdropWhile_eq_nil_iff]
  constructor
  · intro h
    have hnil : cs.dropWhile isBlank = [] := by
      rw [← List.dropWhile_idempotent, List.dropWhile_eq_nil_iff]
      exact h
    exact List.dropWhile_eq_nil_iff.1 hnil
  · intro h
    rw [List.dropWhile_eq_nil_iff.2 h]
    simp

/-- What is left after trimming neither starts nor ends with a blank. -/
theorem trimChars_trimChars (cs : List Char) : trimChars (trimChars cs) = trimChars cs := by
  have hstart : (trimChars cs).dropWhile isBlank = trimChars cs := by
    -- It begins as what is left without the blanks in front does.
    obtain ⟨ends, hends⟩ : trimChars cs <+: cs.dropWhile isBlank := List.rdropWhile_prefix isBlank _
    cases htrim : trimChars cs with
    | nil => rfl
    | cons c rest =>
      rw [htrim] at hends
      have hne : cs.dropWhile isBlank ≠ [] := by simp [← hends]
      have hhead := List.head_dropWhile_not isBlank hne
      simp only [← hends, List.cons_append, List.head_cons] at hhead
      simp [hhead]
  rw [trimChars_eq_rdropWhile, hstart, trimChars_eq_rdropWhile, List.rdropWhile_idempotent]

theorem trim_trim (s : String) : trim (trim s) = trim s := by
  rw [trim, trim, String.toList_ofList, trimChars_trimChars]

theorem trim_eq_empty_iff {s : String} : trim s = "" ↔ isBlankText s = true := by
  rw [isBlankText, List.all_eq_true, ← trimChars_eq_nil_iff, trim, ← String.toList_inj,
    String.toList_ofList]
  rfl

theorem lowerChar_ne_nil (c : Char) : lowerChar c ≠ [] := by
  unfold lowerChar
  split
  · simp
  · split <;> simp

/-- Lowercasing leaves a character for every character. -/
theorem lowercase_eq_empty_iff {s : String} : lowercase s = "" ↔ s = "" := by
  rw [lowercase, ← String.toList_inj, ← String.toList_inj, String.toList_ofList]
  cases s.toList with
  | nil => simp [lowerCharsAfter]
  | cons c cs =>
    have hne := lowerChar_ne_nil c
    simp only [lowerCharsAfter]
    split <;> simp [hne]

end Text

namespace Expansion

open Text (trim lowercase isBlankText)

/-- Whether a term is new after some others: it is not blank, and its lowercase form is neither that
of the value nor that of one of them. -/
def isNew (value : String) (earlier : List String) (term : String) : Bool :=
  !isBlankText term && lowercase (trim term) != lowercase (trim value) &&
    earlier.all fun t => lowercase (trim term) != lowercase (trim t)

/-- The terms that are new after those before them, in order and without the blanks at their
ends. -/
def newTerms (value : String) (terms : List String) : List String :=
  (terms.zipIdx.filter fun p => isNew value (terms.take p.2) p.1).map fun p => trim p.1

variable {value : String}

/-- The new terms among those that follow some others. -/
def newTermsAfter (value : String) (earlier terms : List String) : List String :=
  ((terms.zipIdx earlier.length).filter fun p =>
    isNew value ((earlier ++ terms).take p.2) p.1).map fun p => trim p.1

theorem newTerms_eq (value : String) (terms : List String) :
    newTerms value terms = newTermsAfter value [] terms :=
  rfl

/-- A term is taken if it is new, and counts as seen for the others either way. -/
theorem newTermsAfter_cons (value : String) (earlier : List String) (t : String)
    (rest : List String) :
    newTermsAfter value earlier (t :: rest) =
      (if isNew value earlier t then [trim t] else []) ++
        newTermsAfter value (earlier ++ [t]) rest := by
  have hlength : (earlier ++ [t]).length = earlier.length + 1 := by simp
  have htake : (earlier ++ t :: rest).take earlier.length = earlier := List.take_left
  rw [newTermsAfter, newTermsAfter, List.zipIdx_cons, List.filter_cons, htake, hlength,
    List.append_assoc, List.singleton_append]
  split <;> rfl

/-- The forms seen so far are those of the value and of the terms before. A blank term has none, but
that makes no difference to a term that has one. -/
def Seen (value : String) (earlier : List String) (seen : List String) : Prop :=
  ∀ form, form ≠ "" → (form ∈ seen ↔
    form = lowercase (trim value) ∨ ∃ t ∈ earlier, form = lowercase (trim t))

theorem form_ne_empty {t : String} (h : isBlankText t = false) : lowercase (trim t) ≠ "" := by
  rw [Ne, Text.lowercase_eq_empty_iff, Text.trim_eq_empty_iff, h]
  exact Bool.false_ne_true

namespace Seen

variable {earlier seen : List String} {t : String}

/-- Where forms seen are recorded, a term is new if its form is not recorded. -/
theorem isNew_eq (h : Seen value earlier seen) (hblank : isBlankText t = false) :
    isNew value earlier t = !seen.contains (lowercase (trim t)) := by
  have hform := h _ (form_ne_empty hblank)
  rw [Bool.eq_iff_iff]
  simp only [isNew, hblank, Bool.not_false, Bool.true_and, Bool.and_eq_true, bne_iff_ne,
    List.all_eq_true, Bool.not_eq_true', List.contains_eq_mem, decide_eq_false_iff_not, hform,
    not_or, not_exists, not_and]

/-- After one more term the forms seen are those from before and its own. -/
theorem append {next : List String} (h : Seen value earlier seen)
    (hnext : ∀ form, form ≠ "" → (form ∈ next ↔ form ∈ seen ∨ form = lowercase (trim t))) :
    Seen value (earlier ++ [t]) next := by
  intro form hform
  rw [hnext form hform, h form hform]
  simp only [List.mem_append, List.mem_singleton, or_and_right, exists_or, exists_eq_left, or_assoc]

theorem blank (h : Seen value earlier seen) (hblank : isBlankText t = true) :
    Seen value (earlier ++ [t]) seen := by
  have hempty : lowercase (trim t) = "" := by
    rw [Text.lowercase_eq_empty_iff, Text.trim_eq_empty_iff, hblank]
  refine h.append fun form hform => ?_
  rw [hempty, or_iff_left hform]

theorem known (h : Seen value earlier seen) (hknown : lowercase (trim t) ∈ seen) :
    Seen value (earlier ++ [t]) seen := by
  refine h.append fun form _ => (or_iff_left_of_imp ?_).symm
  rintro rfl
  exact hknown

theorem fresh (h : Seen value earlier seen) :
    Seen value (earlier ++ [t]) (lowercase (trim t) :: seen) :=
  h.append fun _ _ => List.mem_cons.trans or_comm

end Seen

/-- The scan with the forms seen so far keeps the new terms. -/
theorem keepNew_eq {earlier seen : List String} (h : Seen value earlier seen)
    (terms : List String) :
    keepNew seen (terms.map trim) = newTermsAfter value earlier terms := by
  -- A term that is left out changes nothing in what the forms seen stand for, so `Seen` is kept.
  induction terms generalizing earlier seen with
  | nil => rfl
  | cons t rest ih =>
    rw [List.map_cons, keepNew, newTermsAfter_cons]
    cases hblank : isBlankText t with
    | true =>
      have hempty : (trim t).isEmpty = true := by
        rw [String.isEmpty_iff, Text.trim_eq_empty_iff, hblank]
      rw [hempty, Bool.true_or, if_pos rfl, ih (h.blank hblank)]
      simp [isNew, hblank]
    | false =>
      have hempty : (trim t).isEmpty = false := by
        rw [← Bool.not_eq_true, String.isEmpty_iff, Text.trim_eq_empty_iff, hblank]
        exact Bool.false_ne_true
      rw [hempty, Bool.false_or, h.isNew_eq hblank]
      cases hknown : seen.contains (lowercase (trim t)) with
      | true =>
        rw [if_pos rfl, ih (h.known (List.contains_iff_mem.1 hknown))]
        rfl
      | false =>
        rw [if_neg Bool.false_ne_true, ih h.fresh]
        rfl

/-- The loop takes new terms until it has enough. -/
theorem distinctTerms_eq_take (value : String) (terms : List String) (max : Nat) :
    distinctTerms value terms max = (newTerms value terms).take max := by
  have hseen : Seen value [] [lowercase (trim value)] := by
    intro form _
    simp
  rw [distinctTerms, keepNew_eq hseen, newTerms_eq]

/-! ## What the new terms are -/

/-- Later terms are compared with all the earlier ones. -/
theorem newTermsAfter_append (value : String) (earlier terms more : List String) :
    newTermsAfter value earlier (terms ++ more) =
      newTermsAfter value earlier terms ++ newTermsAfter value (earlier ++ terms) more := by
  induction terms generalizing earlier with
  | nil => simp [newTermsAfter]
  | cons t rest ih =>
    rw [List.cons_append, newTermsAfter_cons, newTermsAfter_cons, ih, List.append_assoc,
      List.append_assoc, List.singleton_append]

theorem isNew_of_append {earlier later : List String} {t : String}
    (h : isNew value (earlier ++ later) t = true) : isNew value earlier t = true := by
  simp only [isNew, List.all_append, Bool.and_eq_true] at h ⊢
  exact ⟨h.1, h.2.1⟩

theorem exists_of_mem_newTermsAfter {earlier terms : List String} {s : String}
    (h : s ∈ newTermsAfter value earlier terms) :
    ∃ t ∈ terms, trim t = s ∧ isNew value earlier t = true := by
  induction terms generalizing earlier with
  | nil => simp [newTermsAfter] at h
  | cons t rest ih =>
    rw [newTermsAfter_cons, List.mem_append] at h
    rcases h with h | h
    · split at h
      · rename_i hnew
        exact ⟨t, List.mem_cons_self, (List.mem_singleton.1 h).symm, hnew⟩
      · cases h
    · obtain ⟨u, hu, hs, hnew⟩ := ih h
      exact ⟨u, List.mem_cons_of_mem t hu, hs, isNew_of_append hnew⟩

/-- No two terms taken differ in case only. -/
theorem pairwise_newTermsAfter (value : String) (earlier terms : List String) :
    (newTermsAfter value earlier terms).Pairwise fun s t => lowercase s ≠ lowercase t := by
  induction terms generalizing earlier with
  | nil => exact .nil
  | cons t rest ih =>
    rw [newTermsAfter_cons]
    split
    · refine List.pairwise_cons.2 ⟨fun s hs => ?_, ih _⟩
      obtain ⟨u, -, rfl, hnew⟩ := exists_of_mem_newTermsAfter hs
      simp only [isNew, List.all_append, List.all_cons, List.all_nil, Bool.and_true,
        Bool.and_eq_true, bne_iff_ne] at hnew
      exact hnew.2.2.symm
    · exact ih _

/-- The terms that an expansion takes are the first new ones, as many as are allowed. So they are
terms of the list without the blanks at their ends, not empty, different from the value and from
each other by more than case, and if more are allowed or more terms follow, others only come behind
them. -/
theorem distinctTerms_takes (value : String) (terms : List String) (max : Nat) :
    distinctTerms value terms max = (newTerms value terms).take max ∧
    (∀ s ∈ distinctTerms value terms max, (∃ t ∈ terms, s = trim t) ∧ trim s = s ∧ s ≠ "" ∧
      lowercase s ≠ lowercase (trim value)) ∧
    (distinctTerms value terms max).Pairwise (fun s t => lowercase s ≠ lowercase t) ∧
    (distinctTerms value terms max).length ≤ max ∧
    ∀ further more, distinctTerms value terms max <+:
      distinctTerms value (terms ++ further) (max + more) := by
  have htake := distinctTerms_eq_take value terms max
  refine ⟨htake, ?_, ?_, ?_, ?_⟩
  · intro s hs
    rw [htake, newTerms_eq] at hs
    obtain ⟨t, ht, rfl, hnew⟩ := exists_of_mem_newTermsAfter (List.mem_of_mem_take hs)
    simp only [isNew, Bool.and_eq_true, Bool.not_eq_true', bne_iff_ne] at hnew
    refine ⟨⟨t, ht, rfl⟩, Text.trim_trim t, ?_, hnew.1.2⟩
    rw [Ne, Text.trim_eq_empty_iff, hnew.1.1]
    exact Bool.false_ne_true
  · rw [htake, newTerms_eq]
    exact (pairwise_newTermsAfter value [] terms).sublist (List.take_sublist max _)
  · rw [htake, List.length_take]
    exact Nat.min_le_left _ _
  · intro further more
    have happend := newTermsAfter_append value [] terms further
    rw [List.nil_append, ← newTerms_eq, ← newTerms_eq] at happend
    -- A greater number takes more of the same terms, and further terms come after them.
    have hmore : (newTerms value terms).take max <+: (newTerms value terms).take (max + more) :=
      List.take_prefix_take_left (Nat.le_add_right max more)
    have hfurther : (newTerms value terms).take (max + more) <+:
        (newTerms value (terms ++ further)).take (max + more) := by
      rw [happend, List.take_append]
      exact List.prefix_append _ _
    rw [htake, distinctTerms_eq_take]
    exact hmore.trans hfurther

/-- Terms of which some are blank or differ from others or from `AI` by case or blanks only. -/
def synonyms : List String :=
  ["ai", "LLM ", " ", "llm", "\u3000ML", "nets"]

theorem distinctTerms_takes_synonyms :
    "ML" ∈ distinctTerms " AI" synonyms 2 ∧ Text.trim "ML" = "ML" ∧
      (∃ t ∈ synonyms, "ML" = trim t) ∧ (newTerms " AI" synonyms).take 2 = ["LLM", "ML"] ∧
      ["LLM", "ML"] <+: distinctTerms " AI" (synonyms ++ ["agents"]) 5 := by
  have hterms : distinctTerms " AI" synonyms 2 = ["LLM", "ML"] := by decide +kernel
  obtain ⟨htake, hmem, -, -, hextends⟩ := distinctTerms_takes " AI" synonyms 2
  have hml : "ML" ∈ distinctTerms " AI" synonyms 2 := by simp [hterms]
  obtain ⟨hfrom, htrim, -, -⟩ := hmem "ML" hml
  exact ⟨hml, htrim, hfrom, htake ▸ hterms, hterms ▸ hextends ["agents"] 3⟩

end Expansion

end OutlineQuery
