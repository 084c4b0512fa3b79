import Mathlib.Data.List.Infix
import OutlineQuery.Request.Resolution

/-!
Which spellings mean which operator. The long forms of `flex_` and `linked_` are shortened wherever
they first occur, but every name has the short forms only at its start, so this gives no name but
where they stand at the start as well. The words `strict_` and `deep_` are dropped before any name.
-/
namespace OutlineQuery

namespace Text

/-- A word occurs in a name only at its start. -/
def LeadsOnly (word name : List Char) : Prop :=
  ∀ before after, name = before ++ (word ++ after) → before = []

/-- A word that begins no proper end of a name can stand only at its front. -/
theorem leadsOnly_of_tails {word name : List Char}
    (h : name.tail.tails.all (!word.isPrefixOf ·) = true) : LeadsOnly word name := by
  intro before after hname
  cases before with
  | nil => rfl
  | cons c before =>
    have hsuffix : word ++ after ∈ name.tail.tails := by
      rw [hname]
      exact (List.mem_tails _ _).2 (List.suffix_append before _)
    have hstarts : word.isPrefixOf (word ++ after) = true :=
      List.isPrefixOf_iff_prefix.2 (List.prefix_append word after)
    have hnot := List.all_eq_true.1 h _ hsuffix
    rw [hstarts] at hnot
    cases hnot

/-- At most one occurrence of a text is replaced. -/
theorem replaceFirst_cases (old new cs : List Char) :
    replaceFirst old new cs = cs ∨ ∃ before after, cs = before ++ (old ++ after) ∧
      replaceFirst old new cs = before ++ (new ++ after) := by
  induction cs with
  | nil => exact .inl rfl
  | cons c cs ih =>
    rw [replaceFirst]
    split
    · rename_i hstarts
      have hsplit := List.prefix_iff_eq_append.1 (List.isPrefixOf_iff_prefix.1 hstarts)
      exact .inr ⟨[], _, hsplit.symm, rfl⟩
    · rcases ih with hsame | ⟨before, after, hcs, hreplaced⟩
      · exact .inl (by rw [hsame])
      · refine .inr ⟨c :: before, after, ?_, ?_⟩
        · rw [hcs, List.cons_append]
        · rw [hreplaced, List.cons_append]

/-- Where the new word occurs only at the start of the result, it was put there. -/
theorem eq_or_of_replaceFirst_eq {old new cs name : List Char} (hname : LeadsOnly new name)
    (h : replaceFirst old new cs = name) :
    cs = name ∨ ∃ rest, name = new ++ rest ∧ cs = old ++ rest := by
  rcases replaceFirst_cases old new cs with hsame | ⟨before, after, hcs, hreplaced⟩
  · exact .inl (hsame.symm.trans h)
  · have hsplit : name = before ++ (new ++ after) := h.symm.trans hreplaced
    obtain rfl := hname before after hsplit
    exact .inr ⟨after, hsplit, hcs⟩

end Text

namespace Operator

/-- The spellings that say what an operator is: its name, its name after the word for its strength,
and its name with `flex_` or `linked_` in full. -/
def Names (op : Operator) (n : String) : Prop :=
  n = op.name ∨
  (op.strength = .strict ∧ n = "strict_" ++ op.name) ∨
  (op.strength = .deep ∧ n = "deep_" ++ op.name) ∨
  (∃ rest, op.name = "flex_" ++ rest ∧ n = "flexible_" ++ rest) ∨
  ∃ rest, op.name = "linked_" ++ rest ∧ n = "bidirectional_" ++ rest

/-- The spellings with the word for a strength that the operator does not have. -/
def Mislabels (op : Operator) (n : String) : Prop :=
  (op.strength ≠ .strict ∧ n = "strict_" ++ op.name) ∨
  (op.strength ≠ .deep ∧ n = "deep_" ++ op.name)

/-- The abbreviations stand only at the front of a name. -/
theorem leadsOnly_name (op : Operator) :
    Text.LeadsOnly "flex_".toList op.name.toList ∧
      Text.LeadsOnly "linked_".toList op.name.toList := by
  cases op <;> exact ⟨Text.leadsOnly_of_tails (by decide), Text.leadsOnly_of_tails (by decide)⟩

/-- A name with `linked_` in full has no `flex_` behind its start. -/
theorem leadsOnly_bidirectional {op : Operator} {rest : List Char}
    (h : op.name.toList = "linked_".toList ++ rest) :
    Text.LeadsOnly "flex_".toList ("bidirectional_".toList ++ rest) := by
  have hrest : rest = op.name.toList.drop 7 := by
    rw [h]
    rfl
  rw [hrest]
  cases op <;> exact Text.leadsOnly_of_tails (by decide)

/-- Shortening a spelling without a word for a strength in front. -/
theorem shortened_eq_iff {n : List Char} {op : Operator} :
    Text.replaceFirst "bidirectional_".toList "linked_".toList
        (Text.replaceFirst "flexible_".toList "flex_".toList n) = op.name.toList ↔
      n = op.name.toList ∨
      (∃ rest, op.name.toList = "flex_".toList ++ rest ∧ n = "flexible_".toList ++ rest) ∨
      ∃ rest, op.name.toList = "linked_".toList ++ rest ∧ n = "bidirectional_".toList ++ rest := by
  obtain ⟨hflex, hlinked⟩ := leadsOnly_name op
  constructor
  · intro h
    rcases Text.eq_or_of_replaceFirst_eq hlinked h with hname | ⟨rest, hname, hlong⟩
    · rcases Text.eq_or_of_replaceFirst_eq hflex hname with hsame | hlong
      · exact .inl hsame
      · exact .inr (.inl hlong)
    · -- Both long forms at once would leave a `flex_` at the start of `bidirectional_`.
      rcases Text.eq_or_of_replaceFirst_eq (leadsOnly_bidirectional hname) hlong with
        hsame | ⟨other, hother, -⟩
      · exact .inr (.inr ⟨rest, hname, hsame⟩)
      · cases hother
  · rintro (rfl | ⟨rest, hname, rfl⟩ | ⟨rest, hname, rfl⟩)
    · cases op <;> decide
    · have hshort : Text.replaceFirst "flexible_".toList "flex_".toList
          ("flexible_".toList ++ rest) = op.name.toList := by
        rw [hname]
        rfl
      rw [hshort]
      cases op <;> decide
    · have hrest : rest = op.name.toList.drop 7 := by
        rw [hname]
        rfl
      subst hrest
      revert hname
      cases op <;> decide

/-- A name is shortened to that of an operator if it is the name, or has a word too many in front,
or one of two words written out. -/
theorem shortName_eq_iff {n : List Char} {op : Operator} :
    shortName n = op.name.toList ↔
      n = op.name.toList ∨
      n = "strict_".toList ++ op.name.toList ∨
      n = "deep_".toList ++ op.name.toList ∨
      (∃ rest, op.name.toList = "flex_".toList ++ rest ∧ n = "flexible_".toList ++ rest) ∨
      ∃ rest, op.name.toList = "linked_".toList ++ rest ∧ n = "bidirectional_".toList ++ rest := by
  constructor
  · intro h
    unfold shortName at h
    split at h
    · rename_i hstarts
      have hsplit := List.prefix_iff_eq_append.1 (List.isPrefixOf_iff_prefix.1 hstarts)
      rw [h] at hsplit
      exact .inr (.inl hsplit.symm)
    · split at h
      · rename_i hstarts
        have hsplit := List.prefix_iff_eq_append.1 (List.isPrefixOf_iff_prefix.1 hstarts)
        rw [h] at hsplit
        exact .inr (.inr (.inl hsplit.symm))
      · rcases shortened_eq_iff.1 h with hname | hlong
        · exact .inl hname
        · exact .inr (.inr (.inr hlong))
  · rintro (rfl | rfl | rfl | hlong)
    · cases op <;> decide
    · rfl
    · rfl
    · -- Neither long form starts like a word for another strength.
      have hlater : shortName n = Text.replaceFirst "bidirectional_".toList "linked_".toList
          (Text.replaceFirst "flexible_".toList "flex_".toList n) := by
        rcases hlong with ⟨rest, -, rfl⟩ | ⟨rest, -, rfl⟩ <;> rfl
      rw [hlater]
      exact shortened_eq_iff.2 (.inr hlong)

theorem find?_name (op : Operator) : all.find? (·.name == op.name) = some op := by
  cases op <;> decide

theorem ofString?_eq_some_iff {s : String} {op : Operator} :
    ofString? s = some op ↔ shortName (Text.canonicalName s).toList = op.name.toList := by
  constructor
  · intro h
    rw [ofString?] at h
    have hname := List.find?_some h
    rw [beq_iff_eq] at hname
    rw [hname, String.toList_ofList]
  · intro h
    rw [ofString?, h, String.ofList_toList]
    exact find?_name op

theorem exists_rest_iff {name n short long : String} :
    (∃ rest, name.toList = short.toList ++ rest ∧ n.toList = long.toList ++ rest) ↔
      ∃ rest, name = short ++ rest ∧ n = long ++ rest := by
  constructor
  · rintro ⟨rest, hname, hn⟩
    refine ⟨String.ofList rest, String.toList_inj.1 ?_, String.toList_inj.1 ?_⟩
    · rw [hname, String.toList_append, String.toList_ofList]
    · rw [hn, String.toList_append, String.toList_ofList]
  · rintro ⟨rest, rfl, rfl⟩
    exact ⟨rest.toList, String.toList_append, String.toList_append⟩

/-- What a typed name means, in its canonical spelling. -/
theorem ofString?_iff_names {s : String} {op : Operator} :
    ofString? s = some op ↔
      op.Names (Text.canonicalName s) ∨ op.Mislabels (Text.canonicalName s) := by
  have hword (word : String) : (Text.canonicalName s).toList = word.toList ++ op.name.toList ↔
      Text.canonicalName s = word ++ op.name := by
    rw [← String.toList_append, String.toList_inj]
  rw [ofString?_eq_some_iff, shortName_eq_iff, String.toList_inj, hword "strict_", hword "deep_",
    exists_rest_iff, exists_rest_iff]
  constructor
  · rintro (hname | hname | hname | hname | hname)
    · exact .inl (.inl hname)
    · by_cases hstrict : op.strength = .strict
      · exact .inl (.inr (.inl ⟨hstrict, hname⟩))
      · exact .inr (.inl ⟨hstrict, hname⟩)
    · by_cases hdeep : op.strength = .deep
      · exact .inl (.inr (.inr (.inl ⟨hdeep, hname⟩)))
      · exact .inr (.inr ⟨hdeep, hname⟩)
    · exact .inl (.inr (.inr (.inr (.inl hname))))
    · exact .inl (.inr (.inr (.inr (.inr hname))))
  · rintro ((hname | hname | hname | hname | hname) | hname | hname)
    · exact .inl hname
    · exact .inr (.inl hname.2)
    · exact .inr (.inr (.inl hname.2))
    · exact .inr (.inr (.inr (.inl hname)))
    · exact .inr (.inr (.inr (.inr hname)))
    · exact .inr (.inl hname.2)
    · exact .inr (.inr (.inl hname.2))

theorem append_ne_append {a b : String} {c d : Char} (ha : a.toList.head? = some c)
    (hb : b.toList.head? = some d) (h : c ≠ d) (x y : String) : a ++ x ≠ b ++ y := by
  intro hab
  have hhead : some c = some d := calc
    some c = (a ++ x).toList.head? := by simp [List.head?_append, ha]
    _ = (b ++ y).toList.head? := by rw [hab]
    _ = some d := by simp [List.head?_append, hb]
  exact h (Option.some.inj hhead)

/-- A spelling with a word for the wrong strength does not say what the operator is. -/
theorem not_names_of_mislabels {op : Operator} {n : String} (h : op.Mislabels n) :
    ¬op.Names n := by
  have hlonger {word : String} (hword : 0 < word.length) : word ++ op.name ≠ op.name := by
    intro hname
    have hlength := congrArg String.length hname
    rw [String.length_append] at hlength
    omega
  have hapart {a b : String} {c d : Char} (hc : a.toList.head? = some c)
      (hd : b.toList.head? = some d) (hcd : c ≠ d) {x y : String} (hxy : a ++ x = b ++ y) : False :=
    append_ne_append hc hd hcd x y hxy
  rcases h with ⟨hstrength, rfl⟩ | ⟨hstrength, rfl⟩
  · rintro (hname | hname | hname | ⟨rest, -, hname⟩ | ⟨rest, -, hname⟩)
    · exact hlonger (by decide) hname
    · exact hstrength hname.1
    · exact hapart rfl rfl (by decide) hname.2
    · exact hapart rfl rfl (by decide) hname
    · exact hapart rfl rfl (by decide) hname
  · rintro (hname | hname | hname | ⟨rest, -, hname⟩ | ⟨rest, -, hname⟩)
    · exact hlonger (by decide) hname
    · exact hapart rfl rfl (by decide) hname.2
    · exact hstrength hname.1
    · exact hapart rfl rfl (by decide) hname
    · exact hapart rfl rfl (by decide) hname

/-- A typed name means an operator exactly if its canonical spelling says what the operator is, or
says it after the word for a strength that the operator does not have. Every other name is reported
as it was typed. -/
theorem ofString?_readings (s : String) :
    (∀ op, ofString? s = some op ↔
      op.Names (Text.canonicalName s) ∨ op.Mislabels (Text.canonicalName s)) ∧
    (∀ op, (ofString? s = some op ↔ op.Names (Text.canonicalName s)) ↔
      ¬op.Mislabels (Text.canonicalName s)) ∧
    ((∀ op : Operator,
        ¬op.Names (Text.canonicalName s) ∧ ¬op.Mislabels (Text.canonicalName s)) →
      ∀ left right, HierarchySpec.resolve ⟨left, s, right⟩ = .error (.unknownOperator s)) := by
  refine ⟨fun op => ofString?_iff_names, ?_, ?_⟩
  · intro op
    rw [ofString?_iff_names]
    constructor
    · intro hiff hlabel
      exact not_names_of_mislabels hlabel (hiff.1 (.inr hlabel))
    · intro hlabel
      exact or_iff_left hlabel
  · intro hnone left right
    have hread : ofString? s = none := by
      rw [Option.eq_none_iff_forall_ne_some]
      intro op hop
      rcases ofString?_iff_names.1 hop with hname | hlabel
      · exact (hnone op).1 hname
      · exact (hnone op).2 hlabel
    rw [HierarchySpec.resolve, hread]

/-- The word for a strength does not keep a name from meaning an operator of another one. -/
theorem strength_words_passed_over :
    (ofString? "strict_ancestor_of" = some .ancestorOf ∧ ancestorOf.strength = .deep ∧
      ¬ancestorOf.Names (Text.canonicalName "strict_ancestor_of")) ∧
    ofString? " Deep Child-Of" = some .childOf ∧ childOf.strength = .strict ∧
      ¬childOf.Names (Text.canonicalName " Deep Child-Of") := by
  have hancestor : ancestorOf.Mislabels (Text.canonicalName "strict_ancestor_of") :=
    .inl ⟨by decide, by decide⟩
  have hchild : childOf.Mislabels (Text.canonicalName " Deep Child-Of") :=
    .inr ⟨by decide, by decide⟩
  exact ⟨⟨ofString?_iff_names.2 (.inr hancestor), rfl, not_names_of_mislabels hancestor⟩,
    ofString?_iff_names.2 (.inr hchild), rfl, not_names_of_mislabels hchild⟩

end Operator

end OutlineQuery
