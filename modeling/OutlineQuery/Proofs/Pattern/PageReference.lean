import OutlineQuery.Proofs.Pattern.Phrases

/-!
Where the pattern for a page is found. After a name that ends in a letter, a number or an underscore
a tag must come to a boundary of words, which is meant to keep longer tags out. It does so for just
the names of which the last character belongs to words if and only if it is one of those.
-/
namespace OutlineQuery

open Regex (Ast Finds Phrase isWord)

namespace Pattern

def endsInWord (cs : List Char) : Bool :=
  cs.getLast?.any (isWord true)

def startsInWord (cs : List Char) : Bool :=
  cs.head?.any (isWord true)

/-- A tag with this name must come to a boundary of words. -/
def asksBoundary (name : List Char) : Bool :=
  name.getLast?.any isWordChar

/-- The ways in which a text refers to a page: the name in double brackets, the name with two colons
after it, and the name with a hash before it where a tag may end. -/
inductive Refers (ends : List Char → Prop) (name text : List Char) : Prop where
  | link (h : ['[', '['] ++ name ++ [']', ']'] <:+: text)
  | key (h : name ++ [':', ':'] <:+: text)
  | tag (before after : List Char) (h : before ++ '#' :: name ++ after = text) (hends : ends after)

/-- A name that ends in a word is not followed by more of the word. -/
def EndsWord (name after : List Char) : Prop :=
  endsInWord name = true → startsInWord after = false

/-- A boundary of words follows the name, if there must be one. -/
def EndsAtBoundary (name after : List Char) : Prop :=
  asksBoundary name = true → endsInWord name ≠ startsInWord after

variable {name : String} {text : List Char}

/-- The phrase for a link occurs where the name stands in double brackets. -/
theorem occurs_linkPhrase_iff : (linkPhrase name).Occurs (.ofCase false) text ↔
    ['[', '['] ++ name.toList ++ [']', ']'] <:+: text := by
  apply Phrase.occurs_iff_isInfix
  simp only [linkPhrase, Phrase.items_append, Phrase.items_escaped, Ast.literals, List.map_append]

/-- The phrase for a key occurs where the name stands before two colons. -/
theorem occurs_keyPhrase_iff : (keyPhrase name).Occurs (.ofCase false) text ↔
    name.toList ++ [':', ':'] <:+: text := by
  apply Phrase.occurs_iff_isInfix
  rw [keyPhrase, Phrase.items_append, Phrase.items_append, Phrase.items_escaped, List.append_assoc,
    Ast.literals, Ast.literals, List.map_append]
  rfl

theorem items_tagPhrase : (tagPhrase name).items =
    Ast.literals ('#' :: name.toList) ++ (tagEnd name).items := by
  rw [tagPhrase, Phrase.items_append, Phrase.items_append, Phrase.items_escaped]
  rfl

/-- The phrase for a tag occurs where the name stands after a hash sign, and ends at a boundary if
it asks for one. -/
theorem occurs_tagPhrase_iff : (tagPhrase name).Occurs (.ofCase false) text ↔
    ∃ before after, before ++ '#' :: name.toList ++ after = text ∧
      EndsAtBoundary name.toList after := by
  cases hasks : asksBoundary name.toList with
  | false =>
    have hend : (tagEnd name).items = [] := by
      rw [tagEnd, ← asksBoundary, hasks]
      rfl
    have hitems : (tagPhrase name).items = Ast.literals ('#' :: name.toList) := by
      rw [items_tagPhrase, hend, List.append_nil]
    rw [Phrase.occurs_iff_isInfix hitems]
    simp [List.IsInfix, EndsAtBoundary, hasks]
  | true =>
    have hend : (tagEnd name).items = [.assertion .wordBoundary] := by
      rw [tagEnd, ← asksBoundary, hasks]
      rfl
    have hitems : (tagPhrase name).items =
        Ast.literals ('#' :: name.toList) ++ [.assertion .wordBoundary] := by
      rw [items_tagPhrase, hend]
    -- The name is not empty, so what stands before the boundary is its last character, not the hash.
    have hlast : ('#' :: name.toList).getLast? = name.toList.getLast? := by
      cases hname : name.toList with
      | nil => simp [asksBoundary, hname] at hasks
      | cons c cs => rfl
    rw [Phrase.occurs_iff_boundary (by simp) hitems, hlast]
    simp only [EndsAtBoundary, hasks, true_implies, endsInWord, startsInWord]

/-- The pattern for a page is found where the page is referred to, with a boundary after the tag. -/
theorem finds_source_iff_refers {c : Condition} (hkind : c.kind = .pageReference)
    (hraw : c.isRaw = false) (text : String) :
    Finds (c.source false) text ↔
      Refers (EndsAtBoundary c.value.toList) c.value.toList text.toList := by
  have hphrases : c.choice.phrases = [linkPhrase c.value, tagPhrase c.value, keyPhrase c.value] := by
    rw [Condition.choice, hkind]
    rfl
  rw [Condition.finds_source_iff hraw, hphrases]
  simp only [List.mem_cons, List.not_mem_nil, or_false, exists_eq_or_imp, exists_eq_left,
    occurs_linkPhrase_iff, occurs_tagPhrase_iff, occurs_keyPhrase_iff]
  constructor
  · rintro (hlink | ⟨before, after, htext, hends⟩ | hkey)
    · exact .link hlink
    · exact .tag before after htext hends
    · exact .key hkey
  · rintro (hlink | hkey | ⟨before, after, htext, hends⟩)
    · exact .inl hlink
    · exact .inr (.inr hkey)
    · exact .inr (.inl ⟨before, after, htext, hends⟩)

namespace Refers

variable {ends ends' : List Char → Prop} {name text : List Char}

/-- A name that is referred to under a condition on what follows a tag is so under any weaker
one. -/
theorem imp (h : ∀ after, ends after → ends' after) (hrefers : Refers ends name text) :
    Refers ends' name text := by
  cases hrefers with
  | link hlink => exact .link hlink
  | key hkey => exact .key hkey
  | tag before after htext hends => exact .tag before after htext (h after hends)

/-- The tag alone leaves room for no other way to refer to the page. -/
theorem hash_iff : Refers ends name ('#' :: name) ↔ ends [] := by
  constructor
  · intro hrefers
    cases hrefers with
    | link h =>
      have hlength := h.length_le
      simp only [List.length_append, List.length_cons, List.length_nil] at hlength
      omega
    | key h =>
      have hlength := h.length_le
      simp only [List.length_append, List.length_cons, List.length_nil] at hlength
      omega
    | tag before after h hends =>
      have hlength := congrArg List.length h
      simp only [List.length_append, List.length_cons] at hlength
      have hafter : after = [] := List.eq_nil_of_length_eq_zero (by omega)
      rwa [hafter] at hends
  · intro hends
    exact .tag [] [] (by simp) hends

/-- Nor does the tag with one more character, unless this one could be the last of the name. -/
theorem hash_append_iff {c : Char} (hcolon : c ≠ ':') (hlast : name.getLast? ≠ some c)
    (hne : name ≠ []) : Refers ends name ('#' :: name ++ [c]) ↔ ends [c] := by
  have hend : ('#' :: name ++ [c]).getLast? = some c := List.getLast?_concat
  constructor
  · intro hrefers
    cases hrefers with
    | link h =>
      have hlength := h.length_le
      simp only [List.length_append, List.length_cons, List.length_nil] at hlength
      omega
    | key h =>
      -- The two are of one length, and differ in the last character.
      have heq : name ++ [':', ':'] = '#' :: name ++ [c] := h.eq_of_length (by simp)
      have hkey : (name ++ [':', ':']).getLast? = some ':' := by simp
      rw [heq, hend] at hkey
      exact absurd (Option.some.inj hkey) hcolon
    | tag before after h hends =>
      have hlength := congrArg List.length h
      simp only [List.length_append, List.length_cons, List.length_nil] at hlength
      cases before with
      | nil =>
        have hafter : after = [c] := by simpa using h
        rwa [hafter] at hends
      | cons x before =>
        -- The tag would start one place later, and its name end in the character added.
        rw [List.length_cons] at hlength
        have hbefore : before = [] := List.eq_nil_of_length_eq_zero (by omega)
        have hafter : after = [] := List.eq_nil_of_length_eq_zero (by omega)
        rw [hbefore, hafter, List.append_nil] at h
        have htag : ([x] ++ '#' :: name).getLast? = name.getLast? := by
          obtain ⟨d, ds, rfl⟩ := List.exists_cons_of_ne_nil hne
          rfl
        rw [h, hend] at htag
        exact absurd htag.symm hlast
  · intro hends
    exact .tag [] [c] (by simp) hends

end Refers

theorem isWord_a : isWord true 'a' = true := by
  rw [Regex.isWord_eq_any]
  decide +kernel

/-- Whether a name ends in a word is looked up for its last character in the tables of words. -/
theorem endsInWord_eq_any (cs : List Char) :
    endsInWord cs = cs.getLast?.any fun c => Regex.wordTables.any (·.contains c.toNat) := by
  rw [endsInWord, funext Regex.isWord_eq_any]

/-- The boundary keeps out just what it is meant to keep out if and only if it is asked for after
just the names that end in a word. -/
theorem forall_refers_iff {name : List Char} :
    (∀ text, Refers (EndsAtBoundary name) name text ↔ Refers (EndsWord name) name text) ↔
      asksBoundary name = endsInWord name := by
  constructor
  · intro hsame
    by_contra hdiffers
    cases hasks : asksBoundary name with
    | false =>
      -- A letter after the tag makes the word longer, and nothing keeps the longer tag out.
      have hword : endsInWord name = true := by simpa [hasks] using hdiffers
      have hne : name ≠ [] := by
        rintro rfl
        simp [endsInWord] at hword
      have hlast : name.getLast? ≠ some 'a' := by
        intro hlast
        have ha : isWordChar 'a' = true := by decide +kernel
        simp [asksBoundary, hlast, ha] at hasks
      have hlonger := hsame ('#' :: name ++ ['a'])
      rw [Refers.hash_append_iff (by decide) hlast hne, Refers.hash_append_iff (by decide) hlast hne]
        at hlonger
      have hends : EndsAtBoundary name ['a'] := fun hboundary => by simp [hasks] at hboundary
      have hstarts : startsInWord ['a'] = false := hlonger.1 hends hword
      simp [startsInWord, isWord_a] at hstarts
    | true =>
      -- At the end of the text, after what is no word, there is no boundary.
      have hword : endsInWord name = false := by simpa [hasks] using hdiffers
      have hown := hsame ('#' :: name)
      rw [Refers.hash_iff, Refers.hash_iff] at hown
      have hends : EndsWord name [] := fun _ => rfl
      exact hown.2 hends hasks hword
  · intro hagree text
    have hends (after : List Char) : EndsAtBoundary name after ↔ EndsWord name after := by
      rw [EndsAtBoundary, EndsWord, hagree]
      cases endsInWord name <;> simp
    exact ⟨Refers.imp fun after => (hends after).1, Refers.imp fun after => (hends after).2⟩

theorem refers_link {ends : List Char → Prop} (name : List Char) :
    Refers ends name (['[', '['] ++ name ++ [']', ']']) :=
  .link (List.infix_rfl)

theorem refers_key {ends : List Char → Prop} (name : List Char) :
    Refers ends name (name ++ [':', ':']) :=
  .key (List.infix_rfl)

/-- At the end of a text a tag is found unless it asks for a boundary and there is none. -/
theorem endsAtBoundary_nil_iff {name : List Char} :
    EndsAtBoundary name [] ↔ (asksBoundary name = true → endsInWord name = true) := by
  have hnil : startsInWord [] = false := rfl
  rw [EndsAtBoundary, hnil, Bool.ne_false_iff]

/-- The pattern for a page is found in just the texts that refer to it, with a boundary after the
tag if the name ends in a letter, a number or an underscore. That a tag is not part of a longer word
is what this comes to exactly if the last character of the name is one of these just when it belongs
to words. The link and the key alone are always found. -/
theorem finds_pageReference_iff {c : Condition} (hkind : c.kind = .pageReference)
    (hraw : c.isRaw = false) :
    (∀ text : String, Finds (c.source false) text ↔
      Refers (EndsAtBoundary c.value.toList) c.value.toList text.toList) ∧
    ((∀ text : String, Finds (c.source false) text ↔
        Refers (EndsWord c.value.toList) c.value.toList text.toList) ↔
      asksBoundary c.value.toList = endsInWord c.value.toList) ∧
    Finds (c.source false) ("[[" ++ c.value ++ "]]") ∧ Finds (c.source false) (c.value ++ "::") ∧
    (Finds (c.source false) ("#" ++ c.value) ↔
      (asksBoundary c.value.toList = true → endsInWord c.value.toList = true)) := by
  have hfinds := finds_source_iff_refers hkind hraw
  refine ⟨hfinds, ?_, ?_, ?_, ?_⟩
  · rw [← forall_refers_iff]
    simp only [hfinds]
    refine ⟨fun h text => ?_, fun h text => h text.toList⟩
    have htext := h (String.ofList text)
    rwa [String.toList_ofList] at htext
  · rw [hfinds, String.toList_append, String.toList_append]
    exact refers_link _
  · rw [hfinds, String.toList_append]
    exact refers_key _
  · rw [hfinds, String.toList_append, ← endsAtBoundary_nil_iff]
    exact Refers.hash_iff

def namedPage (name : String) : Condition :=
  ⟨.pageReference, name, .contains, false, Binary64.one, none⟩

theorem finds_pageReference_iff_AI :
    ((namedPage "AI").kind = .pageReference ∧ (namedPage "AI").isRaw = false) ∧
      ∀ text : String, Finds ((namedPage "AI").source false) text ↔
        Refers (EndsWord "AI".toList) "AI".toList text.toList := by
  have hasks : asksBoundary ['A', 'I'] = true := by decide +kernel
  have hword : endsInWord ['A', 'I'] = true := by
    rw [endsInWord_eq_any]
    decide +kernel
  have hagree : asksBoundary "AI".toList = endsInWord "AI".toList := hasks.trans hword.symm
  exact ⟨⟨rfl, rfl⟩, (finds_pageReference_iff rfl rfl).2.1.2 hagree⟩

/-- Neither half of the boundary does what it is meant to do after every name. A square, which is a
number but belongs to no word, keeps the tag from being found at all; an accent that is a character
of its own, which belongs to a word but is no letter, lets longer tags in. -/
theorem boundary_after_square_and_accent :
    (Refers (EndsWord "m²".toList) "m²".toList "#m²".toList ∧
      ¬Finds ((namedPage "m²").source false) "#m²") ∧
    (Finds ((namedPage "e\u0301").source false) "#e\u0301a" ∧
      ¬Refers (EndsWord "e\u0301".toList) "e\u0301".toList "#e\u0301a".toList) := by
  have hsquare : asksBoundary ['m', '²'] = true := by decide +kernel
  have hsquareWord : endsInWord ['m', '²'] = false := by
    rw [endsInWord_eq_any]
    decide +kernel
  have haccent : asksBoundary ['e', '\u0301'] = false := by decide +kernel
  have haccentWord : endsInWord ['e', '\u0301'] = true := by
    rw [endsInWord_eq_any]
    decide +kernel
  refine ⟨⟨.tag [] [] rfl fun _ => rfl, ?_⟩, ?_, ?_⟩
  · rw [finds_source_iff_refers rfl rfl]
    intro hrefers
    have hends := endsAtBoundary_nil_iff.1 (Refers.hash_iff.1 hrefers) hsquare
    exact Bool.false_ne_true (hsquareWord.symm.trans hends)
  · rw [finds_source_iff_refers rfl rfl]
    exact .tag [] ['a'] rfl fun hasks => absurd (haccent.symm.trans hasks) Bool.false_ne_true
  · intro hrefers
    have hlonger : Refers (EndsWord ['e', '\u0301']) ['e', '\u0301'] ['#', 'e', '\u0301', 'a'] := hrefers
    have hends := (Refers.hash_append_iff (by decide) (by decide) (by decide)).1 hlonger haccentWord
    simp [startsInWord, isWord_a] at hends

end Pattern

end OutlineQuery
