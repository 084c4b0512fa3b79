import OutlineQuery.Proofs.Regex.Framing

/-!
The names of the groups of an expression. They are the names that the reader has noted when it is
done, so a name the reader would refuse can be told from the expressions alone.
-/
namespace OutlineQuery.Regex

namespace Ast

mutual

def groupNames : Ast → List String
  | repeated body _ _ _ => groupNames body
  | group kind body => kind.name?.toList ++ groupNames body
  | alternation branches => groupNamesAll branches
  | concat items => groupNamesAll items
  | _ => []

def groupNamesAll : List Ast → List String
  | [] => []
  | item :: rest => groupNames item ++ groupNamesAll rest

end

theorem groupNamesAll_eq_flatMap (items : List Ast) :
    groupNamesAll items = items.flatMap groupNames := by
  induction items with
  | nil => rfl
  | cons item rest ih => rw [groupNamesAll, ih, List.flatMap_cons]

theorem groupNames_ofItems (items : List Ast) :
    (ofItems items).groupNames = items.flatMap groupNames := by
  rcases items with _ | ⟨item, _ | ⟨next, rest⟩⟩
  · rfl
  · simp [ofItems]
  · exact groupNamesAll_eq_flatMap _

end Ast

namespace Level

variable {l l' : Level} {n : String}

/-- The name has been given to a group within the level. -/
def Names (l : Level) (n : String) : Prop :=
  (∃ x ∈ l.items, n ∈ x.groupNames) ∨ ∃ x ∈ l.branches, n ∈ x.groupNames

theorem names_push {item : Ast} : (l.push item).Names n ↔ n ∈ item.groupNames ∨ l.Names n := by
  simp [Names, push, or_assoc]

theorem names_branch : l.branch.Names n ↔ l.Names n := by
  simp [Names, branch, Ast.groupNames_ofItems]

theorem names_repeatLast {least : Nat} {most : Option Nat} {greedy : Bool}
    (h : l.repeatLast least most greedy = some l') : l'.Names n ↔ l.Names n := by
  unfold repeatLast at h
  split at h
  case h_1 => cases h
  case h_2 => cases h
  case h_3 item rest _ hitems =>
    obtain rfl := Option.some.inj h
    simp [Names, hitems, Ast.groupNames]

/-- The names within a level are those of the expression it closes to. -/
theorem mem_groupNames_close : n ∈ l.close.groupNames ↔ l.Names n := by
  obtain ⟨branches, items⟩ := l
  cases branches with
  | nil => simp [close, Names, Ast.groupNames_ofItems]
  | cons b rest =>
    rw [← names_branch]
    simp only [close, Names, Ast.groupNames, Ast.groupNamesAll_eq_flatMap, branch, List.mem_flatMap,
      List.mem_reverse, List.not_mem_nil, false_and, exists_false, false_or]

end Level

section Reading

variable {v : Bool} {c : Char} {cs rest : List Char} {item : Ast}

theorem readName_ne_adds : readName cs ≠ some (.adds item, rest) := by
  unfold readName
  split
  · simp
  · split <;> simp

theorem readSwitches_ne_adds : readSwitches cs ≠ some (.adds item, rest) := by
  intro h
  obtain ⟨x, -, h⟩ := Option.bind_eq_some_iff.1 h
  split at h
  · cases h
  · split at h <;> cases h

theorem readOpening_ne_adds : readOpening cs ≠ some (.adds item, rest) := by
  unfold readOpening
  split
  case h_1 => exact readName_ne_adds
  case h_2 => exact readName_ne_adds
  case h_3 => exact readSwitches_ne_adds
  case h_4 => simp

/-- Names come with the groups that are opened, never with what is added as a whole. -/
theorem groupNames_of_readMove (h : readMove v c cs = some (.adds item, rest)) :
    item.groupNames = [] := by
  unfold readMove at h
  split at h
  case h_1 => exact absurd h readOpening_ne_adds
  case h_4 =>
    obtain ⟨x, -, h⟩ := Option.map_eq_some_iff.1 h
    cases h
    rfl
  case h_8 =>
    obtain ⟨x, -, h⟩ := Option.bind_eq_some_iff.1 h
    cases h
  case h_9 =>
    obtain ⟨⟨a, after⟩, -, h⟩ := Option.map_eq_some_iff.1 h
    cases h
    cases a <;> rfl
  case h_10 | h_11 | h_12 | h_13 =>
    cases h
    rfl
  all_goals cases h

end Reading

namespace ReaderState

variable {st st' : ReaderState} {cs : List Char} {m : Move} {fuel : Nat}

/-- The names noted are those of the groups read so far and of the groups still open. -/
def NotesNames (st : ReaderState) : Prop :=
  ∀ n, n ∈ st.names ↔
    st.level.Names n ∨ ∃ g ∈ st.opened, g.kind.name? = some n ∨ g.outer.Names n

theorem notesNames_initial : NotesNames initial := by
  simp [NotesNames, initial, Level.Names, Level.empty]

/-- Every move keeps the names noted those of the groups read and of the groups open. -/
theorem NotesNames.make (h : st.NotesNames) (hadds : ∀ item, m = .adds item → item.groupNames = [])
    (hmake : st.make m = some st') : st'.NotesNames := by
  intro n
  cases m with
  | opens kind =>
    obtain ⟨-, rfl⟩ := make_opens hmake
    have hempty : ¬Level.empty.Names n := by simp [Level.Names, Level.empty]
    rw [names_openGroup, List.mem_append, Option.mem_toList, h n]
    simp [openGroup, hempty, or_assoc]
  | closes =>
    obtain ⟨g, outer, hopened, rfl⟩ := make_closes hmake
    -- The names of the level and of the group around it become those of one item further out.
    have hnames := h n
    simp only [hopened, List.mem_cons, exists_eq_or_imp] at hnames
    simp only [hnames, Level.names_push, Ast.groupNames, List.mem_append, Option.mem_toList,
      Level.mem_groupNames_close]
    simp only [or_assoc, or_left_comm]
  | repeats least most greedy =>
    obtain ⟨level, hlevel, rfl⟩ := make_repeats hmake
    simpa only [Level.names_repeatLast hlevel] using h n
  | branches =>
    obtain rfl := Option.some.inj hmake
    simpa only [Level.names_branch] using h n
  | sets change =>
    obtain rfl := Option.some.inj hmake
    simpa [setFlags, Level.names_push, Ast.groupNames] using h n
  | adds item =>
    obtain rfl := Option.some.inj hmake
    simpa [push, Level.names_push, hadds item rfl] using h n

theorem notesNames_of_run (h : run fuel st cs = some st') (hst : st.NotesNames) :
    st'.NotesNames := by
  revert hst
  apply run_induction (motive := fun _ st _ => st.NotesNames → st'.NotesNames) h
  case ended => exact fun _ _ _ h => h
  case move =>
    intro fuel st cs c rest m after st₁ _ hmove hmake _ ih hst
    refine ih (hst.make (fun item hitem => ?_) hmake)
    exact groupNames_of_readMove (hitem ▸ hmove)

end ReaderState

/-- A pattern is read as what its level closes to when the text is over and no group is open. -/
theorem parse?_eq_some_iff {pattern : String} {e : Ast} :
    parse? pattern = some e ↔
      ∃ st, ReaderState.initial.run pattern.toList.length pattern.toList = some st ∧
        st.opened = [] ∧ st.level.close = e := by
  simp [parse?, ReaderState.finish, Option.bind_eq_some_iff]

end OutlineQuery.Regex
