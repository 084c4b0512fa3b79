import OutlineQuery.Json.Value

/-!
Reading records from JSON values. A record is an object, in which a declared field may occur once
under any of its names and other keys are skipped, or the array of its fields in order.
-/
namespace OutlineQuery.Json

/-- A declared field: its name and the other names that it may go by. -/
structure Field where
  name : String
  aliases : List String
deriving DecidableEq, Repr

namespace Field

def plain (name : String) : Field := ⟨name, []⟩

def accepts (f : Field) (key : String) : Bool :=
  key == f.name || f.aliases.contains key

end Field

/-- The value that an object gives to a field, if any; giving it twice is an error. -/
def field? (entries : List (String × Json)) (f : Field) : Option (Option Json) :=
  match entries.filter (f.accepts ·.1) with
  | [] => some none
  | [(_, value)] => some (some value)
  | _ => none

/-- The values that an object gives to the declared fields, in the order of declaration. -/
def fields? (declared : List Field) (entries : List (String × Json)) :
    Option (List (Option Json)) :=
  declared.mapM (field? entries)

/-- The values that a record, object or array, gives to the declared fields. An array may stop
short. -/
def record? (declared : List Field) : Json → Option (List (Option Json))
  | obj entries => fields? declared entries
  | arr items =>
    if items.length ≤ declared.length then
      some (items.map some ++ List.replicate (declared.length - items.length) none)
    else none
  | _ => none

def required {α : Type} (read : Json → Option α) : Option Json → Option α
  | none => none
  | some j => read j

/-- A field that has a value of its own when it is not given. -/
def defaulted {α : Type} (default : α) (read : Json → Option α) : Option Json → Option α
  | none => some default
  | some j => read j

/-- A field that may be left out or null. -/
def optional {α : Type} (read : Json → Option α) : Option Json → Option (Option α)
  | none => some none
  | some null => some none
  | some j => (read j).map some

def string? : Json → Option String
  | str s => some s
  | _ => none

def bool? : Json → Option Bool
  | bool b => some b
  | _ => none

/-- A natural number below a bound, written without point, exponent or sign. -/
def natBelow? (bound : Nat) : Json → Option Nat
  | int i => if 0 ≤ i ∧ i < bound then some i.toNat else none
  | _ => none

def binary64? : Json → Option Binary64
  | int i => some (.ofInt i)
  | double x => some x
  | _ => none

def list? {α : Type} (read : Json → Option α) : Json → Option (List α)
  | arr items => items.mapM read
  | _ => none

end OutlineQuery.Json
