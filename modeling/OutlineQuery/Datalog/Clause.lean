import OutlineQuery.Text.StringSet

/-!
The clauses of a Datalog query over an outline: variables, terms, calls, and the clauses built from
them.
-/
namespace OutlineQuery.Datalog

open OutlineQuery.Text (StringSet)

/-- A logic variable. It is written with a leading question mark, which is not part of `name`. -/
structure Var where
  name : String
deriving DecidableEq, Repr

namespace Var

/-- The variable meant by a name, which may bring its own question mark. -/
def ofString (s : String) : Var :=
  match s.toList with
  | '?' :: rest => ⟨String.ofList rest⟩
  | _ => ⟨s⟩

def text (v : Var) : String :=
  "?" ++ v.name

/-- The variable whose name extends `v`'s by a suffix. -/
def extend (v : Var) (suffix : String) : Var :=
  ⟨v.name ++ suffix⟩

end Var

/-- What may stand in an argument place. -/
inductive Term where
  | var (v : Var)
  | str (s : String)
  | bool (b : Bool)
  | set (items : StringSet)
deriving DecidableEq

namespace Term

def var? : Term → Option Var
  | var v => some v
  | _ => none

end Term

structure Call where
  func : String
  args : List Term
deriving DecidableEq

namespace Call

def vars (call : Call) : List Var :=
  call.args.filterMap Term.var?

end Call

/-- One condition of a query. -/
inductive Clause where
  /-- The entity has the attribute with that value. -/
  | triple (entity : Var) (attr : String) (value : Term)
  /-- The variable takes the value of the call. -/
  | binding (call : Call) (out : Var)
  /-- The call holds. -/
  | test (call : Call)
  /-- Some branch holds, with the listed variables shared with the query. -/
  | orJoin (vars : List Var) (branches : List Clause)
  /-- The body does not hold. -/
  | absent (body : List Clause)
  /-- The named rule holds of the arguments. -/
  | rule (name : String) (args : List Var)

namespace Clause

mutual

/-- Every variable of a clause, nested clauses included, in order of occurrence. -/
def vars : Clause → List Var
  | triple entity _ value => entity :: value.var?.toList
  | binding call out => call.vars ++ [out]
  | test call => call.vars
  | orJoin shared branches => shared ++ varsAll branches
  | absent body => varsAll body
  | rule _ args => args

def varsAll : List Clause → List Var
  | [] => []
  | c :: rest => vars c ++ varsAll rest

end

/-- The written variables of a clause, each once and in code point order. -/
def varNames (c : Clause) : StringSet :=
  StringSet.ofList (c.vars.map Var.text)

end Clause

/-! The attributes of an outline's blocks and pages. -/
namespace Attr

def content : String := ":block/content"

def uuid : String := ":block/uuid"

def page : String := ":block/page"

def parent : String := ":block/parent"

def displayName : String := ":block/original-name"

def journal : String := ":block/journal?"

end Attr

end OutlineQuery.Datalog
