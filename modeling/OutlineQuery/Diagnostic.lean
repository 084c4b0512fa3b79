/-!
Diagnostics: what is reported about a request that is carried out all the same.
-/
namespace OutlineQuery

inductive Severity where
  | info
  | warning
deriving DecidableEq, Repr

namespace Severity

def name : Severity → String
  | info => "info"
  | warning => "warning"

end Severity

inductive DiagnosticCode where
  /-- A condition without a value was dropped. -/
  | emptyValue
  /-- A kind or mode was not recognized, and another one used. -/
  | unknownKind
  /-- A group without usable conditions was dropped. -/
  | emptyGroup
  /-- A pattern looks wrong. -/
  | suspectPattern
  /-- There was nothing to restrict. -/
  | injectionTargetNotFound
  /-- Further terms could not be had. -/
  | expansionUnavailable
  /-- Alternatives were merged into one pattern. -/
  | disjunctionMerged
deriving DecidableEq, Repr

namespace DiagnosticCode

def all : List DiagnosticCode :=
  [emptyValue, unknownKind, emptyGroup, suspectPattern, injectionTargetNotFound,
   expansionUnavailable, disjunctionMerged]

def title : DiagnosticCode → String
  | emptyValue => "EmptyValue"
  | unknownKind => "UnknownKind"
  | emptyGroup => "EmptyGroup"
  | suspectPattern => "SuspectPattern"
  | injectionTargetNotFound => "InjectionTargetNotFound"
  | expansionUnavailable => "ExpansionUnavailable"
  | disjunctionMerged => "DisjunctionRewritten"

def name : DiagnosticCode → String
  | emptyValue => "empty_value"
  | unknownKind => "unknown_kind"
  | emptyGroup => "empty_group"
  | suspectPattern => "suspect_pattern"
  | injectionTargetNotFound => "injection_target_not_found"
  | expansionUnavailable => "expansion_unavailable"
  | disjunctionMerged => "disjunction_rewritten"

end DiagnosticCode

structure Diagnostic where
  severity : Severity
  code : DiagnosticCode
  message : String
deriving DecidableEq, Repr

namespace Diagnostic

/-- A diagnostic that the caller should act on. -/
def warn (code : DiagnosticCode) (message : String) : Diagnostic :=
  ⟨.warning, code, message⟩

/-- A diagnostic for information. -/
def note (code : DiagnosticCode) (message : String) : Diagnostic :=
  ⟨.info, code, message⟩

def isWarning (d : Diagnostic) : Bool :=
  d.severity == .warning

def render (d : Diagnostic) : String :=
  d.severity.name ++ "[" ++ d.code.title ++ "]: " ++ d.message

end Diagnostic

/-- A value with what is to be reported about it. -/
structure Noted (α : Type) where
  value : α
  notes : List Diagnostic
deriving DecidableEq

end OutlineQuery
