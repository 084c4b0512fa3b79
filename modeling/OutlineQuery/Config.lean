import OutlineQuery.Json.Reader
import OutlineQuery.Json.Record

/-!
The settings of the compiler. A text of settings is a JSON record; what it leaves out has a default.
-/
namespace OutlineQuery

structure Config where
  /-- Patterns made from conditions ignore case. -/
  caseInsensitive : Bool
  /-- Alternatives are merged also where nothing is excluded. -/
  mergePlainOr : Bool
  /-- The greatest number of conditions in a request. -/
  maxConditions : Nat
  /-- How many milliseconds the look-up of further terms may take. -/
  expansionTimeoutMs : Nat
  /-- The greatest number of further terms for a condition. -/
  maxExpansionsPerTerm : Nat
  /-- Journal pages are excluded also where a request does not ask for it. -/
  excludeJournals : Bool
deriving DecidableEq, Repr

inductive ConfigError where
  /-- The file cannot be read, for the given reason. -/
  | unreadable (path reason : String)
  /-- The text is not a record of settings. -/
  | malformed (path : String)
  /-- No request could have a condition. -/
  | noConditions
deriving DecidableEq, Repr

namespace ConfigError

def message : ConfigError → String
  | unreadable path reason => "failed to read config " ++ path ++ ": " ++ reason
  | malformed path => "invalid config " ++ path ++ ": <json>"
  | noConditions => "invalid config: max_conditions must be at least 1"

end ConfigError

namespace Config

def default : Config := ⟨true, false, 64, 1500, 5, false⟩

def fields : List Json.Field :=
  [.plain "case_insensitive", .plain "rewrite_plain_or", .plain "max_conditions",
   .plain "expansion_timeout_ms", .plain "max_expansions_per_term", .plain "exclude_journals"]

/-- Numbers in settings are below this. -/
def numberBound : Nat := 0x10000000000000000

def ofJson? (j : Json) : Option Config :=
  match j.record? fields with
  | some [caseInsensitive, mergePlainOr, maxConditions, timeout, maxExpansions, excludeJournals] => do
    return {
      caseInsensitive := ← Json.defaulted default.caseInsensitive Json.bool? caseInsensitive
      mergePlainOr := ← Json.defaulted default.mergePlainOr Json.bool? mergePlainOr
      maxConditions :=
        ← Json.defaulted default.maxConditions (Json.natBelow? numberBound) maxConditions
      expansionTimeoutMs :=
        ← Json.defaulted default.expansionTimeoutMs (Json.natBelow? numberBound) timeout
      maxExpansionsPerTerm :=
        ← Json.defaulted default.maxExpansionsPerTerm (Json.natBelow? numberBound) maxExpansions
      excludeJournals := ← Json.defaulted default.excludeJournals Json.bool? excludeJournals }
  | _ => none

/-- The settings in a text, which comes from the given place. -/
def parse (path text : String) : Except ConfigError Config :=
  match (Json.parse? text).bind ofJson? with
  | none => .error (.malformed path)
  | some config => if config.maxConditions = 0 then .error .noConditions else .ok config

def toJson (c : Config) : Json :=
  .obj
    [("case_insensitive", .bool c.caseInsensitive), ("rewrite_plain_or", .bool c.mergePlainOr),
     ("max_conditions", .nat c.maxConditions), ("expansion_timeout_ms", .nat c.expansionTimeoutMs),
     ("max_expansions_per_term", .nat c.maxExpansionsPerTerm),
     ("exclude_journals", .bool c.excludeJournals)]

end Config

end OutlineQuery
