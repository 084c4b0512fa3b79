import OutlineQuery.Command.Arguments
import OutlineQuery.Json.Printer
import OutlineQuery.Request.Compilation
import OutlineQuery.RequestSchema
import OutlineQuery.Scope.QueryText

/-!
What the commands print, given the texts that they read.
-/
namespace OutlineQuery.Command

structure Report where
  code : Nat
  out : String
  err : String
deriving DecidableEq, Repr

namespace Report

def done (out err : String) : Report := ⟨0, out, err⟩

/-- A command that failed, with what it printed before. -/
def failed (before message : String) (cause : Option String) : Report :=
  ⟨1, "", before ++ "Error: " ++ message ++ "\n" ++
    cause.elim "" fun c => "\nCaused by:\n    " ++ c ++ "\n"⟩

end Report

/-- Why a command fails: a message, and a cause if there is one. -/
structure Failure where
  message : String
  cause : Option String
deriving DecidableEq, Repr

/-- The texts that a command can read: a file by its name, or the reason why it cannot be read, and
the standard input. -/
structure Inputs where
  file : String → Except String String
  stdin : String

namespace Inputs

/-- The text of the input, which is the standard input if no file or a hyphen is named. -/
def text (i : Inputs) : Option String → Except Failure String
  | none => .ok i.stdin
  | some "-" => .ok i.stdin
  | some path =>
    match i.file path with
    | .ok text => .ok text
    | .error reason => .error ⟨"failed to read " ++ path, some reason⟩

def configFile (i : Inputs) (path : String) : Except ConfigError Config :=
  match i.file path with
  | .ok text => Config.parse path text
  | .error reason => .error (.unreadable path reason)

def configFailure (e : ConfigError) : Failure :=
  match e with
  | .unreadable _ reason => ⟨e.message, some reason⟩
  | _ => ⟨e.message, none⟩

def config (i : Inputs) : Option String → Except Failure Config
  | none => .ok .default
  | some path => (i.configFile path).mapError configFailure

def request (i : Inputs) (input : Option String) : Except Failure Request := do
  let text ← i.text input
  (Request.parse text).mapError fun e => ⟨e.message, none⟩

end Inputs

def diagnosticLines (ds : List Diagnostic) : String :=
  String.join (ds.map fun d =>
    (if d.isWarning then "warning" else "note") ++ "[" ++ d.code.title ++ "]: " ++ d.message ++ "\n")

def padded (width : Nat) (s : String) : String :=
  s ++ String.ofList (List.replicate (width - s.length) ' ')

def diagnosticJson (d : Diagnostic) : Json :=
  .obj [("severity", .str d.severity.name), ("code", .str d.code.name), ("message", .str d.message)]

def compiledJson (c : Compiled) : Json :=
  .obj [("text", .str c.text), ("columns", .strings c.columns), ("tier", .str c.tier.name),
    ("rewrites", .nat c.merges), ("diagnostics", .arr (c.diagnostics.map diagnosticJson))]

/-- What is printed beside a compiled search. -/
def compiledSummary (c : Compiled) : String :=
  diagnosticLines c.diagnostics ++ "compiled " ++ c.tier.label ++ " (" ++ toString c.merges ++
    " rewrite(s), columns: " ++ String.intercalate ", " c.columns ++ ")\n"

def compileReport (config : Config) (json : Bool) (r : Request) : Report :=
  match r.compile config with
  | .error e => .failed ("error [" ++ e.code ++ "] " ++ e.message ++ "\n") e.message none
  | .ok c =>
    if json then .done ((compiledJson c).pretty ++ "\n") ""
    else .done (c.text ++ "\n") (compiledSummary c)

def classifyReport (config : Config) (r : Request) : Report :=
  match r.resolve config with
  | .error e => .failed "" e.message none
  | .ok search =>
    .done
      (String.join (search.value.body.tiers.map fun (side, tier) =>
        padded 6 side ++ " " ++ tier.label ++ "\n"))
      (diagnosticLines search.notes)

/-- Prints a query restricted to some blocks and pages. -/
def injectReport (blockIds pageIds : List String) (text : String) : Report :=
  let (out, diagnostic) := QueryText.inject (Text.trimEnd text) blockIds pageIds
  .done (out ++ "\n") (diagnostic.elim "" fun d => "warning " ++ d.message ++ "\n")

def operatorLine (name strength inverse : String) : String :=
  padded 20 name ++ " " ++ padded 14 strength ++ " " ++ inverse ++ "\n"

def operatorsReport : Report :=
  .done
    (operatorLine "operator" "strength" "inverse" ++
      String.join (Operator.all.map fun op =>
        operatorLine op.name op.strength.name op.inverse.name))
    ""

/-- Carries out an action under some settings. -/
def Action.run (i : Inputs) (config : Config) : Action → Except Failure Report
  | .compile input json => do return compileReport config json (← i.request input)
  | .classify input => do return classifyReport config (← i.request input)
  | .inject input blockIds pageIds => do return injectReport blockIds pageIds (← i.text input)
  | .schema => .ok (.done (RequestSchema.request.pretty ++ "\n") "")
  | .operators => .ok operatorsReport

/-- Carries out a command. The settings are read first, whether they are needed or not. -/
def Invocation.run (i : Inputs) (inv : Invocation) : Report :=
  match (do inv.action.run i (← i.config inv.config)) with
  | .ok report => report
  | .error failure => .failed "" failure.message failure.cause

def Action.readsStdin : Action → Bool
  | .compile input _ | .classify input | .inject input _ _ => input.all (· == "-")
  | .schema | .operators => false

def Invocation.files (inv : Invocation) : List String :=
  let input := match inv.action with
    | .compile input _ | .classify input | .inject input _ _ => input
    | .schema | .operators => none
  inv.config.toList ++ input.toList.filter (· != "-")

end OutlineQuery.Command
