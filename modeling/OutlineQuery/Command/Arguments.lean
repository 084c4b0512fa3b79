/-!
The arguments of the command line. The settings file and the verbosity may be given before or after
the name of the command; everything else belongs to one command.
-/
namespace OutlineQuery.Command

inductive Action where
  /-- Compile a request. -/
  | compile (input : Option String) (json : Bool)
  /-- Tell the tiers of a request. -/
  | classify (input : Option String)
  /-- Restrict a query given as text. -/
  | inject (input : Option String) (blockIds pageIds : List String)
  /-- Describe requests. -/
  | schema
  /-- List the operators. -/
  | operators
deriving DecidableEq, Repr

/-- A command with the settings file to use. -/
structure Invocation where
  config : Option String
  action : Action
deriving DecidableEq, Repr

inductive Verb where
  | compile
  | classify
  | inject
  | schema
  | operators
deriving DecidableEq, Repr

namespace Verb

def ofString? : String → Option Verb
  | "compile" => some compile
  | "classify" => some classify
  | "inject" => some inject
  | "schema" => some schema
  | "operators" => some operators
  | _ => none

def takesInput : Verb → Bool
  | compile | classify | inject => true
  | schema | operators => false

end Verb

inductive ValueOption where
  | config
  | blockId
  | pageId
deriving DecidableEq, Repr

inductive Switch where
  | verbose
  | json
deriving DecidableEq, Repr

/-- The option that takes a value and goes by a long name, before any command or in one. -/
def ValueOption.ofString? (verb : Option Verb) (name : String) : Option ValueOption :=
  match name with
  | "config" => some .config
  | "block-id" => if verb = some .inject then some .blockId else none
  | "page-id" => if verb = some .inject then some .pageId else none
  | _ => none

/-- The option that takes no value and goes by a long name. -/
def Switch.ofString? (verb : Option Verb) (name : String) : Option Switch :=
  match name with
  | "verbose" => some .verbose
  | "json" => if verb = some .compile then some .json else none
  | _ => none

/-- What has been read at one level: before the command, or after it. -/
structure Level where
  verbose : Bool
  json : Bool
  config : Option String
  blockIds : List String
  pageIds : List String
  input : Option String
deriving DecidableEq, Repr

namespace Level

def empty : Level := ⟨false, false, none, [], [], none⟩

/-- Sets a switch, which may be set once. -/
def set (l : Level) : Switch → Option Level
  | .verbose => if l.verbose then none else some { l with verbose := true }
  | .json => if l.json then none else some { l with json := true }

/-- Gives a value to an option. The settings file has a name and is given once. -/
def give (l : Level) (value : String) : ValueOption → Option Level
  | .config =>
    if l.config.isSome || value.isEmpty then none else some { l with config := some value }
  | .blockId => some { l with blockIds := l.blockIds ++ [value] }
  | .pageId => some { l with pageIds := l.pageIds ++ [value] }

/-- Takes the name of the input file, which may be given once. -/
def takeInput (l : Level) (verb : Verb) (value : String) : Option Level :=
  if verb.takesInput && l.input.isNone && !value.isEmpty then some { l with input := some value }
  else none

end Level

/-- How an argument is read. -/
inductive Argument where
  /-- Two hyphens: all that follows is no option. -/
  | separator
  /-- A long option, perhaps with a value after an equals sign. -/
  | long (name : String) (value : Option String)
  /-- Letters of short options. -/
  | short (letters : List Char)
  /-- Anything else, a single hyphen included. -/
  | word (s : String)
deriving DecidableEq, Repr

namespace Argument

/-- Splits a long option at its first equals sign. -/
def ofLong (cs : List Char) : Argument :=
  let name := String.ofList (cs.takeWhile (· != '='))
  match cs.dropWhile (· != '=') with
  | [] => long name none
  | _ :: value => long name (some (String.ofList value))

/-- The reading of an argument. -/
def ofString (s : String) : Argument :=
  match s.toList with
  | ['-', '-'] => separator
  | '-' :: '-' :: rest => ofLong rest
  | ['-'] => word s
  | '-' :: letters => short letters
  | _ => word s

end Argument

def setLetters (l : Level) : List Char → Option Level
  | [] => some l
  | 'v' :: rest => (l.set .verbose).bind (setLetters · rest)
  | _ => none

/-- Reads an option with its value, which may be the next argument if that is a word. Gives back
what is left of the arguments. -/
def readLong (verb : Option Verb) (l : Level) (name : String) (value : Option String)
    (rest : List String) : Option (Level × List String) :=
  match ValueOption.ofString? verb name, value with
  | some o, some v => (l.give v o).map (·, rest)
  | some o, none =>
    match rest with
    | next :: rest =>
      match Argument.ofString next with
      | .word v => (l.give v o).map (·, rest)
      | _ => none
    | [] => none
  | none, none => ((Switch.ofString? verb name).bind l.set).map (·, rest)
  | none, some _ => none

/-- Reads words that can no longer be options. -/
def readWords (verb : Verb) (l : Level) : List String → Option Level
  | [] => some l
  | s :: rest => (l.takeInput verb s).bind (readWords verb · rest)

/-- Reads the arguments after the name of a command. -/
def readRest (verb : Verb) : Nat → Level → List String → Option Level
  | _, l, [] => some l
  | 0, _, _ => none
  | fuel + 1, l, s :: rest =>
    match Argument.ofString s with
    | .separator => readWords verb l rest
    | .long name value =>
      (readLong (some verb) l name value rest).bind fun (l, rest) => readRest verb fuel l rest
    | .short letters => (setLetters l letters).bind (readRest verb fuel · rest)
    | .word w => (l.takeInput verb w).bind (readRest verb fuel · rest)

/-- What a command does with what was read after its name. -/
def Verb.action (verb : Verb) (l : Level) : Action :=
  match verb with
  | .compile => .compile l.input l.json
  | .classify => .classify l.input
  | .inject => .inject l.input l.blockIds l.pageIds
  | .schema => .schema
  | .operators => .operators

/-- Reads arguments from before the name of the command. -/
def readFirst : Nat → Level → List String → Option Invocation
  | _, _, [] => none
  | 0, _, _ => none
  | fuel + 1, l, s :: rest =>
    match Argument.ofString s with
    | .separator => none
    | .long name value =>
      (readLong none l name value rest).bind fun (l, rest) => readFirst fuel l rest
    | .short letters => (setLetters l letters).bind (readFirst fuel · rest)
    | .word w =>
      match Verb.ofString? w with
      | none => none
      | some verb =>
        (readRest verb rest.length Level.empty rest).map fun inner =>
          -- A settings file after the name wins over one before it.
          ⟨inner.config.or l.config, verb.action inner⟩

/-- The command that some arguments ask for, unless they are misused. -/
def Invocation.ofArguments? (args : List String) : Option Invocation :=
  readFirst args.length Level.empty args

end OutlineQuery.Command
