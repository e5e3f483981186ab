import SqlAdvice.Files.Path
import SqlAdvice.Number.Decimal
import SqlAdvice.Report.Text

/-!
# Arguments of the command line

Arguments are options and words. A long option has its value behind an equals sign or in the next
argument; short options may share one argument, and a value may follow its letter at once. A pair of
dashes ends the options. In front of the name of a command stand the options of the whole program,
and options of a command may stand anywhere among its words. The last value of an option counts.
-/

namespace SqlAdvice.Console

open SqlAdvice.Number SqlAdvice.Text

/-! ## Options and words -/

/-- An option by its long name, its letter, and whether it takes a value. -/
structure OptionRule where
  name : String
  letter : Option Char := none
  takesValue : Bool := true

/-- Options with their values, in the order in which they are given, and the words. -/
structure Arguments where
  options : List (String × String) := []
  words : List String := []

namespace Arguments

/-- Tells whether an option is given. -/
def has (a : Arguments) (name : String) : Bool :=
  a.options.any (·.1 == name)

/-- The last value of an option. -/
def value? (a : Arguments) (name : String) : Option String :=
  (a.options.findRev? (·.1 == name)).map (·.2)

end Arguments

/-- The options of one argument, and the option whose value is the next argument. -/
abbrev Given := List (String × String) × Option String

/-- The options that letters sharing an argument stand for. -/
def lettersGiven? (rules : List OptionRule) : List Char → Option Given
  | [] => some ([], none)
  | c :: cs => do
    let rule ← rules.find? (·.letter == some c)
    if rule.takesValue then
      if cs.isEmpty then return ([], some rule.name)
      else return ([(rule.name, String.ofList cs)], none)
    else
      let (given, pending) ← lettersGiven? rules cs
      return ((rule.name, "") :: given, pending)

/-- The option that a name behind two dashes stands for, with the value behind an equals sign. -/
def nameGiven? (rule : OptionRule) (value : Option String) : Option Given :=
  match rule.takesValue, value with
  | true, some v => some ([(rule.name, v)], none)
  | true, none => some ([], some rule.name)
  | false, some _ => none
  | false, none => some ([(rule.name, "")], none)

/-- The options that an argument stands for. -/
def optionsGiven? (rules : List OptionRule) (arg : List Char) : Option Given :=
  let name := arg.takeWhile (· != '=')
  let value := match arg.dropWhile (· != '=') with
    | _ :: v => some (String.ofList v)
    | [] => none
  match rules.find? fun rule => name == '-' :: '-' :: rule.name.toList with
  | some rule => nameGiven? rule value
  | none => match arg with
    | '-' :: '-' :: _ => none
    | _ :: letters => lettersGiven? rules letters
    | [] => none

/-- Holds of the arguments that are options: a dash with something behind it. -/
def isOption : List Char → Bool
  | '-' :: _ :: _ => true
  | _ => false

/-- Reads arguments. Where options may not stand among the words, the first word ends them. An
option without its value, or one that is not known, is an error. -/
def readArguments? (rules : List OptionRule) (amongWords : Bool) :
    Option String → List String → Option Arguments
  | some _, [] => none
  | some name, v :: rest => do
    let a ← readArguments? rules amongWords none rest
    return { a with options := (name, v) :: a.options }
  | none, [] => some {}
  | none, arg :: rest =>
    if arg == "--" then some { words := rest }
    else if isOption arg.toList then do
      let (given, pending) ← optionsGiven? rules arg.toList
      let a ← readArguments? rules amongWords pending rest
      return { a with options := given ++ a.options }
    else if amongWords then do
      let a ← readArguments? rules amongWords none rest
      return { a with words := arg :: a.words }
    else some { words := arg :: rest }

/-! ## Commands -/

/-- What the command line asks for. -/
inductive Command where
  | version
  | analyze (source : String) (registry : Option Path) (format : ReportFormat) (seed : Option Int)
  | format (source : String)
  | demo (format : ReportFormat) (seed : Option Int)
  deriving DecidableEq

/-- The options of the whole program. -/
def programRules : List OptionRule :=
  [⟨"version", some 'v', false⟩, ⟨"verbose", some 'V', false⟩]

/-- The option for the format of the report. -/
def formatRule : OptionRule :=
  ⟨"format", some 'f', true⟩

/-- The option for the seed of the draws. -/
def seedRule : OptionRule :=
  ⟨"seed", none, true⟩

/-- The option for the registry. -/
def registryRule : OptionRule :=
  ⟨"registry", some 'r', true⟩

/-- The format asked for; without one it is plain text. -/
def formatOf? (a : Arguments) : Option ReportFormat :=
  match a.value? formatRule.name with
  | some name => ReportFormat.ofName? name
  | none => some .text

/-- The seed asked for, if there is one. -/
def seedOf? (a : Arguments) : Option (Option Int) :=
  match a.value? seedRule.name with
  | some s => (readInteger? s.toList).map some
  | none => some none

/-- Reads a command by its name and arguments. -/
def readCommand? (name : String) (args : List String) : Option Command :=
  if name == "analyze" then do
    let a ← readArguments? [registryRule, formatRule, seedRule] true none args
    let format ← formatOf? a
    let seed ← seedOf? a
    match a.words with
    | [source] =>
      return .analyze source ((a.value? registryRule.name).map .ofText) format seed
    | _ => none
  else if name == "format" then do
    let a ← readArguments? [] true none args
    match a.words with
    | [source] => return .format source
    | _ => none
  else if name == "demo" then do
    let a ← readArguments? [formatRule, seedRule] true none args
    let format ← formatOf? a
    let seed ← seedOf? a
    if a.words.isEmpty then return .demo format seed else none
  else none

/-- What the command line asks for, or `none` where it is used wrongly. -/
def Command.ofArguments? (args : List String) : Option Command := do
  let a ← readArguments? programRules false none args
  if a.has "version" then return .version
  match a.words with
  | name :: args => readCommand? name args
  | [] => none

/-- Tells whether the command line asks for a detailed log. -/
def isVerbose (args : List String) : Bool :=
  (readArguments? programRules false none args).any (·.has "verbose")

end SqlAdvice.Console
