import FormulaLexer.Number.Reading

/-!
The arguments of the command line. Options may stand in front of the command and behind it; what
is given behind it counts. Two hyphens end the options of a command, and everything that follows
is an operand. Arguments that do not fit are refused as a whole.
-/

namespace FormulaLexer.CommandLine

/-- Options that apply to every command. An empty list of keys means that all scanners are
used. -/
structure Options where
  config : Option Text
  json : Bool
  scanners : List Text
  caseSensitive : Bool
  metrics : Bool

/-- What to do: cut an expression, or the standard input, into tokens; try a named matcher on the
tokens of an expression; or list the scanners. -/
inductive Command where
  | tokenize (expression : Option Text)
  | probe (matcher expression : Text) (offset : Nat)
  | scanners

/-- What the arguments ask for. -/
inductive Request where
  | version
  | run (options : Options) (command : Command)

/-- The options that take a value. -/
inductive Valued where
  | config
  | scanners
  | offset

/-- The options given at one place, in front of the command or behind it. -/
structure Given where
  config : Option Text
  scanners : Option (List Text)
  offset : Option Nat
  json : Bool
  caseSensitive : Bool
  metrics : Bool

/-- No options. -/
def Given.none : Given := ⟨.none, .none, .none, false, false, false⟩

/-- A place among tokens: a natural number of 64 bits, with an optional plus sign. -/
def readOffset? (text : Text) : Option Nat :=
  let digits := if text.head? = some '+' then text.drop 1 else text
  (Number.readNat (Nat.pow 2 64 - 1) digits).toOption

/-- Takes in the value of an option. Only the keys of scanners may be given repeatedly, and a
path must not be empty. -/
def Given.set? (given : Given) (option : Valued) (value : Text) : Option Given :=
  match option with
  | .config =>
    if given.config.isSome || value.isEmpty then .none
    else some { given with config := some value }
  | .scanners =>
    some { given with scanners := some (given.scanners.getD [] ++ Text.splitOn ',' value) }
  | .offset =>
    if given.offset.isSome then .none
    else (readOffset? value).map fun offset => { given with offset := some offset }

/-- Takes in an option without a value, which must not be given twice. -/
def Given.flag? (given : Given) (name : Text) : Option Given :=
  if name = "json".toList then
    if given.json then .none else some { given with json := true }
  else if name = "case-sensitive".toList then
    if given.caseSensitive then .none else some { given with caseSensitive := true }
  else if name = "metrics".toList then
    if given.metrics then .none else some { given with metrics := true }
  else .none

/-- The option with a value that has this name. Offsets are for the matching of tokens only. -/
def valued? (offsetAllowed : Bool) (name : Text) : Option Valued :=
  if name = "config".toList then some .config
  else if name = "scanners".toList then some .scanners
  else if offsetAllowed && name = "offset".toList then some .offset
  else none

/-- Whether an argument has the form of an option; a lone hyphen has not. -/
def isOption (argument : Text) : Bool :=
  argument.head? = some '-' && 1 < argument.length

/-- The options given so far, and the option that waits for its value in the next argument. -/
structure Progress where
  given : Given
  waiting : Option Valued

/-- Takes in an argument of the form of an option. -/
def Given.option? (given : Given) (offsetAllowed : Bool) (argument : Text) : Option Progress :=
  match argument with
  | '-' :: '-' :: body =>
    let name := body.takeWhile (· ≠ '=')
    match body.dropWhile (· ≠ '='), valued? offsetAllowed name with
    | [], some option => some ⟨given, some option⟩
    | [], .none => (given.flag? name).map fun given => ⟨given, .none⟩
    | _ :: value, some option => (given.set? option value).map fun given => ⟨given, .none⟩
    | _ :: _, .none => .none
  | _ => .none

/-- The options and operands behind a command. -/
def readOperands? (offsetAllowed : Bool) :
    List Text → Progress → (operands : List Text) → Option (Given × List Text)
  | [], ⟨given, waiting⟩, operands =>
    if waiting.isSome then none else some (given, operands.reverse)
  | argument :: arguments, ⟨given, some option⟩, operands =>
    if isOption argument then none
    else
      match given.set? option argument with
      | some given => readOperands? offsetAllowed arguments ⟨given, .none⟩ operands
      | .none => none
  | argument :: arguments, ⟨given, .none⟩, operands =>
    if argument = "--".toList then some (given, operands.reverse ++ arguments)
    else if isOption argument then
      match given.option? offsetAllowed argument with
      | some progress => readOperands? offsetAllowed arguments progress operands
      | .none => none
    else readOperands? offsetAllowed arguments ⟨given, .none⟩ (argument :: operands)

/-- The options that count, given the ones in front of the command and those behind it. -/
def Options.ofGiven (front behind : Given) : Options where
  config := behind.config.or front.config
  json := front.json || behind.json
  scanners := (behind.scanners.or front.scanners).getD []
  caseSensitive := front.caseSensitive || behind.caseSensitive
  metrics := front.metrics || behind.metrics

/-- Reads the arguments behind the name of a command. -/
def readCommand? (name : Text) (front : Given) (arguments : List Text) : Option Request := do
  let (behind, operands) ←
    readOperands? (name = "match".toList) arguments ⟨.none, Option.none⟩ []
  let options := Options.ofGiven front behind
  if name = "tokenize".toList then
    match operands with
    | [] => return .run options (.tokenize .none)
    | [expression] => return .run options (.tokenize (some expression))
    | _ => none
  else if name = "match".toList then
    match operands with
    | [matcher, expression] =>
      return .run options (.probe matcher expression (behind.offset.getD 0))
    | _ => none
  else if name = "scanners".toList then
    match operands with
    | [] => return .run options .scanners
    | _ => none
  else none

/-- Reads the arguments up to the command. -/
def readArguments? : List Text → Progress → Option Request
  | [], _ => none
  | argument :: arguments, ⟨given, some option⟩ =>
    if isOption argument then none
    else
      match given.set? option argument with
      | some given => readArguments? arguments ⟨given, .none⟩
      | .none => none
  | argument :: arguments, ⟨given, .none⟩ =>
    if argument = "--version".toList ∨ argument.take 2 = "-V".toList then some .version
    else if isOption argument then
      match given.option? false argument with
      | some progress => readArguments? arguments progress
      | .none => none
    else readCommand? argument given arguments

/-- What the arguments ask for, or `none` if they cannot be understood. -/
def Request.ofArguments? (arguments : List Text) : Option Request :=
  readArguments? arguments ⟨.none, .none⟩

end FormulaLexer.CommandLine
