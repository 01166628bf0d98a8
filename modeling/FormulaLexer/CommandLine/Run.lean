import FormulaLexer.CommandLine.Arguments
import FormulaLexer.CommandLine.Report
import FormulaLexer.Configuration
import FormulaLexer.Matcher.Named
import FormulaLexer.Tokenizer.Events

/-!
The command line as a function from its surroundings to what it prints. Preferences come from the
environment or a configuration file; they decide whether log events are printed as JSON, as text
or not at all. Everything is written in order to one of two channels.
-/

namespace FormulaLexer.CommandLine

/-- What a run of the program depends on: its arguments, the environment, the standard input, the
files by their paths, the time, and the local clocks. A file that cannot be read gives the
reason. -/
structure Surroundings where
  arguments : List Text
  environment : Environment
  standardInput : Text
  fileText : Text → Except Text Text
  time : Nat
  zone : LocalZone := .utc

/-- The channels that are written to. -/
inductive Channel where
  | output
  | errors
  deriving DecidableEq

/-- A text written to a channel. -/
structure Written where
  channel : Channel
  text : Text

/-- What is printed, in order, and the exit code. -/
structure Result where
  written : List Written
  exitCode : Nat

/-- All that is written to a channel. -/
def Result.textOf (result : Result) (channel : Channel) : Text :=
  (result.written.filter fun w => w.channel = channel).flatMap Written.text

/-- The name and version of the program. -/
def versionLine : Text := "rulelex 0.1.0".toList

/-- Lines on the standard output. -/
def toOutput (lines : List Text) : List Written :=
  [⟨.output, writeLines lines⟩]

/-- The result of a failure: its message without the blanks at its end, and the exit code 1. -/
def failure (before : List Written) (message : Text) : Result :=
  ⟨before ++ [⟨.errors, Text.dropEndWhile Unicode.isBlank message ++ ['\n']⟩], 1⟩

/-! ## Logging -/

/-- How an event is printed: as JSON on the error channel, or as text on the channel that suits
its level, or not at all. -/
def writeEvent (preferences : LoggingPreferences) (time : Nat) (event : Log.Event) :
    List Written :=
  if !event.level.passes preferences.least then []
  else if preferences.structured then
    [⟨.errors, (event.atTime time).toJson.compact ++ ['\n']⟩]
  else if preferences.console then
    [⟨if event.isError then .errors else .output, event.write ++ ['\n']⟩]
  else []

/-- How events are printed. -/
def writeEvents (preferences : LoggingPreferences) (time : Nat) (events : List Log.Event) :
    List Written :=
  events.flatMap (writeEvent preferences time)

/-- The events of the start: logging is ready, and a configuration has been loaded. -/
def startEvents (config : Option Text) : List Log.Event :=
  Log.Event.success .initialized "Global logging system initialized".toList
    :: config.toList.map fun path =>
      (Log.Event.info "Loaded runtime configuration".toList).withContext "path".toList path

/-! ## Preferences and the tokenizer -/

/-- The preferences in the configuration file, or those of the environment without one. -/
def loadPreferences (surroundings : Surroundings) (config : Option Text) :
    Except Text Preferences :=
  let defaults := Preferences.ofEnvironment surroundings.environment
  match config with
  | none => .ok defaults
  | some path =>
    match surroundings.fileText path with
    | .error reason =>
      .error ("error: Failed to read configuration file '".toList ++ path ++ "': ".toList
        ++ reason)
    | .ok text =>
      match Configuration.read? defaults text with
      | some preferences => .ok preferences
      | none =>
        .error "error: Invalid configuration TOML: not a document with valid settings".toList

/-- The preferences with what the options add to them. -/
def lexicalPreferences (options : Options) (preferences : LexicalPreferences) :
    LexicalPreferences :=
  { preferences with
    caseSensitive := preferences.caseSensitive || options.caseSensitive
    collectMetrics := preferences.collectMetrics || options.metrics }

/-- The tokenizer that the options ask for. -/
def tokenizerOf (options : Options) (preferences : LexicalPreferences) (zone : LocalZone) :
    Tokenizer :=
  let tokenizer := Tokenizer.ofPreferences (lexicalPreferences options preferences) zone
  if options.scanners.isEmpty then tokenizer
  else tokenizer.withScanners (tokenizer.scanners.restrict options.scanners)

/-- What the restriction of the scanners logs. -/
def tokenizerEvents (options : Options) (preferences : LexicalPreferences) (zone : LocalZone) :
    List Log.Event :=
  let tokenizer := Tokenizer.ofPreferences (lexicalPreferences options preferences) zone
  if options.scanners.isEmpty then []
  else tokenizer.scanners.restrictEvents options.scanners

/-! ## Commands -/

/-- The standard input without the line ends at its end. -/
def withoutLineEnds (text : Text) : Text :=
  Text.dropEndWhile (fun c => c = '\r' || c = '\n') text

/-- What a command logs and prints, and its message if it fails. -/
structure Performance where
  events : List Log.Event
  printed : List Text
  failed : Option Text

/-- Cuts an input into tokens and prints what `report` makes of them. -/
def perform (tokenizer : Tokenizer) (input : Text) (report : List Token → Metrics → List Text) :
    Performance :=
  let outcome := tokenizer.run input
  let events := tokenizer.startEvent input :: tokenizer.endEvents input outcome
  match outcome with
  | .accepted tokens metrics => ⟨events, report tokens metrics, none⟩
  | .rejected e => ⟨events, [], some (renderError input e)⟩
  | .overflowed => ⟨events, [], some "error: the input is too long".toList⟩

/-- The tokens, and the metrics where they are asked for. -/
def tokensReport (options : Options) (tokens : List Token) (metrics : Metrics) : List Text :=
  let shown := if options.metrics then some metrics else none
  if options.json then [(tokensJson tokens shown).pretty]
  else tokens.map tokenLine ++ shown.toList.flatMap metricsLines

/-- The tokens that a matcher takes. -/
def matchedReport (options : Options) (matcher : Text) (offset : Nat) (tokens : List Token) :
    List Text :=
  let result := (Matcher.named matcher).matchAt tokens offset
  if options.json then [(matchedJson matcher offset result).pretty]
  else matchedLines offset result

/-- Performs a command. -/
def Command.perform (command : Command) (options : Options) (tokenizer : Tokenizer)
    (standardInput : Text) : Performance :=
  match command with
  | .tokenize expression =>
    CommandLine.perform tokenizer (expression.getD (withoutLineEnds standardInput))
      (tokensReport options)
  | .probe matcher expression offset =>
    CommandLine.perform tokenizer expression fun tokens _ =>
      matchedReport options matcher offset tokens
  | .scanners => ⟨[], scannerLines tokenizer.scanners, none⟩

/-! ## The program -/

/-- Carries out a command with its options. -/
def runCommand (surroundings : Surroundings) (options : Options) (command : Command) : Result :=
  match loadPreferences surroundings options.config with
  | .error message => failure [] message
  | .ok preferences =>
    let log := writeEvents preferences.logging surroundings.time
    let tokenizer := tokenizerOf options preferences.lexical surroundings.zone
    let performance := command.perform options tokenizer surroundings.standardInput
    let written :=
      log (startEvents options.config)
        ++ log (tokenizerEvents options preferences.lexical surroundings.zone)
        ++ log performance.events
        ++ toOutput performance.printed
    match performance.failed with
    | some message => failure written message
    | none => ⟨written, 0⟩

/-- Runs the program. The answer is `none` if the arguments cannot be understood. -/
def run? (surroundings : Surroundings) : Option Result :=
  match Request.ofArguments? surroundings.arguments with
  | none => none
  | some .version => some ⟨toOutput [versionLine], 0⟩
  | some (.run options command) => some (runCommand surroundings options command)

end FormulaLexer.CommandLine
