import FormulaLexer.CommandLine.Run
import Std.Time.DateTime.Timestamp

/-!
The command line program. It collects what a run depends on, and prints what the run writes. The
standard input is read only for a command that needs it.
-/

namespace FormulaLexer.CommandLine

/-- The variables of the environment that have a meaning. -/
def variableNames : List String :=
  ["RULE_LEXER_CASE_SENSITIVE", "RULE_LEXER_COLLECT_METRICS", "RULE_LEXER_INCLUDE_POSITIONS",
    "RULE_LEXER_LOGGING_USE_STRUCTURED", "RULE_LEXER_LOGGING_ENABLE_CONSOLE",
    "RULE_LEXER_LOGGING_MIN_LEVEL"]

/-- The environment of the process. -/
def readEnvironment : IO Environment := do
  let found ← variableNames.mapM fun name => do
    return (← IO.getEnv name).map fun setting => (name.toList, setting.toList)
  return KeyMap.ofEntries (found.filterMap id)

/-- Whether the arguments leave the expression to the standard input. -/
def needsInput (arguments : List Text) : Bool :=
  match Request.ofArguments? arguments with
  | some (.run _ (.tokenize none)) => true
  | _ => false

/-- The file that the arguments name as their configuration. -/
def configurationPath? (arguments : List Text) : Option Text :=
  match Request.ofArguments? arguments with
  | some (.run options _) => options.config
  | _ => none

/-- The reason why a file cannot be read. -/
def failureReason : IO.Error → Text
  | .noFileOrDirectory _ _ _ => "No such file or directory (os error 2)".toList
  | .permissionDenied _ _ _ => "Permission denied (os error 13)".toList
  | .inappropriateType _ _ _ => "Is a directory (os error 21)".toList
  | e => (toString e).toList

/-- The text of a file, or the reason why it cannot be read. -/
def readTextFile (path : Text) : IO (Except Text Text) := do
  try
    return .ok (← IO.FS.readFile ⟨String.ofList path⟩).toList
  catch e =>
    return .error (failureReason e)

/-- The configuration file is the one file that a run may read. -/
def readConfiguration (arguments : List Text) : IO (Text → Except Text Text) := do
  match configurationPath? arguments with
  | none => return fun _ => .ok []
  | some path =>
    let content ← readTextFile path
    return fun _ => content

/-- Writes a text to its channel. -/
def writeOut (w : Written) : IO Unit := do
  let stream ← match w.channel with
    | .output => IO.getStdout
    | .errors => IO.getStderr
  stream.putStr (String.ofList w.text)

/-- What a run of this process depends on. -/
def surroundings (arguments : List Text) : IO Surroundings := do
  let standardInput ←
    if needsInput arguments then do pure (← (← IO.getStdin).readToEnd).toList else pure []
  let now ← Std.Time.Timestamp.now
  return {
    arguments := arguments
    environment := ← readEnvironment
    standardInput := standardInput
    fileText := ← readConfiguration arguments
    time := now.toSecondsSinceUnixEpoch.val.toNat }

end FormulaLexer.CommandLine

open FormulaLexer.CommandLine in
/-- Runs the program; arguments that are not understood end it with the exit code 2. -/
def main (arguments : List String) : IO UInt32 := do
  match run? (← surroundings (arguments.map String.toList)) with
  | none =>
    (← IO.getStderr).putStrLn "usage: rulelex [OPTIONS] <tokenize|match|scanners>"
    return 2
  | some result =>
    result.written.forM writeOut
    return result.exitCode.toUInt32
