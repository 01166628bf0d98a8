import FormulaLexer.Log.Level
import FormulaLexer.Text

/-!
Preferences of a user: how texts are cut into tokens, and what is logged where. Their defaults
come from the environment, in which a variable that is missing or has no meaningful value stands
for the built-in default.
-/

namespace FormulaLexer

/-- The variables of the environment by name. -/
abbrev Environment := KeyMap Text

/-- A variable that holds exactly the word for a truth value, or the given default. -/
def Environment.flag (env : Environment) (name : String) (otherwise : Bool) : Bool :=
  match env.find? name.toList with
  | none => otherwise
  | some setting =>
    if setting = Text.ofBool true then true
    else if setting = Text.ofBool false then false
    else otherwise

/-- Preferences about tokens: whether identifiers keep their case, whether the counts of
categories are logged, and whether logged errors point at their position. -/
structure LexicalPreferences where
  caseSensitive : Bool
  collectMetrics : Bool
  includePositions : Bool
  deriving DecidableEq

/-- Preferences about logging: events as objects, events as text, and the least severe level that
is logged. -/
structure LoggingPreferences where
  structured : Bool
  console : Bool
  least : Log.Level
  deriving DecidableEq

/-- All preferences. -/
structure Preferences where
  lexical : LexicalPreferences
  logging : LoggingPreferences
  deriving DecidableEq

namespace LexicalPreferences

/-- The preferences where nothing is set. -/
def builtIn : LexicalPreferences := ⟨false, true, true⟩

/-- The preferences set in the environment. -/
def ofEnvironment (env : Environment) : LexicalPreferences where
  caseSensitive := env.flag "RULE_LEXER_CASE_SENSITIVE" builtIn.caseSensitive
  collectMetrics := env.flag "RULE_LEXER_COLLECT_METRICS" builtIn.collectMetrics
  includePositions := env.flag "RULE_LEXER_INCLUDE_POSITIONS" builtIn.includePositions

end LexicalPreferences

namespace LoggingPreferences

/-- The preferences where nothing is set. -/
def builtIn : LoggingPreferences := ⟨false, false, .info⟩

/-- The preferences set in the environment. -/
def ofEnvironment (env : Environment) : LoggingPreferences where
  structured := env.flag "RULE_LEXER_LOGGING_USE_STRUCTURED" builtIn.structured
  console := env.flag "RULE_LEXER_LOGGING_ENABLE_CONSOLE" builtIn.console
  least :=
    ((env.find? "RULE_LEXER_LOGGING_MIN_LEVEL".toList).bind Log.Level.ofSetting?).getD
      builtIn.least

end LoggingPreferences

namespace Preferences

/-- The preferences set in the environment. -/
def ofEnvironment (env : Environment) : Preferences :=
  ⟨.ofEnvironment env, .ofEnvironment env⟩

end Preferences

end FormulaLexer
