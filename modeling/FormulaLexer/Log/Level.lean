import FormulaLexer.Unicode.LowerCase
import FormulaLexer.Text

/-!
Levels of log events, from the most to the least severe.
-/

namespace FormulaLexer.Log

/-- How severe an event is. -/
inductive Level where
  | error
  | warning
  | info
  | debug
  deriving DecidableEq

namespace Level

/-- The place of a level when levels are listed by descending severity. -/
def rank : Level → Nat
  | .error => 0
  | .warning => 1
  | .info => 2
  | .debug => 3

/-- Whether events of a level pass a filter whose least severe level is `least`. -/
def passes (level least : Level) : Bool :=
  level.rank ≤ least.rank

/-- The name of a level in the text of an event. -/
def label : Level → Text
  | .error => "ERROR".toList
  | .warning => "WARN".toList
  | .info => "INFO".toList
  | .debug => "DEBUG".toList

/-- The name of a level in a configuration. -/
def name : Level → Text
  | .error => "error".toList
  | .warning => "warning".toList
  | .info => "info".toList
  | .debug => "debug".toList

/-- All levels by descending severity. -/
def all : List Level := [.error, .warning, .info, .debug]

/-- The level with exactly this name. -/
def ofName? (name : Text) : Option Level :=
  all.find? fun level => level.name = name

/-- The level that a setting means: its name in any case, a short form of it, or its rank. -/
def ofSetting? (setting : Text) : Option Level :=
  let lowered := Unicode.lowerCase setting
  if lowered = "warn".toList then some .warning
  else all.find? fun level => level.name = lowered || Text.ofNat level.rank = lowered

end Level

end FormulaLexer.Log
