import FormulaLexer.Preferences
import FormulaLexer.Toml.Reader

/-!
Preferences from a configuration document. A section is a table of settings by name, or an array
of settings in their order; settings and sections that are missing keep their defaults, and
unknown ones are ignored. A level is a string, or a table with the level as its one key and
nothing in it.
-/

namespace FormulaLexer.Configuration

open Toml (Item)

/-- A truth value. -/
def boolean? : Item → Option Bool
  | .boolean b => some b
  | _ => none

/-- Whether an item is an array or a table without anything in it. -/
def isEmptyCollection : Item → Bool
  | .array items => items.isEmpty
  | .table _ entries => entries.isEmpty
  | .tables elements => elements.isEmpty
  | _ => false

/-- A level of log events. -/
def level? : Item → Option Log.Level
  | .string name => Log.Level.ofName? name
  | .table _ [(name, item)] => if isEmptyCollection item then Log.Level.ofName? name else none
  | _ => none

/-- The settings of a section, by name or by place. -/
inductive Section where
  | byName (entries : Toml.Entries)
  | byPlace (items : List Item)

/-- The section that an item writes. A moment is a section without known settings. -/
def section? : Item → Option Section
  | .table _ entries => some (.byName entries)
  | .array items => some (.byPlace items)
  | .tables elements => some (.byPlace (elements.map (.table .declared)))
  | .moment _ => some (.byName [])
  | _ => none

/-- The setting of a section with a name and a place, if the section has it. -/
def Section.find? (sec : Section) (place : Nat) (name : String) : Option Item :=
  match sec with
  | .byName entries => entries.find? name.toList
  | .byPlace items => items[place]?

/-- The value of a setting, its default if it is missing, and `none` if it is of the wrong
kind. -/
def Section.setting? {α : Type} (sec : Section) (read : Item → Option α) (place : Nat)
    (name : String) (otherwise : α) : Option α :=
  match sec.find? place name with
  | none => some otherwise
  | some item => read item

/-- The preferences about tokens in a section. -/
def lexical? (defaults : LexicalPreferences) (sec : Section) : Option LexicalPreferences := do
  let caseSensitive ← sec.setting? boolean? 0 "case_sensitive" defaults.caseSensitive
  let collectMetrics ← sec.setting? boolean? 1 "collect_metrics" defaults.collectMetrics
  let includePositions ←
    sec.setting? boolean? 2 "include_position_in_errors" defaults.includePositions
  return ⟨caseSensitive, collectMetrics, includePositions⟩

/-- The preferences about logging in a section. -/
def logging? (defaults : LoggingPreferences) (sec : Section) : Option LoggingPreferences := do
  let structured ← sec.setting? boolean? 0 "use_structured_logging" defaults.structured
  let console ← sec.setting? boolean? 1 "enable_console_logging" defaults.console
  let least ← sec.setting? level? 2 "min_log_level" defaults.least
  return ⟨structured, console, least⟩

/-- The section under a name, one without settings if it is missing. -/
def sectionOf? (entries : Toml.Entries) (name : String) : Option Section :=
  match entries.find? name.toList with
  | none => some (.byName [])
  | some item => section? item

/-- Reads the preferences in a document over their defaults. The answer is `none` if the text is
no document or a known setting is of the wrong kind. -/
def read? (defaults : Preferences) (text : Text) : Option Preferences := do
  let entries ← Toml.read? text
  let lexical ← (← sectionOf? entries "lexical") |> lexical? defaults.lexical
  let logging ← (← sectionOf? entries "logging") |> logging? defaults.logging
  return ⟨lexical, logging⟩

end FormulaLexer.Configuration
