import FormulaLexer.Text

/-!
The codes of log events and what is known about them. Error codes are registered with a severity,
a description and a recommended action; any other code is classified by its first letter.
-/

namespace FormulaLexer.Log

/-- A code that tells events of one kind from others. -/
structure Code where
  text : Text
  deriving DecidableEq

namespace Code

/-- The code with a fixed text. -/
def named (text : String) : Code := ⟨text.toList⟩

/-- An error inside the program itself. -/
def internalError : Code := named "ERR001"

/-- No scanner accepted the input, or a conversion failed. -/
def parseError : Code := named "E020"

/-- The input ended inside a group. -/
def tooManyOpening : Code := named "E021"

/-- A group was closed that had not been opened. -/
def tooManyClosing : Code := named "E022"

/-- A scanner accepted the input without consuming any of it. -/
def zeroWidth : Code := named "E023"

/-- Logging is ready. -/
def initialized : Code := named "I004"

/-- A text was cut into tokens. -/
def tokenized : Code := named "I020"

/-- A scanner set was restricted. -/
def scannersConfigured : Code := named "I021"

/-- The code of warnings without one of their own. -/
def plainWarning : Code := named "W000"

/-- The code of information without one of its own. -/
def plainInfo : Code := named "I000"

/-- The code of all debug events. -/
def plainDebug : Code := named "D000"

end Code

/-- How bad the consequences of an error are. -/
inductive Severity where
  | critical
  | high
  | medium
  | low
  deriving DecidableEq

/-- The name of a severity. -/
def Severity.name : Severity → Text
  | .critical => "Critical".toList
  | .high => "High".toList
  | .medium => "Medium".toList
  | .low => "Low".toList

/-- What is known about an error code. Recoverable errors go away when the input is mended. -/
structure CodeInfo where
  code : Code
  category : Text
  severity : Severity
  recoverable : Bool
  description : Text
  action : Text

namespace Code

/-- The registered error codes. -/
def registry : List CodeInfo :=
  [⟨internalError, "System".toList, .critical, false,
      "Critical internal system error".toList,
      "File a bug report with the failing input".toList⟩,
    ⟨parseError, "Lexical".toList, .high, true,
      "No scanner accepted the input at the current position".toList,
      "Check the expression near the reported position for unsupported characters".toList⟩,
    ⟨tooManyOpening, "Lexical".toList, .high, true,
      "Input ended with unclosed parentheses".toList,
      "Add the missing ')' or remove the extra '('".toList⟩,
    ⟨tooManyClosing, "Lexical".toList, .high, true,
      "A ')' appeared without a matching '('".toList,
      "Remove the extra ')' or add the missing '('".toList⟩,
    ⟨zeroWidth, "Lexical".toList, .critical, false,
      "A scanner accepted input without consuming any characters".toList,
      "Fix the custom scanner pattern so it cannot match empty text".toList⟩]

/-- The registered information about a code. -/
def info? (code : Code) : Option CodeInfo :=
  registry.find? fun info => info.code = code

/-- The severity of a code, low for codes that are not registered. -/
def severity (code : Code) : Severity :=
  match code.info? with
  | some info => info.severity
  | none => .low

/-- The category of a registered code; other codes are classified by their first letter. -/
def category (code : Code) : Text :=
  match code.info? with
  | some info => info.category
  | none =>
    match code.text.head? with
    | some 'I' => "Success".toList
    | some 'W' => "Warning".toList
    | some 'D' => "Debug".toList
    | _ => "Unknown".toList

/-- The description of a registered code. -/
def description (code : Code) : Text :=
  match code.info? with
  | some info => info.description
  | none => "Unknown error".toList

/-- The action recommended for a registered code. -/
def action (code : Code) : Text :=
  match code.info? with
  | some info => info.action
  | none => "No specific action available".toList

/-- Whether mending the input helps; it may for codes that are not registered. -/
def isRecoverable (code : Code) : Bool :=
  code.info?.all CodeInfo.recoverable

end Code

end FormulaLexer.Log
