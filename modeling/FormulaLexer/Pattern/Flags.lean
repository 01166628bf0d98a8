import FormulaLexer.Pattern.CharSet
import FormulaLexer.Text

/-!
The settings that flags inside a pattern switch, why a text is refused as a pattern, and the blanks
and comments that the verbose form leaves out.
-/

namespace FormulaLexer.Pattern

/-- Why a text is not a pattern. -/
inductive ReadError where
  | unclosedGroup
  | unopenedGroup
  | badGroupName
  | repeatedGroupName
  | badFlags
  | unclosedClass
  | badRange
  | nothingToRepeat
  | badRepetition
  | unfinishedEscape
  | unknownEscape
  | unknownProperty
  | outsideAscii
  | lookAround
  | tooDeep
  | tooLarge
  deriving DecidableEq

/-- The settings that flags inside a pattern switch. -/
structure Flags where
  ignoreCase : Bool
  multiLine : Bool
  dotMatchesNewline : Bool
  swapGreed : Bool
  verbose : Bool
  carriageReturns : Bool
  unicode : Bool

/-- The settings at the start of a pattern. -/
def Flags.initial (ignoreCase : Bool) : Flags := ⟨ignoreCase, false, false, false, false, false, true⟩

/-- The set itself, or the set up to the case of its members if case is ignored. -/
def Flags.fold (flags : Flags) (set : CharSet) : CharSet :=
  if flags.ignoreCase then
    if flags.unicode then .ignoringCase set else .ignoringAsciiCase set
  else set

/-- The set or its complement. Without Unicode a complement would hold parts of characters, so there
is none. -/
def Flags.complement (flags : Flags) (complemented : Bool) (set : CharSet) :
    Except ReadError CharSet :=
  if complemented then
    if flags.unicode then .ok (.complement set) else .error .outsideAscii
  else .ok set

/-- A character that stands for itself, up to case if case is ignored. -/
def Flags.literal (flags : Flags) (c : Char) : CharSet :=
  if flags.ignoreCase then
    if flags.unicode then .ignoringCase (.single (Unicode.fold c))
    else .ignoringAsciiCase (.single c.toLower)
  else .single c

/-! ## Blanks and comments -/

/-- Leaves out blanks and comments, which run from a number sign to the end of the line. -/
def skipLayout : (inComment : Bool) → Text → Text
  | _, [] => []
  | true, c :: rest => skipLayout (c != '\n') rest
  | false, c :: rest =>
    if Unicode.isBlank c then skipLayout false rest
    else if c = '#' then skipLayout true rest
    else c :: rest

/-- Whether the character begins a blank or a comment of the verbose form. -/
def Flags.startsLayout (flags : Flags) (c : Char) : Bool :=
  flags.verbose && (Unicode.isBlank c || c = '#')

/-- The text from its first significant character on. -/
def Flags.significant (flags : Flags) (text : Text) : Text :=
  if flags.verbose then skipLayout false text else text

/-- The characters at the front that satisfy `p`, without the blanks and comments among them, and
the text from the first significant character on that does not. -/
def Flags.span (flags : Flags) (p : Char → Bool) : (inComment : Bool) → Text → Text × Text
  | _, [] => ([], [])
  | true, c :: rest => flags.span p (c != '\n') rest
  | false, c :: rest =>
    if flags.startsLayout c then flags.span p (c = '#') rest
    else if p c then
      let (front, back) := flags.span p false rest
      (c :: front, back)
    else ([], c :: rest)

end FormulaLexer.Pattern
