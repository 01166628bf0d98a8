import FormulaLexer.Pattern.CharSet
import FormulaLexer.Unicode.Age
import FormulaLexer.Unicode.GeneralCategory
import FormulaLexer.Unicode.PropertyList
import FormulaLexer.Unicode.Script

/-!
The sets of characters that patterns name by a property. Properties are listed, are derived from
listed ones and the general categories as the standard defines them, or have values: the general
category, the script, the scripts in which a character is in use, and the age.
-/

namespace FormulaLexer.CharSet

/-- The characters of the general categories. -/
def ofCategories (members : List Unicode.GeneralCategory) : CharSet :=
  .ranges (Unicode.GeneralCategory.ranges members)

/-- The characters with a listed property. -/
def listed (name : String) : CharSet :=
  .ranges ((Unicode.PropertyList.named? name.toList).getD [])

/-- The characters that a table writes. -/
def written (line : String) : CharSet :=
  .ranges (Unicode.Ranges.ofLines [line])

/-! ## Derived properties -/

/-- Lower-case letters and other characters of lower case. -/
def lowercase : CharSet := .union (ofCategories [.lowercaseLetter]) (listed "olower")

/-- Upper-case letters and other characters of upper case. -/
def uppercase : CharSet := .union (ofCategories [.uppercaseLetter]) (listed "oupper")

/-- The characters of lower, upper or title case. -/
def cased : CharSet := unionOf [lowercase, uppercase, ofCategories [.titlecaseLetter]]

/-- Marks, format characters, modifiers, and the punctuation inside of words. -/
def caseIgnorable : CharSet :=
  .union (ofCategories [.nonspacingMark, .enclosingMark, .format, .modifierLetter, .modifierSymbol])
    (written "27 2e 3a b7 387 55f 5f4 2018-2019 2024 2027 fe13 fe52 fe55 ff07 ff0e ff1a")

/-- Letters, letter numbers, and other alphabetic characters. -/
def alphabetic : CharSet :=
  unionOf [lowercase, uppercase, listed "oalpha",
    ofCategories [.titlecaseLetter, .modifierLetter, .otherLetter, .letterNumber]]

/-- Alphabetic characters and numbers. -/
def alphanumeric : CharSet :=
  .union alphabetic (ofCategories [.decimalNumber, .letterNumber, .otherNumber])

/-- Mathematical symbols and other mathematical characters. -/
def mathematical : CharSet := .union (ofCategories [.mathSymbol]) (listed "omath")

/-- The characters that belong to the syntax of patterns. -/
def patternCharacters : CharSet := .union (listed "patsyn") (listed "patws")

/-- The characters that identifiers start with. -/
def identifierStart : CharSet :=
  difference
    (.union (listed "oids")
      (ofCategories [.uppercaseLetter, .lowercaseLetter, .titlecaseLetter, .modifierLetter,
        .otherLetter, .letterNumber]))
    patternCharacters

/-- The characters of identifiers. -/
def identifierContinue : CharSet :=
  difference
    (unionOf [identifierStart, listed "oidc",
      ofCategories [.nonspacingMark, .spacingMark, .decimalNumber, .connectorPunctuation]])
    patternCharacters

/-- The characters of identifiers whose compatibility forms may not be in identifiers. -/
def unstableIdentifier : CharSet :=
  written "37a 309b-309c fc5e-fc63 fdfa-fdfb fe70-fe7e:2"

/-- The characters that identifiers start with, kept under normalisation. -/
def stableIdentifierStart : CharSet :=
  difference identifierStart (.union unstableIdentifier (written "e33 eb3 ff9e-ff9f"))

/-- The characters of identifiers, kept under normalisation. -/
def stableIdentifierContinue : CharSet :=
  difference identifierContinue unstableIdentifier

/-- Marks that belong to the character in front of them. -/
def graphemeExtend : CharSet :=
  .union (ofCategories [.nonspacingMark, .enclosingMark]) (listed "ogrext")

/-- The characters that other ones attach to. -/
def graphemeBase : CharSet :=
  .complement (.union graphemeExtend
    (ofCategories [.control, .format, .surrogate, .privateUse, .unassigned, .lineSeparator,
      .paragraphSeparator]))

/-- The characters that are not shown where they are not supported. -/
def defaultIgnorable : CharSet :=
  difference (unionOf [listed "odi", listed "vs", ofCategories [.format]])
    (.union (written "fff9-fffb 13430-1343f") (listed "pcm"))

/-- The characters that change in some case. -/
def changesWhenCasemapped : CharSet :=
  unionOf [listed "cwl", listed "cwu", listed "cwt"]

/-- The derived properties by their names in lower case without separators. -/
def derived? (name : Text) : Option CharSet :=
  match String.ofList name with
  | "lower" | "lowercase" => lowercase
  | "upper" | "uppercase" => uppercase
  | "cased" => cased
  | "ci" | "caseignorable" => caseIgnorable
  | "alpha" | "alphabetic" => alphabetic
  | "math" => mathematical
  | "ids" | "idstart" => identifierStart
  | "idc" | "idcontinue" => identifierContinue
  | "xids" | "xidstart" => stableIdentifierStart
  | "xidc" | "xidcontinue" => stableIdentifierContinue
  | "grext" | "graphemeextend" => graphemeExtend
  | "grbase" | "graphemebase" => graphemeBase
  | "di" | "defaultignorablecodepoint" => defaultIgnorable
  | "cwcm" | "changeswhencasemapped" => changesWhenCasemapped
  | "space" | "wspace" | "whitespace" => CharSet.blank
  | _ => Option.none

/-! ## Look-up -/

/-- A name in lower case, without separators and characters beyond ASCII, and without the word "is"
in front. -/
def normalName (name : Text) : Text :=
  let keep (text : Text) : Text :=
    (text.filter fun c => c ∉ [' ', '_', '-'] && c.toNat < 0x80).map Char.toLower
  if Text.lowerAscii (name.take 2) = ['i', 's'] then
    let rest := keep (name.drop 2)
    if rest = ['c'] then ['i', 's', 'c'] else rest
  else keep name

/-- The set of a general category, of a group of them, or of one of the three that cover more. -/
def ofCategoryName? (name : Text) : Option CharSet :=
  if name = "any".toList then CharSet.all
  else if name = "ascii".toList then CharSet.range '\x00' '\x7f'
  else if name = "assigned".toList then CharSet.complement (ofCategories [.unassigned])
  else (Unicode.GeneralCategory.named? name).map ofCategories

/-- The set of a script. -/
def ofScriptName? (name : Text) : Option CharSet :=
  (Unicode.Script.named? name).map fun script => .ranges script.ranges

/-- The set that a name alone stands for: a property, a general category or a script. Three short
names are those of a category rather than those of a property. -/
def ofName? (written : Text) : Option CharSet :=
  let name := normalName written
  let property :=
    if name ∈ ["cf".toList, "sc".toList, "lc".toList] then Option.none
    else (derived? name).or ((Unicode.PropertyList.named? name).map .ranges)
  property.or ((ofCategoryName? name).or (ofScriptName? name))

/-- The set of the characters for which a property has a value. -/
def ofValue? (property value : Text) : Option CharSet :=
  let value := normalName value
  match String.ofList (normalName property) with
  | "gc" | "generalcategory" => ofCategoryName? value
  | "sc" | "script" => ofScriptName? value
  | "scx" | "scriptextensions" =>
    (Unicode.Script.named? value).map fun script => .ranges script.extendedRanges
  | "age" => (Unicode.Age.upTo? value).map fun tables => unionOf (tables.map .ranges)
  | _ => Option.none

end FormulaLexer.CharSet
