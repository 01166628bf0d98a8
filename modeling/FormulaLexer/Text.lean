import FormulaLexer.Unicode.CharacterClass

/-!
Texts are lists of characters measured in UTF-8 bytes. Offsets into a source count bytes while
columns count characters, so both measures are kept apart here, and a text is only ever cut
between two characters. Finite maps with texts as keys are lists with ascending keys; keys are
compared by their code points, so every listing of a map is in one order.
-/

namespace FormulaLexer

/-- A text as the list of its characters. -/
abbrev Text := List Char

namespace Text

/-- The number of bytes of the UTF-8 form of a text. -/
def byteSize : Text → Nat
  | [] => 0
  | c :: rest => c.utf8Size + byteSize rest

/-- Cuts off exactly `bytes` bytes. There is no cut beyond the end or inside a character. -/
def splitAtByte? : Nat → Text → Option (Text × Text)
  | 0, text => some ([], text)
  | _ + 1, [] => none
  | bytes + 1, c :: rest =>
    if c.utf8Size ≤ bytes + 1 then
      match splitAtByte? (bytes + 1 - c.utf8Size) rest with
      | some (front, back) => some (c :: front, back)
      | none => none
    else none

/-- The longest part at the front that takes at most `bytes` bytes. -/
def takeBytes : Nat → Text → Text
  | _, [] => []
  | bytes, c :: rest =>
    if c.utf8Size ≤ bytes then c :: takeBytes (bytes - c.utf8Size) rest else []

/-- The bytes from offset `start` up to offset `stop`, when both fall between characters. -/
def slice? (text : Text) (start stop : Nat) : Option Text :=
  if start ≤ stop then
    match splitAtByte? start text with
    | some (_, back) => (splitAtByte? (stop - start) back).map Prod.fst
    | none => none
  else none

/-- Drops the characters at the end that satisfy `p`. -/
def dropEndWhile (p : Char → Bool) (text : Text) : Text :=
  (text.reverse.dropWhile p).reverse

/-- A text without the blanks at its two ends. -/
def trim (text : Text) : Text :=
  dropEndWhile Unicode.isBlank (text.dropWhile Unicode.isBlank)

/-- The first `limit` characters, followed by three dots when that leaves any out. -/
def abbreviate (limit : Nat) (text : Text) : Text :=
  if (text.drop limit).isEmpty then text else text.take limit ++ "...".toList

/-- The decimal digits of a natural number. -/
def ofNat (n : Nat) : Text :=
  Nat.toDigits 10 n

/-- The decimal digits of an integer behind a minus sign if it is negative. -/
def ofInt (n : Int) : Text :=
  if n < 0 then '-' :: ofNat n.natAbs else ofNat n.natAbs

/-- Decimal digits of a number with zeros in front, at least `width` of them. -/
def ofNatPadded (width n : Nat) : Text :=
  List.replicate (width - (ofNat n).length) '0' ++ ofNat n

/-- A text followed by as many spaces as it lacks to `width` characters. -/
def padEnd (width : Nat) (text : Text) : Text :=
  text ++ List.replicate (width - text.length) ' '

/-- The words `true` and `false`. -/
def ofBool (b : Bool) : Text :=
  if b then "true".toList else "false".toList

/-- The texts in order, one separator between each two. -/
def join (separator : Text) : List Text → Text
  | [] => []
  | [text] => text
  | text :: texts => text ++ separator ++ join separator texts

/-- The parts of a text between the occurrences of a character. -/
def splitOn (separator : Char) : Text → List Text
  | [] => [[]]
  | c :: rest =>
    match splitOn separator rest with
    | [] => [[]]
    | part :: parts => if c = separator then [] :: part :: parts else (c :: part) :: parts

/-- Lower-cases the ASCII letters only. -/
def lowerAscii (text : Text) : Text :=
  text.map Char.toLower

end Text

/-! ## Maps -/

/-- Entries with strictly ascending keys. -/
abbrev KeyMap (α : Type) := List (Text × α)

namespace KeyMap

/-- Replaces the value of a key by `change` of what it was, `none` for a key that is new. -/
def alter {α : Type} (key : Text) (change : Option α → α) : KeyMap α → KeyMap α
  | [] => [(key, change none)]
  | (other, value) :: rest =>
    if key < other then (key, change none) :: (other, value) :: rest
    else if key = other then (other, change (some value)) :: rest
    else (other, value) :: alter key change rest

/-- Sets the value of a key. -/
def insert {α : Type} (key : Text) (value : α) (map : KeyMap α) : KeyMap α :=
  map.alter key fun _ => value

/-- The value of a key. -/
def find? {α : Type} (key : Text) (map : KeyMap α) : Option α :=
  (List.find? (fun entry => entry.1 = key) map).map Prod.snd

/-- The map with all the given entries; of two with one key the later counts. -/
def ofEntries {α : Type} (entries : List (Text × α)) : KeyMap α :=
  entries.foldl (fun map entry => map.insert entry.1 entry.2) []

end KeyMap

end FormulaLexer
