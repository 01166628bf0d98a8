import FormulaLexer.Log.Event
import FormulaLexer.Scanner.BuiltIn

/-!
Ordered sets of keyed scanners. The first scanner of a set that accepts the remaining text wins,
so the order of the entries is part of their meaning. Keys may repeat; a look-up finds the
earliest entry of a key.
-/

namespace FormulaLexer

/-- A scanner under its key. -/
structure ScannerEntry where
  key : Text
  scanner : Scanner

/-- Scanners in the order in which they are tried. -/
structure ScannerSet where
  entries : List ScannerEntry

namespace ScannerSet

/-- The set without scanners. -/
def empty : ScannerSet := ⟨[]⟩

/-- All built-in scanners in their canonical order; `keepCase` decides whether identifiers keep
their case, and date-times without a zone are those of local clocks. -/
def builtIn (keepCase : Bool) (zone : LocalZone := .utc) : ScannerSet :=
  ⟨BuiltIn.all.map fun builtIn => ⟨builtIn.key, builtIn.scanner keepCase zone⟩⟩

/-- The built-in scanners that lower-case identifiers. -/
def default (zone : LocalZone := .utc) : ScannerSet := builtIn false zone

/-- The earliest scanner with this key. -/
def find? (set : ScannerSet) (key : Text) : Option Scanner :=
  (set.entries.find? fun entry => entry.key = key).map ScannerEntry.scanner

/-- Whether some scanner has this key. -/
def contains (set : ScannerSet) (key : Text) : Bool :=
  (set.find? key).isSome

/-- The keys in the order of the scanners. -/
def keys (set : ScannerSet) : List Text :=
  set.entries.map ScannerEntry.key

/-- The number of scanners. -/
def size (set : ScannerSet) : Nat :=
  set.entries.length

/-- Keeps the scanners with one of the keys, in the order that they have in the set. -/
def restrict (set : ScannerSet) (keys : List Text) : ScannerSet :=
  ⟨set.entries.filter fun entry => keys.contains entry.key⟩

/-- Adds a scanner behind all others. -/
def register (set : ScannerSet) (key : Text) (scanner : Scanner) : ScannerSet :=
  ⟨set.entries ++ [⟨key, scanner⟩]⟩

/-! ## Events -/

/-- What a restriction logs: a warning for each key without a scanner, the sizes, and the keys
that are left. -/
def restrictEvents (set : ScannerSet) (keys : List Text) : List Log.Event :=
  let unknown := keys.filter fun key => !set.contains key
  let restricted := set.restrict keys
  (unknown.map fun key =>
      (Log.Event.warning "Ignoring unknown scanner key".toList).withContext "key".toList key)
    ++ [(Log.Event.debug "Restricted scanner set".toList).withContexts
          [("requested".toList, Text.ofNat keys.length), ("before".toList, Text.ofNat set.size),
            ("after".toList, Text.ofNat restricted.size)],
        (Log.Event.success .scannersConfigured "Scanner set configured".toList).withContext
          "scanners".toList (Text.join ",".toList restricted.keys)]

/-- What a registration logs. -/
def registerEvents (set : ScannerSet) (key : Text) (scanner : Scanner) : List Log.Event :=
  [(Log.Event.debug "Registered scanner".toList).withContexts
    [("key".toList, key), ("category".toList, scanner.category.name),
      ("position".toList, Text.ofNat set.size)]]

end ScannerSet

end FormulaLexer
