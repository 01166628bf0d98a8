import FormulaLexer.Proofs.DateTimeLiterals
import FormulaLexer.Proofs.DateTimePatterns

/-! Date-times as tokens. What the scanner of date-times matches its converter takes apart, so that it
never fails to recognize the text, and every text without blanks around it that is read as a
date-time is one token of a run over it. -/
namespace FormulaLexer.DateTimeTokens
open TextCuts Letters Spelling Progress Steps BuiltInMatches Rescan Unmatched Numerals
open DateTimeShapes DateTimeLiterals DateTimePatterns
open Unicode (isDecimalDigit isBlank)

/-! ## The ends of literals -/

theorem digit_filled {c : Char} (digit : isDecimalDigit c = true) : isBlank c = false := by
  refine Bool.eq_false_iff.mpr fun blank => ?_
  have word := word_of_digit digit
  rw [not_word_of_blank blank] at word
  cases word

/-- A text whose last character is no blank. -/
def Closed (text : Text) : Prop := ∃ front c, text = front ++ [c] ∧ isBlank c = false

theorem Closed.behind {text : Text} (closed : Closed text) (front : Text) : Closed (front ++ text) := by
  obtain ⟨others, c, rfl, filled⟩ := closed
  exact ⟨front ++ others, c, (List.append_assoc ..).symm, filled⟩

theorem Closed.last {text : Text} (closed : Closed text) : ∀ c ∈ text.getLast?, isBlank c = false := by
  obtain ⟨others, d, rfl, filled⟩ := closed
  rw [List.getLast?_concat]
  rintro c ⟨⟩
  exact filled

theorem closed_figures {lengths : List Nat} {digits : Text}
    (field : Figures isDecimalDigit lengths digits) (positive : 0 ∉ lengths) : Closed digits := by
  have filled := field.filled positive
  exact ⟨digits.dropLast, digits.getLast filled, (List.dropLast_concat_getLast filled).symm,
    digit_filled (field.inside _ (List.getLast_mem filled))⟩

theorem closed_zone {zone : Zone} (shaped : zone.Shaped isDecimalDigit) : Closed zone.text := by
  cases zone with
  | letter mark => exact ⟨[], mark, rfl, by rcases shaped with rfl | rfl <;> rfl⟩
  | signed sign hours colon minutes =>
    have digits := closed_figures shaped.2.2 (by decide)
    exact (((digits.behind _).behind hours).behind [sign])

/-- A literal that does not end with a space ends with a digit or a letter. -/
theorem literal_closed {literal : Literal} (shaped : literal.Shaped isDecimalDigit)
    (ends : literal.spaced = false ∨ literal.zone ≠ none) : Closed literal.text := by
  obtain ⟨year, month, day, clock, spaced, zone⟩ := literal
  have days : Closed (day ++ (clockText clock ++ endText spaced zone)) := by
    cases zone with
    | some zone => exact (((closed_zone (shaped.zone zone rfl)).behind _).behind _).behind day
    | none =>
      obtain rfl : spaced = false := by simpa using ends
      rw [show endText false none = [] from rfl, List.append_nil]
      cases clock with
      | none => simpa [clockText] using closed_figures shaped.day (by decide)
      | some clock =>
        obtain ⟨hour, minute, second⟩ := clock
        have seconds := closed_figures (shaped.clock hour minute second rfl).2.2 (by decide)
        exact (((((seconds.behind [':']).behind minute).behind [':']).behind hour).behind [' ']).behind day
  exact (((days.behind ['-']).behind month).behind ['-']).behind year

theorem literal_head {literal : Literal} (shaped : literal.Shaped isDecimalDigit) :
    ∃ c rest, literal.text = c :: rest ∧ isDecimalDigit c = true := by
  obtain ⟨c, others, year⟩ := List.exists_cons_of_ne_nil (shaped.year.filled (by decide))
  exact ⟨c, _, by rw [Literal.text, year]; rfl, shaped.year.inside c (by simp [year])⟩

/-- A literal stays one when the space that may stand at its end is trimmed. -/
theorem shaped_trimmed {literal : Literal} (shaped : literal.Shaped isDecimalDigit) :
    ∃ trimmed : Literal, trimmed.Shaped isDecimalDigit ∧ trimmed.text = literal.text.trim := by
  have trims : ∀ {other : Literal} (blanks : Text), other.Shaped isDecimalDigit →
      Closed other.text → (∀ c ∈ blanks, isBlank c = true) →
      (other.text ++ blanks).trim = other.text := by
    intro other blanks shaped closed blank
    obtain ⟨c, rest, whole, digit⟩ := literal_head shaped
    refine trim_ends ?_ closed.last blank
    rw [whole]
    rintro _ ⟨⟩
    exact digit_filled digit
  by_cases ends : literal.spaced = false ∨ literal.zone ≠ none
  · have trimmed := trims [] shaped (literal_closed shaped ends) (by simp)
    exact ⟨literal, shaped, by rw [List.append_nil] at trimmed; exact trimmed.symm⟩
  · obtain ⟨year, month, day, clock, spaced, zone⟩ := literal
    obtain ⟨rfl, rfl⟩ : spaced = true ∧ zone = none := by simpa using ends
    have kept : Literal.Shaped isDecimalDigit ⟨year, month, day, clock, false, none⟩ :=
      ⟨shaped.year, shaped.month, shaped.day, shaped.clock, by simp⟩
    have trimmed := trims [' '] kept (literal_closed kept (.inl rfl))
      (forall_of_all rfl)
    refine ⟨_, kept, trimmed.symm.trans (congrArg Text.trim ?_)⟩
    simp [Literal.text, endText]

/-! ## Errors -/

theorem head_behind {front : Text} {c : Char} (head : front.head? = some c) (back : Text) :
    (front ++ back).head? = some c := by
  rw [List.head?_append, head, Option.some_or]

/-- The message about a text that cannot be cut into fields is told by its first character. -/
theorem message_head {e : DateTime.LiteralError} (other : ∀ text, e ≠ .unrecognized text) :
    e.message.head? = some 'i' ∨ e.message.head? = some 'z' ∨ e.message.head? = some '\'' := by
  have heads : ("invalid year '".toList.head? = some 'i' ∧
      "invalid date-time field '".toList.head? = some 'i' ∧
      "invalid date '".toList.head? = some 'i' ∧ "invalid time '".toList.head? = some 'i' ∧
      "invalid zone '".toList.head? = some 'i') ∧
      "zone offset out of range '".toList.head? = some 'z' := by decide
  obtain ⟨⟨year, field, date, time, zone⟩, range⟩ := heads
  cases e with
  | unrecognized text => exact absurd rfl (other text)
  | badYear digits cause => exact .inl (head_behind (head_behind (head_behind year _) _) _)
  | badField digits cause => exact .inl (head_behind (head_behind (head_behind field _) _) _)
  | noSuchDate text => exact .inl (head_behind (head_behind date _) _)
  | noSuchTime text => exact .inl (head_behind (head_behind time _) _)
  | badZone digits cause => exact .inl (head_behind (head_behind (head_behind zone _) _) _)
  | zoneOutOfRange text => exact .inr (.inl (head_behind (head_behind range _) _))
  | skipped text => exact .inr (.inr rfl)

/-- Only a text that cannot be cut into fields is said not to be recognized. -/
theorem recognized_message {e : DateTime.LiteralError} (other : ∀ text, e ≠ .unrecognized text) :
    ¬"unrecognized date-time".toList <+: e.message := by
  rintro ⟨rest, same⟩
  have first : "unrecognized date-time".toList.head? = some 'u' := by decide
  have head := head_behind first rest
  rw [same] at head
  rcases message_head other with letter | letter | quote
  · rw [letter] at head
    cases head
  · rw [letter] at head
    cases head
  · rw [quote] at head
    cases head

/-- A result other than the error about a text that cannot be cut into fields. -/
def Recognizes {α : Type} (result : Except DateTime.LiteralError α) : Prop :=
  ∀ text, result ≠ .error (.unrecognized text)

@[simp] theorem recognizes_ok {α : Type} (a : α) : Recognizes (.ok a) := by
  intro text same
  cases same

@[simp] theorem recognizes_error_iff {α : Type} {e : DateTime.LiteralError} :
    Recognizes (.error e : Except DateTime.LiteralError α) ↔ ∀ text, e ≠ .unrecognized text := by
  simp [Recognizes]

theorem Recognizes.bind {α β : Type} {result : Except DateTime.LiteralError α}
    {f : α → Except DateTime.LiteralError β} (first : Recognizes result)
    (later : ∀ a, Recognizes (f a)) : Recognizes (result >>= f) := by
  cases result with
  | error e => exact fun text same => first text (by cases same; rfl)
  | ok a => exact later a

theorem read_year_recognizes (digits : Text) : Recognizes (DateTime.readYear digits) := by
  rw [DateTime.readYear]
  split
  · simp
  · split <;> simp

theorem read_field_recognizes (digits : Text) : Recognizes (DateTime.readField digits) := by
  rw [DateTime.readField]
  split <;> simp

theorem read_zone_recognizes (zone : LocalZone) (text : Text) (date : Date) (time : TimeOfDay)
    (written : Option Text) : Recognizes (DateTime.readZone zone text date time written) := by
  have signed : ∀ written, Recognizes (DateTime.readSignedZone written) := by
    intro written
    simp only [DateTime.readSignedZone]
    split
    · simp
    · simp
    · split <;> simp
  unfold DateTime.readZone
  split
  · cases zone.offset? date time with
    | none => exact recognizes_error_iff.mpr (by simp)
    | some offset => exact recognizes_ok _
  · simp
  · simp
  · exact signed _

/-- Once a text is cut into fields, it is recognized. -/
theorem of_parts_recognizes (zone : LocalZone) (text : Text) (parts : DateTime.LiteralParts) :
    Recognizes (DateTime.ofParts zone text parts) := by
  rw [DateTime.ofParts]
  refine (read_year_recognizes _).bind fun year => (read_field_recognizes _).bind fun month =>
    (read_field_recognizes _).bind fun day => ?_
  dsimp only
  split
  · exact recognizes_error_iff.mpr (by simp)
  have rest : ∀ time : TimeOfDay, Recognizes
      (if !time.isValid then .error (.noSuchTime text) else do
        let offset ← DateTime.readZone zone text ⟨year, month, day⟩ time parts.zone
        return DateTime.ofLocal ⟨year, month, day⟩ time offset) := by
    intro time
    split
    · simp
    · exact (read_zone_recognizes zone text _ time _).bind fun offset => recognizes_ok _
  split
  · exact rest .midnight
  · exact (read_field_recognizes _).bind fun hour => (read_field_recognizes _).bind fun minute =>
      (read_field_recognizes _).bind fun second => rest ⟨hour, minute, second⟩

theorem of_literal_recognizes {text : Text} {parts : DateTime.LiteralParts}
    (cuts : DateTime.LiteralParts.ofText? text.trim = some parts) (zone : LocalZone) :
    Recognizes (DateTime.ofLiteral text zone) := by
  simp only [DateTime.ofLiteral, cuts]
  exact of_parts_recognizes zone _ _

/-! ## One token -/

theorem clock_short {literal : Literal} (shaped : literal.Shaped isDecimalDigit) :
    (clockText literal.clock).length ≤ 9 := by
  cases fields : literal.clock with
  | none => simp [clockText]
  | some clock =>
    obtain ⟨hour, minute, second⟩ := clock
    obtain ⟨hours, minutes, seconds⟩ := shaped.clock hour minute second fields
    have bounds := And.intro hours.length (And.intro minutes.length seconds.length)
    simp only [List.mem_cons, List.not_mem_nil, or_false] at bounds
    simp only [clockText, List.length_cons, List.length_append]
    omega

theorem zone_short {zone : Zone} (shaped : zone.Shaped isDecimalDigit) : zone.text.length ≤ 6 := by
  cases zone with
  | letter mark => simp [Zone.text]
  | signed sign hours colon minutes =>
    have bounds := And.intro shaped.2.1.length shaped.2.2.length
    simp only [List.mem_singleton] at bounds
    cases colon <;> simp [Zone.text, bounds]

/-- Literals have few characters. -/
theorem literal_short {literal : Literal} (shaped : literal.Shaped isDecimalDigit) :
    literal.text.length ≤ 26 := by
  have bounds := And.intro shaped.year.length (And.intro shaped.month.length shaped.day.length)
  have clock := clock_short shaped
  have zone : ((literal.zone.map Zone.text).getD []).length ≤ 6 := by
    cases written : literal.zone with
    | none => simp
    | some zone => exact zone_short (shaped.zone zone written)
  have space : (if literal.spaced then [' '] else []).length ≤ 1 := by split <;> simp
  simp only [List.mem_cons, List.not_mem_nil, or_false] at bounds
  simp only [Literal.text, endText, List.length_append, List.length_cons]
  omega

/-- No scanner in front of that of date-times matches a text that begins with a digit. -/
theorem date_first (keepCase : Bool) (zone : LocalZone) {c : Char} (digit : c ∈ decimalDigits)
    (rest : Text) :
    First (ScannerSet.builtIn keepCase zone).entries (c :: rest) none
      (entryOf keepCase zone .dateTime) 3 := by
  have apart : ∀ c ∈ decimalDigits, ∀ other ∈ before .dateTime,
      (firsts other.expression.route).any (·.contains c) = false :=
    forall_of_all (by decide +kernel)
  refine first_of_passed fun other earlier =>
    scan_of_nothing keepCase zone none (nothing_unless_beginning rest fun begins => ?_)
  have first := (List.mem_filter.mp begins).2
  rw [apart c digit other earlier] at first
  cases first

/-- A text without blanks around it that is read as a date-time is one token of a run over it. -/
theorem run_read (preferences : LexicalPreferences) {zone : LocalZone} {text : Text} {t : DateTime}
    (head : ∀ c ∈ text.head?, isBlank c = false) (last : ∀ c ∈ text.getLast?, isBlank c = false)
    (reads : DateTime.ofLiteral text zone = .ok t) :
    ∃ metrics, (Tokenizer.ofPreferences preferences zone).run text =
      .accepted [⟨.dateTime, .dateTime t, some text⟩] metrics := by
  obtain ⟨literal, valid, same, -⟩ := reads_iff.mp ⟨t, reads⟩
  rw [trim_of_ends head last] at same
  subst same
  have shaped := shaped_of_ascii valid.shaped
  have way := literal_preferred shaped
  have converts : BuiltIn.dateTime.convert preferences.caseSensitive zone literal.text =
      .ok (.value (.dateTime t)) := by
    rw [BuiltIn.convert, BuiltIn.toDateTime, reads]
  have short : literal.text.length + 1 < Position.counterBound := by
    have few := literal_short shaped
    have bound : Position.counterBound = 2 ^ 32 := rfl
    omega
  obtain ⟨c, others, year⟩ := List.exists_cons_of_ne_nil (valid.shaped.year.filled (by decide))
  have digit : c ∈ decimalDigits := mem_decimal_iff.mpr (valid.shaped.year.inside c (by simp [year]))
  have first : First (ScannerSet.builtIn preferences.caseSensitive zone).entries literal.text none
      (entryOf preferences.caseSensitive zone .dateTime) 3 := by
    rw [Literal.text, year]
    exact date_first preferences.caseSensitive zone digit _
  exact single_run first (scan_alone way converts) rfl way.filled (advance_from_start short) rfl rfl rfl

/-- The scanner and the reader of date-times agree. What the scanner matches, the pattern of whole
literals matches when it is trimmed, and the conversion never says that it is not recognized; and
what is read as a date-time, without blanks around it, is one token of that value. -/
theorem scanner_reader_agree (preferences : LexicalPreferences) (zone : LocalZone) (text : Text) :
    (∀ previous found, BuiltIn.dateTime.expression.route.find? text = some found →
      (∃ pattern, Pattern.read true literalPattern = .ok pattern ∧
        (pattern.route.find? found.text.trim).isSome = true) ∧
      (∃ parts, DateTime.LiteralParts.ofText? found.text.trim = some parts) ∧
      ∀ e, (BuiltIn.dateTime.scanner preferences.caseSensitive zone).scan text previous = .error e →
        ¬"unrecognized date-time".toList <+: e.message) ∧
    ∀ t, (∀ c ∈ text.head?, isBlank c = false) → (∀ c ∈ text.getLast?, isBlank c = false) →
      DateTime.ofLiteral text zone = .ok t →
      ∃ metrics, (Tokenizer.ofPreferences preferences zone).run text =
        .accepted [⟨.dateTime, .dateTime t, some text⟩] metrics := by
  refine ⟨fun previous found finds => ?_, fun t head last reads =>
    run_read preferences head last reads⟩
  obtain ⟨back, rfl, way⟩ := found_matches finds
  obtain ⟨literal, shaped, same⟩ := shaped_of_spells way.spells
  obtain ⟨trimmed, kept, whole⟩ := shaped_trimmed shaped
  rw [same] at whole
  have cuts : ∃ parts, DateTime.LiteralParts.ofText? found.text.trim = some parts :=
    ⟨trimmed.parts, by rw [← whole, parts_of_shaped kept]⟩
  have reads : ∃ pattern, Pattern.read true literalPattern = .ok pattern ∧
      pattern.route = literalRoute := by
    have route := literal_route
    cases read : Pattern.read true literalPattern with
    | error e =>
      rw [read] at route
      cases route
    | ok pattern =>
      rw [read] at route
      exact ⟨pattern, rfl, Except.ok.inj route⟩
  obtain ⟨pattern, read, route⟩ := reads
  refine ⟨⟨pattern, read, route ▸ (cut_iff_matched _).mp cuts⟩, cuts, fun e fails => ?_⟩
  obtain ⟨parts, cut⟩ := cuts
  rw [scan_converts way rfl, BuiltIn.convert, BuiltIn.toDateTime] at fails
  cases result : DateTime.ofLiteral found.text zone with
  | ok t =>
    rw [result] at fails
    cases fails
  | error cause =>
    rw [result] at fails
    cases fails
    exact recognized_message fun text same => of_literal_recognizes cut zone text (result.trans
      (congrArg Except.error same))

/-- A match with a space at its end, and a leap day with its clock and its zone by itself. -/
theorem leap_day_agrees :
    (∃ parts, DateTime.LiteralParts.ofText? (Text.trim "24-2-29 23:5:9 ".toList) = some parts) ∧
      ∃ metrics, (Tokenizer.ofPreferences .builtIn).run "24-2-29 23:5:9 -0099".toList =
        .accepted [⟨.dateTime, .dateTime ⟨1709253849, 0, -5940⟩,
          some "24-2-29 23:5:9 -0099".toList⟩] metrics := by
  obtain ⟨found, finds, same⟩ := Option.map_eq_some_iff.mp
    (show (BuiltIn.dateTime.expression.route.find? "24-2-29 23:5:9 + 1".toList).map
      Route.Match.text = some "24-2-29 23:5:9 ".toList by decide +kernel)
  have agrees := (scanner_reader_agree .builtIn .utc "24-2-29 23:5:9 + 1".toList).1 none found finds
  rw [same] at agrees
  have reads : DateTime.ofLiteral "24-2-29 23:5:9 -0099".toList = .ok ⟨1709253849, 0, -5940⟩ := by
    decide +kernel
  have head : ∀ c ∈ "24-2-29 23:5:9 -0099".toList.head?, isBlank c = false := by
    rintro _ ⟨⟩
    rfl
  have last : ∀ c ∈ "24-2-29 23:5:9 -0099".toList.getLast?, isBlank c = false := by
    rintro _ ⟨⟩
    rfl
  exact ⟨agrees.2.1, (scanner_reader_agree .builtIn .utc "24-2-29 23:5:9 -0099".toList).2
    ⟨1709253849, 0, -5940⟩ head last reads⟩

end FormulaLexer.DateTimeTokens
