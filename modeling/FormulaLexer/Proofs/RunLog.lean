import FormulaLexer.Proofs.LoggedLoop
import FormulaLexer.Proofs.MemoryLog
import FormulaLexer.Proofs.Resources
import FormulaLexer.Proofs.WrittenCounts

/-! The log of a run tells its outcome. Behind the start comes either one error, which is the one that
the run ends with and points at the character where it lies, or one success with the metrics that are
returned. The preferences decide what is logged beside that, and have no say in the outcome. -/
namespace FormulaLexer.RunLog
open Text TextCuts Progress Loop LoopSteps MemoryLog WrittenCounts

variable {t : Tokenizer} {input : Text} {e : TokenizerError} {metrics : Metrics}

/-! ## What events tell -/

/-- An event about the start of a run. -/
structure Begins (t : Tokenizer) (input : Text) (event : Log.Event) : Prop where
  level : event.level = .debug
  message : event.message = "Starting tokenization".toList
  context : event.context = [("bytes".toList, Text.ofNat input.byteSize),
    ("scanners".toList, Text.ofNat t.scanners.size)]
  span : event.span = none

/-- Where the event of an error points. It has a span if the preferences ask for one and the error has
a position; the span begins there, and it cuts the next character out of the input, or nothing at the
end. -/
structure Points (t : Tokenizer) (input : Text) (e : TokenizerError) (span? : Option Span) :
    Prop where
  present : span?.isSome ↔ t.preferences.includePositions = true ∧ e.position?.isSome
  place : ∀ span, span? = some span → e.position? = some span.start ∧
    ∃ front back, input = front ++ back ∧ byteSize front = span.start.offset ∧
      span.slice? input = some (back.take 1)

/-- An event about an error. It has the code and the wording of the error, which is cut if it is long,
tells the reason, and points at the place of the error. -/
structure Reports (t : Tokenizer) (input : Text) (e : TokenizerError) (event : Log.Event) : Prop where
  level : event.level = .error
  code : event.code = e.code
  message : event.message =
    if e.message.length ≤ 4096 then e.message else e.message.take 4096 ++ "...".toList
  context : event.context = [("reason".toList, e.reason.name)]
  points : Points t input e event.span

/-- An event about a success, with the metrics that are returned. -/
structure Announces (metrics : Metrics) (event : Log.Event) : Prop where
  level : event.level = .info
  code : event.code.text = "I020".toList
  message : event.message = "Tokenization completed".toList
  tokens : event.context.find? "tokens".toList = some (Text.ofNat metrics.totalTokens)
  skipped : event.context.find? "whitespace_skipped".toList =
    some (Text.ofNat metrics.whitespaceSkipped)
  nesting : event.context.find? "max_nesting".toList = some (Text.ofNat metrics.maxNesting)
  others : event.context.length = 3
  span : event.span = none

/-- An event about the counts of the categories. -/
structure Counts (metrics : Metrics) (event : Log.Event) : Prop where
  level : event.level = .debug
  message : event.message = "Token categories".toList
  context : event.context = [("counts".toList, metrics.writeCounts),
    ("scanner_attempts".toList, Text.ofNat metrics.attempts)]
  span : event.span = none

/-- An event about counts can be about the counts of one run only. -/
theorem Counts.unique {metrics other : Metrics} {event : Log.Event} (counts : Counts metrics event)
    (others : Counts other event) :
    metrics.categoryCounts = other.categoryCounts ∧ metrics.attempts = other.attempts := by
  have same := counts.context.symm.trans others.context
  simp only [List.cons.injEq, Prod.mk.injEq, true_and, and_true] at same
  exact ⟨write_counts_injective same.1, of_nat_injective same.2⟩

/-- What the events of a run tell of its outcome. A run that is given up for the length of its input has
no story. -/
inductive Story (t : Tokenizer) (input : Text) : Outcome → List Log.Event → Prop where
  | rejected {e : TokenizerError} {start error : Log.Event} (begins : Begins t input start)
      (reports : Reports t input e error) : Story t input (.rejected e) [start, error]
  | accepted {tokens : List Token} {metrics : Metrics} {start success : Log.Event}
      (begins : Begins t input start) (announces : Announces metrics success)
      (unasked : t.preferences.collectMetrics = false) :
      Story t input (.accepted tokens metrics) [start, success]
  | counted {tokens : List Token} {metrics : Metrics} {start success counts : Log.Event}
      (begins : Begins t input start) (announces : Announces metrics success)
      (asked : t.preferences.collectMetrics = true) (counted : Counts metrics counts) :
      Story t input (.accepted tokens metrics) [start, success, counts]

/-! ## The events of a run -/

theorem start_begins (t : Tokenizer) (input : Text) : Begins t input (t.startEvent input) :=
  ⟨rfl, rfl, rfl, rfl⟩

theorem success_announces (metrics : Metrics) :
    Announces metrics (Tokenizer.successEvent metrics) :=
  ⟨rfl, rfl, rfl, rfl, rfl, rfl, rfl, rfl⟩

theorem counts_counts (metrics : Metrics) : Counts metrics (Tokenizer.countsEvent metrics) :=
  ⟨rfl, rfl, rfl, rfl⟩

/-- The event of an error, part by part. -/
theorem error_event_eq (t : Tokenizer) (input : Text) (e : TokenizerError) :
    t.errorEvent input e =
      ⟨0, .error, e.code, Text.abbreviate 4096 e.message,
        if t.preferences.includePositions then
          e.position?.bind (Tokenizer.offendingSpan? input) else none,
        [("reason".toList, e.reason.name)]⟩ := by
  rw [Tokenizer.errorEvent]
  split <;> rfl

/-- The span of a position in a short input begins there, and cuts out the next character. -/
theorem span_points {position : Position} (short : input.length + 1 < Position.counterBound)
    (located : Located input position) :
    ∃ span, Tokenizer.offendingSpan? input position = some span ∧ span.start = position ∧
      ∃ front back, input = front ++ back ∧ byteSize front = span.start.offset ∧
        span.slice? input = some (back.take 1) := by
  obtain ⟨span, spans, begins, -, slice⟩ := Resources.offending_span_exists short located
  obtain ⟨front, back, rfl, moves⟩ := located
  obtain rfl := advance_text_eq moves
  rw [Resources.offending_text_eq] at slice
  refine ⟨span, spans, begins, front, back, rfl, ?_, slice⟩
  rw [begins, PositionMeasure.moved_measures]

/-- An error that lies in a short input is reported. -/
theorem error_reports (short : input.length + 1 < Position.counterBound)
    (located : ∀ position, e.position? = some position → Located input position) :
    Reports t input e (t.errorEvent input e) := by
  rw [error_event_eq]
  refine ⟨rfl, rfl, abbreviate_eq 4096 e.message, rfl, ?_⟩
  cases asked : t.preferences.includePositions with
  | false => exact ⟨by simp [asked], fun span pointed => by cases pointed⟩
  | true =>
    cases place : e.position? with
    | none => exact ⟨by simp [place], fun span pointed => by cases pointed⟩
    | some position =>
      obtain ⟨span, spans, begins, points⟩ := span_points short (located position place)
      have pointed : (if true then (some position).bind (Tokenizer.offendingSpan? input) else none) =
          some span := spans
      rw [pointed]
      refine ⟨by simp [asked, place], fun other same => ?_⟩
      cases same
      exact ⟨by rw [place, begins], points⟩

/-- The events of a run over a short input tell its outcome. -/
theorem events_tell (short : input.length + 1 < Position.counterBound) :
    Story t input (t.run input) (t.events input) := by
  have begins := start_begins t input
  rw [Tokenizer.events]
  cases ended : t.run input with
  | rejected e => exact .rejected begins (error_reports short (Resources.rejected_located ended))
  | overflowed =>
    have long := Resources.long_of_overflowed ended
    omega
  | accepted tokens metrics =>
    rw [Tokenizer.endEvents]
    cases asked : t.preferences.collectMetrics with
    | false => exact .accepted begins (success_announces metrics) asked
    | true => exact .counted begins (success_announces metrics) asked (counts_counts metrics)

/-! ## What a service gets of them -/

/-- A service that lets everything pass records every event. -/
theorem log_all (events : List Log.Event) (service : Log.Service) (all : service.least = .debug) :
    events.foldl Log.Service.log service =
      { service with memory := events.foldl Log.Memory.record service.memory } := by
  induction events generalizing service with
  | nil => rfl
  | cons event events ih =>
    have passes : service.shouldLog event.level = true := by
      rw [Log.Service.shouldLog, all]
      cases event.level <;> rfl
    rw [List.foldl_cons, List.foldl_cons, Log.Service.log, if_pos passes]
    exact ih _ all

theorem story_length {outcome : Outcome} {story : List Log.Event}
    (tells : Story t input outcome story) : story.length ≤ 3 := by
  cases tells <;> simp

/-- A run over a short input ends with its outcome, and behind a filter that lets everything pass the log
gets the story of that outcome and nothing else, whatever it held before; a log that was empty holds just
the story. No preferences make for another outcome. -/
theorem run_tells_story (t : Tokenizer) (input : Text) (short : input.length ≤ 2 ^ 32 - 2) :
    ∃ story, Story t input (t.run input) story ∧
      (∀ service : Log.Service, service.least = .debug →
        LoggedLoop.run t input service = (LoggedLoop.result (t.run input),
          { service with memory := story.foldl Log.Memory.record service.memory })) ∧
      (LoggedLoop.run t input (.ofLevel .debug)).2.memory.toList = story ∧
      ∀ preferences service, (LoggedLoop.run ⟨t.scanners, preferences⟩ input service).1 =
        LoggedLoop.result (t.run input) := by
  have bounded : input.length + 1 < Position.counterBound := by
    rw [show Position.counterBound = 2 ^ 32 from rfl]
    omega
  have tells : Story t input (t.run input) (t.events input) := events_tell bounded
  have logs : ∀ service : Log.Service, service.least = .debug →
      LoggedLoop.run t input service = (LoggedLoop.result (t.run input),
        { service with memory := (t.events input).foldl Log.Memory.record service.memory }) := by
    intro service all
    rw [LoggedLoop.run_logged, log_all _ _ all]
  refine ⟨t.events input, tells, logs, ?_, fun preferences service => ?_⟩
  · have few := story_length tells
    have room : (t.events input).length ≤ Log.memoryCapacity := by
      rw [Log.memoryCapacity]
      omega
    rw [logs _ rfl, record_all_to_list (Nat.zero_le _)]
    exact rtake_of_length_le room
  · rw [LoggedLoop.run_logged]
    rfl

/-- A parenthesis too many behind a letter of two bytes: the log holds two events, and the second points
at the parenthesis. -/
theorem parenthesis_tells :
    "é )".toList.length ≤ 2 ^ 32 - 2 ∧ ∃ start error,
      (LoggedLoop.run ⟨.default, .builtIn⟩ "é )".toList (.ofLevel .debug)).2.memory.toList =
        [start, error] ∧
      Reports ⟨.default, .builtIn⟩ "é )".toList (.tooManyClosing ⟨3, 1, 3⟩) error := by
  have short : "é )".toList.length ≤ 2 ^ 32 - 2 := by decide
  have rejected : (Tokenizer.mk .default .builtIn).run "é )".toList =
      .rejected (.tooManyClosing ⟨3, 1, 3⟩) := by decide +kernel
  obtain ⟨story, tells, -, held, -⟩ := run_tells_story ⟨.default, .builtIn⟩ "é )".toList short
  rw [rejected] at tells
  cases tells with
  | rejected begins reports => exact ⟨short, _, _, held, reports⟩

example : ((Tokenizer.mk .default .builtIn).events "é )".toList).map Log.Event.write =
    ["[DEBUG] D000 - Starting tokenization (bytes=4, scanners=17)".toList,
      ("[ERROR] E022 - too many closing parentheses at 1:3 at 1:3 " ++
        "(reason=too_many_closing_parentheses)").toList] := by decide +kernel

end FormulaLexer.RunLog
