import FormulaLexer.Proofs.Balance
import FormulaLexer.Proofs.Coverage
import FormulaLexer.Proofs.PositionMeasure

/-! Where the errors of a run lie. The position is carried along over tokens, blanks and line ends,
apart from the offset and from what a step has covered already. All the same, each error names the
place of the source at its own byte offset, a parse error shows the text behind that place, and a
mark without a partner lies behind the texts of all tokens in front of it. -/
namespace FormulaLexer.ErrorPlaces
open Text TextCuts Progress Steps Nesting Balance Counting BuiltInMatches Coverage
open PositionMeasure (take_bytes_front)

/-! ## Places of the input -/

/-- A position of the input with `rest` behind it. -/
def Reaches (input rest : Text) (position : Position) : Prop :=
  ∃ front, input = front ++ rest ∧ Position.start.advanceText? front = some position

variable {input rest covered : Text} {position reached : Position}

theorem Reaches.offset (reaches : Reaches input rest position) :
    ∃ front, input = front ++ rest ∧ byteSize front = position.offset := by
  obtain ⟨front, whole, moves⟩ := reaches
  refine ⟨front, whole, ?_⟩
  rw [advance_text_eq moves, moved_offset]
  exact (Nat.zero_add _).symm

theorem Reaches.moved (reaches : Reaches input (covered ++ rest) position)
    (moves : position.advanceText? covered = some reached) : Reaches input rest reached := by
  obtain ⟨front, whole, before⟩ := reaches
  refine ⟨front ++ covered, by rw [whole, List.append_assoc], ?_⟩
  rw [advance_text_append before, moves]

/-- A position of the input is the one that its offset is located at. -/
theorem Reaches.located (reaches : Reaches input rest position) :
    Position.locate? input position.offset = some position := by
  obtain ⟨front, whole, moves⟩ := reaches
  have size : position.offset = byteSize front := by
    rw [advance_text_eq moves, moved_offset]
    exact Nat.zero_add _
  rw [Position.locate?, size, whole, take_bytes_front, moves]

/-! ## Errors of a step -/

/-- An error of plain lexing at a position with `rest` behind it. -/
inductive FailsAt (rest : Text) (position : Position) : TokenizerError → Prop where
  | parse (detail : Option Text) : FailsAt rest position (.parseAt rest position detail)
  | zeroWidth (category : Category) : FailsAt rest position (.zeroWidth category position)

/-- Tokens that lie one behind the other from an offset on, each at a position of the input. -/
def Laid (input : Text) : (offset : Nat) → List PlacedToken → Prop
  | _, [] => True
  | offset, item :: items =>
    item.start.offset = offset ∧ (∃ rest, Reaches input rest item.start) ∧
      Laid input (offset + byteSize item.token.text) items

/-- The bytes of the texts of tokens. -/
def bytes (items : List PlacedToken) : Nat := (items.map fun item => byteSize item.token.text).sum

theorem laid_append {offset : Nat} {front back : List PlacedToken} :
    Laid input offset (front ++ back) ↔
      Laid input offset front ∧ Laid input (offset + bytes front) back := by
  induction front generalizing offset with
  | nil => simp [Laid, bytes]
  | cons item front ih => simp [Laid, ih, bytes, and_assoc, Nat.add_assoc]

theorem place_laid (tokens : List Token) (reaches : Reaches input rest position) :
    Laid input position.offset (place tokens rest position).placed ∧
      ∀ e, (place tokens rest position).outcome = .error (.failed e) →
        ∃ left stop, Reaches input left stop ∧ FailsAt left stop e := by
  induction tokens generalizing rest position with
  | nil => simp [place, Laid]
  | cons token tokens ih =>
    rw [place]
    split
    · refine ⟨trivial, fun e failed => ?_⟩
      cases failed
      exact ⟨rest, position, reaches, .parse _⟩
    · next covered back cut =>
      obtain ⟨rfl, size⟩ := split_exact cut
      split
      · refine ⟨⟨rfl, ⟨_, reaches⟩, trivial⟩, fun e failed => ?_⟩
        cases failed
      · next reached moves =>
        obtain ⟨others, fails⟩ := ih (reaches.moved moves)
        have further : reached.offset = position.offset + byteSize token.text := by
          rw [advance_text_eq moves, moved_offset, size]
        refine ⟨⟨rfl, ⟨_, reaches⟩, further ▸ others⟩, fun e failed => fails e ?_⟩
        cases inner : (place tokens back reached).outcome with
        | ok more => simp [inner, Except.map] at failed
        | error ending => simpa [inner, Except.map] using failed

theorem step_laid {set : ScannerSet} {previous : Option Token} {step : Step}
    (reaches : Reaches input rest position)
    (taken : (takeStep set rest previous position).step = some step) :
    Laid input position.offset step.produced := by
  obtain ⟨_, _, tokens, -, -, rfl, -⟩ := step_scanned taken
  exact (place_laid tokens reaches).1

theorem step_fails {set : ScannerSet} {previous : Option Token} {e : TokenizerError}
    (reaches : Reaches input rest position)
    (failed : (takeStep set rest previous position).outcome = .error (.failed e)) :
    ∃ left stop, Reaches input left stop ∧ FailsAt left stop e := by
  rw [takeStep] at failed
  split at failed
  · cases failed
    exact ⟨rest, position, reaches, .parse _⟩
  · cases failed
    exact ⟨rest, position, reaches, .parse _⟩
  · split at failed
    · cases failed
      exact ⟨rest, position, reaches, .zeroWidth _⟩
    · exact (place_laid _ reaches).2 e failed

/-- A step that passes leads behind the texts of its tokens. -/
theorem step_moves {set : ScannerSet} {previous : Option Token} {back : Text} {further : Advance}
    {step : Step} (length : covered.length = further.covered)
    (passed : (takeStep set (covered ++ back) previous position).outcome = .ok further)
    (taken : (takeStep set (covered ++ back) previous position).step = some step) :
    position.advanceText? covered = some further.reached ∧
      further.reached.offset = position.offset + bytes step.produced := by
  obtain ⟨winner, attempts, tokens, -, -, rfl, outcome⟩ := step_scanned taken
  rw [outcome] at passed
  obtain ⟨part, left, split, partLength, size, moves, produced⟩ := place_covers passed
  obtain ⟨rfl, -⟩ := List.append_inj split (by omega)
  have counted : bytes (place tokens (covered ++ back) position).placed = byteSize covered := by
    rw [size, bytes]
    conv_rhs => rw [← produced, List.map_map]
    rfl
  exact ⟨moves, by rw [counted, advance_text_eq moves, moved_offset]⟩

/-! ## Closing parentheses -/

/-- The closing mark is spelled in one way. -/
theorem closing_spelling {raw : Text} {v : Value}
    (converted : BuiltIn.lookUp "grouping" BuiltIn.groupingMarks raw = .ok (.value v))
    (closes : v.isSymbol .closing = true) : raw = [')'] := by
  obtain ⟨⟨spelling, name⟩, listed, rfl, same⟩ := look_up_entry converted
  cases same
  simp only [BuiltIn.groupingMarks, List.mem_cons, List.not_mem_nil, or_false,
    Prod.mk.injEq] at listed
  rcases listed with ⟨rfl, rfl⟩ | ⟨rfl, rfl⟩ | ⟨rfl, rfl⟩
  · cases closes
  · rfl
  · cases closes

/-- Tokens laid down are among those given, and one alone lies where it is laid. -/
theorem mem_place {tokens : List Token} {item : PlacedToken}
    (member : item ∈ (place tokens rest position).placed) :
    item.token ∈ tokens ∧ (tokens.length = 1 → item.start = position) := by
  induction tokens generalizing rest position with
  | nil => cases member
  | cons token tokens ih =>
    rw [place] at member
    split at member
    · cases member
    · split at member
      · cases List.mem_singleton.mp member
        exact ⟨by simp, fun _ => rfl⟩
      · rcases List.mem_cons.mp member with rfl | later
        · exact ⟨by simp, fun _ => rfl⟩
        · obtain ⟨listed, -⟩ := ih later
          refine ⟨List.mem_cons_of_mem _ listed, fun alone => ?_⟩
          rw [List.length_cons, Nat.add_eq_right] at alone
          rw [List.eq_nil_of_length_eq_zero alone] at listed
          cases listed

/-- A closing mark that a step of built-in scanners produces is the parenthesis at its start. -/
theorem step_closing {set : ScannerSet} (own : OfBuiltIns set) {previous : Option Token}
    {step : Step} (taken : (takeStep set rest previous position).step = some step)
    {item : PlacedToken} (member : item ∈ step.produced)
    (closes : item.token.isGrouping .closing = true) :
    ∃ behind, rest = ')' :: behind ∧ item.start = position := by
  obtain ⟨winner, _, tokens, first, scanned, rfl, -⟩ := step_scanned taken
  obtain ⟨builtIn, keepCase, zone, same⟩ := own winner first.mem
  rw [same] at scanned
  obtain ⟨listed, alone⟩ := mem_place member
  cases scan_made scanned with
  | head =>
    simp only [functionHead, List.mem_cons, List.not_mem_nil, or_false] at listed
    rcases listed with same | same <;> simp [same, Token.isGrouping] at closes
    cases closes
  | @value _ front back v _ whole _ converts =>
    rw [List.mem_singleton.mp listed, Token.isGrouping, Bool.and_eq_true, decide_eq_true_eq] at closes
    obtain ⟨grouping, closing⟩ := closes
    obtain rfl : builtIn = .grouping := by
      cases builtIn <;> first | rfl | cases grouping
    rw [closing_spelling converts closing] at whole
    exact ⟨back, whole, alone rfl⟩

/-! ## The whole trace -/

theorem trace_laid (set : ScannerSet) (previous : Option Token)
    (reaches : Reaches input rest position) :
    Laid input position.offset (traceFrom set rest 0 previous position).produced ∧
      ∀ e, (traceFrom set rest 0 previous position).ending = .failed e →
        ∃ left stop, Reaches input left stop ∧ FailsAt left stop e := by
  revert reaches
  refine trace_induction (motive := fun rest _ position t => Reaches input rest position →
    Laid input position.offset t.produced ∧ ∀ e, t.ending = .failed e →
      ∃ left stop, Reaches input left stop ∧ FailsAt left stop e) ?_ ?_ ?_ rest previous position
  · intro previous position _
    exact ⟨trivial, fun e failed => by cases failed⟩
  · intro rest previous position ending _ stopped reaches
    refine ⟨?_, fun e failed => ?_⟩
    · cases taken : (takeStep set rest previous position).step with
      | none => exact trivial
      | some step => simpa [Trace.produced] using step_laid reaches taken
    · dsimp only at failed
      subst failed
      exact step_fails reaches stopped
  · intro covered back previous position further step others _ length passed taken _ later reaches
    obtain ⟨moves, further⟩ := step_moves length passed taken
    obtain ⟨laid, fails⟩ := later (reaches.moved moves)
    refine ⟨?_, fails⟩
    rw [Trace.produced, List.flatMap_cons, laid_append]
    exact ⟨step_laid reaches taken, further ▸ laid⟩

theorem trace_closing {set : ScannerSet} (own : OfBuiltIns set) (previous : Option Token)
    (reaches : Reaches input rest position) {item : PlacedToken}
    (member : item ∈ (traceFrom set rest 0 previous position).produced)
    (closes : item.token.isGrouping .closing = true) :
    ∃ behind, Reaches input (')' :: behind) item.start := by
  revert reaches member
  refine trace_induction (motive := fun rest _ position t => Reaches input rest position →
    item ∈ t.produced → ∃ behind, Reaches input (')' :: behind) item.start) ?_ ?_ ?_ rest previous
    position
  · intro previous position _ member
    cases member
  · intro rest previous position ending _ _ reaches member
    obtain ⟨step, taken, produced⟩ := List.mem_flatMap.mp member
    obtain ⟨behind, rfl, start⟩ := step_closing own (Option.mem_toList.mp taken) produced closes
    exact ⟨behind, start ▸ reaches⟩
  · intro covered back previous position further step others _ length passed taken _ later reaches
      member
    rw [Trace.produced, List.flatMap_cons] at member
    rcases List.mem_append.mp member with produced | member
    · obtain ⟨behind, same, start⟩ := step_closing own taken produced closes
      exact ⟨behind, start ▸ same ▸ reaches⟩
    · exact later (reaches.moved (step_moves length passed taken).1) member

/-! ## Counting -/

/-- Counting tokens either keeps the level or meets the first mark without a partner. -/
theorem level_add_all {produced : List PlacedToken} {tally : Tally} (level : Level produced tally)
    (items : List PlacedToken) :
    match tally.addAll items with
    | .ok after => Level (items.reverse ++ produced) after
    | .error e => ∃ stop, e = .tooManyClosing stop ∧ Unmatched (produced.reverse ++ items) stop := by
  induction items generalizing produced tally with
  | nil => exact level
  | cons item items ih =>
    rw [Tally.addAll, Tally.add]
    rcases level.count item with ⟨failed, unmatched⟩ | ⟨after, counted, -, next⟩
    · rw [failed]
      refine ⟨item.start, rfl, unmatched.more ⟨items, by simp⟩⟩
    · rw [counted]
      have later := ih (next.token item.token)
      simpa using later

theorem level_add_steps {produced : List PlacedToken} {steps : List Step} {tally : Tally}
    {e : TokenizerError} (level : Level produced tally) (failed : tally.addSteps steps = .error e) :
    ∃ stop, e = .tooManyClosing stop ∧
      Unmatched (produced.reverse ++ steps.flatMap Step.produced) stop := by
  have counted := level_add_all level (steps.flatMap Step.produced)
  rwa [add_steps_error_iff.mp failed] at counted

/-- The token that takes the depth below zero closes a group. -/
theorem closing_of_depth {front : List PlacedToken} {item : PlacedToken}
    (nests : NeverNegative (front.map PlacedToken.token))
    (below : depth ((front ++ [item]).map PlacedToken.token) = -1) :
    item.token.isGrouping .closing = true := by
  have level := nests (front.map PlacedToken.token) List.prefix_rfl
  rw [List.map_append, depth_append, List.map_singleton, depth_singleton] at below
  rcases weight_cases item.token with ⟨weight, -⟩ | ⟨-, -, closes⟩ | ⟨weight, -⟩
  · omega
  · exact closes
  · omega

/-- A run is rejected at the place where plain lexing fails, at the first mark without a partner, or
because groups are left open. -/
theorem rejected_cases {set : ScannerSet} {e : TokenizerError}
    (rejected : (trace set input).outcome = .rejected e) :
    (trace set input).ending = .failed e ∨
      (∃ stop, e = .tooManyClosing stop ∧ Unmatched (trace set input).produced stop) ∨
      ∃ groups, e = .tooManyOpening groups := by
  rw [Trace.outcome] at rejected
  split at rejected
  · next failed =>
    cases rejected
    exact .inr (.inl (level_add_steps level_start failed))
  · split at rejected
    · next failed =>
      cases rejected
      exact .inl failed
    · cases rejected
    · split at rejected
      · cases rejected
        exact .inr (.inr ⟨_, rfl⟩)
      · cases rejected

/-! ## Exact places -/

/-- What the position of an error says. It is the place of the input at its own offset, which falls
between two characters; a parse error shows what stands behind it, up to forty characters; and a
mark without a partner is the first token that closes more groups than were opened, lies behind
the texts of all tokens produced before it, and is a closing parenthesis of the input if the
scanners are built-in ones. -/
structure Pinpoints (set : ScannerSet) (input : Text) (e : TokenizerError) (position : Position) :
    Prop where
  within : position.offset ≤ byteSize input
  boundary : Boundary input position.offset
  located : Position.locate? input position.offset = some position
  shown : ∀ remaining place detail, e = .parse remaining place detail →
    ∃ front back, input = front ++ back ∧ byteSize front = position.offset ∧
      remaining = if back.length ≤ 40 then back else back.take 40 ++ "...".toList
  unopened : ∀ place, e = .tooManyClosing place →
    ∃ front item back, (trace set input).produced = front ++ item :: back ∧
      NeverNegative (front.map PlacedToken.token) ∧
      depth ((front ++ [item]).map PlacedToken.token) = -1 ∧
      item.start = position ∧
      position.offset = (front.map fun item => byteSize item.token.text).sum ∧
      (OfBuiltIns set → ∃ before behind, input = before ++ ')' :: behind ∧
        byteSize before = position.offset)

/-- Every error of a run that has a position names it exactly, whatever the scanners and their
converters are. -/
theorem run_pinpoints (t : Tokenizer) (input : Text) (e : TokenizerError) (position : Position)
    (rejected : t.run input = .rejected e) (placed : e.position? = some position) :
    Pinpoints t.scanners input e position := by
  have start : Reaches input input .start := ⟨[], rfl, rfl⟩
  obtain ⟨laid, fails⟩ := trace_laid t.scanners none start
  have exact_place : ∀ {rest}, Reaches input rest position →
      position.offset ≤ byteSize input ∧ Boundary input position.offset ∧
        Position.locate? input position.offset = some position := by
    intro rest reaches
    obtain ⟨front, rfl, size⟩ := reaches.offset
    refine ⟨?_, ⟨front, rest, rfl, size⟩, reaches.located⟩
    rw [byte_size_append]
    omega
  rcases rejected_cases rejected with failed | ⟨stop, rfl, unmatched⟩ | ⟨groups, rfl⟩
  · obtain ⟨left, stop, reaches, kind⟩ := fails e failed
    have same : stop = position := by
      cases kind <;> exact Option.some.inj placed
    subst same
    obtain ⟨within, boundary, located⟩ := exact_place reaches
    refine ⟨within, boundary, located, fun remaining place detail parse => ?_, fun place close => ?_⟩
    · obtain ⟨front, whole, size⟩ := reaches.offset
      subst parse
      cases kind
      exact ⟨front, left, whole, size, abbreviate_eq 40 left⟩
    · subst close
      cases kind
  · cases placed
    obtain ⟨front, item, back, produced, nests, closes, begins⟩ := unmatched
    have parts := laid
    change Laid input 0 (trace t.scanners input).produced at parts
    rw [produced, laid_append] at parts
    obtain ⟨-, offset, ⟨rest, reaches⟩, -⟩ := parts
    rw [begins] at offset reaches
    obtain ⟨within, boundary, located⟩ := exact_place reaches
    refine ⟨within, boundary, located, fun _ _ _ parse => (by cases parse), fun _ _ => ?_⟩
    refine ⟨front, item, back, produced, nests, closes, begins, ?_, fun own => ?_⟩
    · rw [offset, bytes, Nat.zero_add]
    have member : item ∈ (trace t.scanners input).produced := by simp [produced]
    obtain ⟨behind, found⟩ := trace_closing own none start member (closing_of_depth nests closes)
    rw [begins] at found
    obtain ⟨before, whole, size⟩ := found.offset
    exact ⟨before, behind, whole, size⟩
  · cases placed

/-- A second parenthesis behind a call, in the second line and behind a letter of two bytes. -/
theorem call_pinpoints :
    (Tokenizer.mk .default .builtIn).run "f(é)\n )".toList =
        .rejected (.tooManyClosing ⟨7, 2, 2⟩) ∧
      Pinpoints .default "f(é)\n )".toList (.tooManyClosing ⟨7, 2, 2⟩) ⟨7, 2, 2⟩ := by
  have rejected : (Tokenizer.mk .default .builtIn).run "f(é)\n )".toList =
      .rejected (.tooManyClosing ⟨7, 2, 2⟩) := by decide +kernel
  exact ⟨rejected, run_pinpoints ⟨.default, .builtIn⟩ _ _ _ rejected rfl⟩

end FormulaLexer.ErrorPlaces
