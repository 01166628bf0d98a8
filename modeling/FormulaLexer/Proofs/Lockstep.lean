import Mathlib.Data.List.Forall2
import FormulaLexer.Tokenizer.Basic
import FormulaLexer.Proofs.TextCuts

/-! Two runs in lockstep. Runs over inputs that are alike, with scanners that make tokens alike of
them, take the same steps: they try as many scanners, cover as many characters, and end alike. What
counts as alike is left open. It only has to keep what a run looks at, which is the size of a
character and whether it is a newline, and of a token its category, its size and the symbol that it
stands for. -/
namespace FormulaLexer.Lockstep
open Text TextCuts

/-- What is alike in two runs, with all that a run looks at being the same in what is alike. -/
structure Likeness where
  char : Char → Char → Prop
  token : Token → Token → Prop
  refusal : ConversionError → ConversionError → Prop
  error : TokenizerError → TokenizerError → Prop
  char_size : ∀ {c d}, char c d → c.utf8Size = d.utf8Size
  char_newline : ∀ {c d}, char c d → (c = '\n' ↔ d = '\n')
  token_category : ∀ {a b}, token a b → a.category = b.category
  token_size : ∀ {a b}, token a b → byteSize a.text = byteSize b.text
  token_symbol : ∀ {a b}, token a b → ∀ s, a.value.isSymbol s = b.value.isSymbol s
  error_refl : ∀ e, error e e
  unmatched : ∀ {u v} position, List.Forall₂ char u v →
    error (.parseAt u position none) (.parseAt v position none)
  refused : ∀ {u v e f} position, List.Forall₂ char u v → refusal e f →
    error (.parseAt u position (some e.describe)) (.parseAt v position (some f.describe))
  misfit : ∀ {u v a b} position, List.Forall₂ char u v → token a b →
    error (.parseAt u position (some (misaligned a))) (.parseAt v position (some (misaligned b)))

variable {like : Likeness}

/-- Two results, both errors or both not. -/
inductive Results {ε α : Type} (errors : ε → ε → Prop) (values : α → α → Prop) :
    Except ε α → Except ε α → Prop where
  | error {e f : ε} (alike : errors e f) : Results errors values (.error e) (.error f)
  | ok {a b : α} (alike : values a b) : Results errors values (.ok a) (.ok b)

/-! ## Texts -/

/-- Texts of the same length whose characters are alike. -/
abbrev Likeness.Texts (like : Likeness) : Text → Text → Prop := List.Forall₂ like.char

theorem next_like {c d : Char} (alike : like.char c d) (position : Position) :
    position.next c = position.next d := by
  simp only [Position.next, like.char_newline alike, like.char_size alike]

theorem advance_like {u v : Text} (texts : like.Texts u v) (position : Position) :
    position.advanceText? u = position.advanceText? v := by
  induction texts generalizing position with
  | nil => rfl
  | cons alike texts ih =>
    rw [Position.advanceText?, Position.advanceText?, Position.advance?, Position.advance?,
      next_like alike]
    split
    · exact ih _
    · rfl

/-- Texts alike are cut alike. -/
theorem split_like {u v : Text} (texts : like.Texts u v) (bytes : Nat) :
    Option.Rel (fun cut other => like.Texts cut.1 other.1 ∧ like.Texts cut.2 other.2)
      (splitAtByte? bytes u) (splitAtByte? bytes v) := by
  induction texts generalizing bytes with
  | nil =>
    cases bytes with
    | zero => exact .some ⟨.nil, .nil⟩
    | succ bytes => exact .none
  | @cons c d u v alike texts ih =>
    cases bytes with
    | zero => exact .some ⟨.nil, .cons alike texts⟩
    | succ bytes =>
      have size := like.char_size alike
      rw [splitAtByte?, splitAtByte?, size]
      split
      · have inner := ih (bytes + 1 - d.utf8Size)
        generalize splitAtByte? (bytes + 1 - d.utf8Size) u = cut,
          splitAtByte? (bytes + 1 - d.utf8Size) v = other at inner ⊢
        cases inner with
        | none => exact .none
        | some parts => exact .some ⟨.cons alike parts.1, parts.2⟩
      · exact .none

/-! ## Scanners -/

/-- What two scanners make of the rest of their inputs. -/
abbrev Likeness.Scans (like : Likeness) :
    Except ConversionError (Option (List Token)) → Except ConversionError (Option (List Token)) →
      Prop :=
  Results like.refusal (Option.Rel (List.Forall₂ like.token))

/-- What two converters make of a match. The tokens of a value carry the text that was matched. -/
inductive Likeness.Conversions (like : Likeness) (category : Category) (raw other : Text) :
    Except Text Conversion → Except Text Conversion → Prop where
  | value {v w : Value} (alike : like.token ⟨category, v, some raw⟩ ⟨category, w, some other⟩) :
      like.Conversions category raw other (.ok (.value v)) (.ok (.value w))
  | tokens {ts us : List Token} (alike : List.Forall₂ like.token ts us) :
      like.Conversions category raw other (.ok (.tokens ts)) (.ok (.tokens us))
  | refused {message wording : Text}
      (alike : like.refusal ⟨category, raw, message⟩ ⟨category, other, wording⟩) :
      like.Conversions category raw other (.error message) (.error wording)

/-- Scanners that match alike, convert what they match alike, and are subject to the same condition
make tokens alike. -/
theorem scan_like {scanner other : Scanner} {u v : Text} {previous before : Option Token}
    (category : scanner.category = other.category)
    (accepts : scanner.accepts previous = other.accepts before)
    (finds : Option.Rel (fun part part' => like.Conversions scanner.category part.text part'.text
        (scanner.convert part.text) (other.convert part'.text))
      (scanner.route.find? u) (other.route.find? v)) :
    like.Scans (scanner.scan u previous) (other.scan v before) := by
  rw [Scanner.scan, Scanner.scan, accepts, ← category]
  generalize scanner.route.find? u = result, other.route.find? v = result' at finds ⊢
  cases finds with
  | none => exact .ok .none
  | @some part part' converts =>
    dsimp only
    split
    · generalize scanner.convert part.text = made, other.convert part'.text = made' at converts ⊢
      cases converts with
      | value alike => exact .ok (.some (.cons alike .nil))
      | tokens alike => exact .ok (.some alike)
      | refused alike => exact .error alike
    · exact .ok .none

/-- Whether a minus sign opens an operand is the same behind tokens alike. -/
theorem accepts_like {previous before : Option Token} (alike : Option.Rel like.token previous before)
    (builtIn : BuiltIn) (keepCase keepCase' : Bool) (zone : LocalZone) :
    (builtIn.scanner keepCase zone).accepts previous =
      (builtIn.scanner keepCase' zone).accepts before := by
  by_cases negate : builtIn = .negate
  · subst negate
    cases alike with
    | none => rfl
    | some alike =>
      simp only [Scanner.accepts, BuiltIn.scanner, BuiltIn.condition, BuiltIn.opensOperand,
        Option.all_some, like.token_category alike, like.token_symbol alike]
  · cases builtIn <;> first | rfl | exact absurd rfl negate

/-- Entries of two scanner sets that stand in the same place. -/
structure EntryLike (like : Likeness) (u v : Text) (previous before : Option Token)
    (entry other : ScannerEntry) : Prop where
  key : entry.key = other.key
  category : entry.scanner.category = other.scanner.category
  scans : like.Scans (entry.scanner.scan u previous) (other.scanner.scan v before)

/-- What two scanner sets make of the rest of their inputs. -/
inductive AcceptanceLike (like : Likeness) : Acceptance → Acceptance → Prop where
  | accepted {key : Text} {attempts : Nat} {category : Category} {ts us : List Token}
      (alike : List.Forall₂ like.token ts us) :
      AcceptanceLike like (.accepted key attempts category ts) (.accepted key attempts category us)
  | refused {e f : ConversionError} (alike : like.refusal e f) :
      AcceptanceLike like (.refused e) (.refused f)
  | unmatched : AcceptanceLike like .unmatched .unmatched

theorem accept_like {u v : Text} {previous before : Option Token}
    {entries others : List ScannerEntry}
    (alike : List.Forall₂ (EntryLike like u v previous before) entries others) (tried : Nat) :
    AcceptanceLike like (acceptFirst u previous tried entries) (acceptFirst v before tried others) := by
  induction alike generalizing tried with
  | nil => exact .unmatched
  | @cons entry other entries others alike _ ih =>
    rw [acceptFirst, acceptFirst, alike.key, alike.category]
    have scans := alike.scans
    generalize entry.scanner.scan u previous = scanned, other.scanner.scan v before = scanned'
      at scans ⊢
    cases scans with
    | error alike => exact .refused alike
    | ok alike =>
      cases alike with
      | none => exact ih (tried + 1)
      | some alike => exact .accepted alike

/-- Sets whose scanners make tokens alike wherever the runs have come. -/
def Alike (like : Likeness) (set other : ScannerSet) : Prop :=
  ∀ {u v : Text} {previous before : Option Token}, like.Texts u v →
    Option.Rel like.token previous before →
      List.Forall₂ (EntryLike like u v previous before) set.entries other.entries

/-- The standard scanners make tokens alike if their patterns match alike and what they match is
converted alike. -/
theorem built_in_alike {keepCase keepCase' : Bool} {zone : LocalZone}
    (finds : ∀ (builtIn : BuiltIn) {u v : Text}, like.Texts u v →
      Option.Rel (fun part part' => like.Conversions builtIn.category part.text part'.text
          (builtIn.convert keepCase zone part.text) (builtIn.convert keepCase' zone part'.text))
        (builtIn.expression.route.find? u) (builtIn.expression.route.find? v)) :
    Alike like (.builtIn keepCase zone) (.builtIn keepCase' zone) := by
  intro u v previous before texts last
  refine List.forall₂_map_left_iff.mpr (List.forall₂_map_right_iff.mpr ?_)
  refine List.forall₂_same.mpr fun builtIn _ => ⟨rfl, rfl, ?_⟩
  exact scan_like rfl (accepts_like last builtIn keepCase keepCase' zone) (finds builtIn texts)

/-! ## Steps -/

/-- Tokens alike at the same place. -/
structure ItemLike (like : Likeness) (item other : PlacedToken) : Prop where
  token : like.token item.token other.token
  start : item.start = other.start

/-- Endings of two runs. -/
inductive EndingLike (like : Likeness) : Ending → Ending → Prop where
  | complete : EndingLike like .complete .complete
  | failed {e f : TokenizerError} (alike : like.error e f) :
      EndingLike like (.failed e) (.failed f)
  | overflow : EndingLike like .overflow .overflow

/-- Tokens alike laid over texts alike. -/
structure PlacementLike (like : Likeness) (placement other : Placement) : Prop where
  placed : List.Forall₂ (ItemLike like) placement.placed other.placed
  outcome : Results (EndingLike like) Eq placement.outcome other.outcome

theorem Results.map {ε α β : Type} {errors : ε → ε → Prop} {x y : Except ε α} (f : α → β)
    (alike : Results errors Eq x y) : Results errors Eq (x.map f) (y.map f) := by
  cases alike with
  | error alike => exact .error alike
  | ok same => exact .ok (congrArg f same)

theorem place_like {ts us : List Token} (tokens : List.Forall₂ like.token ts us) {u v : Text}
    (texts : like.Texts u v) (position : Position) :
    PlacementLike like (place ts u position) (place us v position) := by
  induction tokens generalizing u v position with
  | nil => exact ⟨.nil, .ok rfl⟩
  | @cons a b ts us alike tokens ih =>
    rw [place, place, like.token_size alike]
    have cuts := split_like texts (byteSize b.text)
    generalize splitAtByte? (byteSize b.text) u = cut, splitAtByte? (byteSize b.text) v = cut'
      at cuts ⊢
    cases cuts with
    | none => exact ⟨.nil, .error (.failed (like.misfit position texts alike))⟩
    | @some cut cut' parts =>
      obtain ⟨covered, rest⟩ := cut
      obtain ⟨covered', rest'⟩ := cut'
      obtain ⟨front, back⟩ := parts
      dsimp only at front back ⊢
      rw [advance_like front, front.length_eq]
      cases position.advanceText? covered' with
      | none => exact ⟨.cons ⟨alike, rfl⟩ .nil, .error .overflow⟩
      | some reached =>
        have others := ih back reached
        exact ⟨.cons ⟨alike, rfl⟩ others.placed, others.outcome.map _⟩

/-- Tokens without text are found at the same places. -/
theorem zero_width_like {ts us : List Token} (tokens : List.Forall₂ like.token ts us)
    (category : Category) : zeroWidthCategory? category ts = zeroWidthCategory? category us := by
  have found : (ts.find? Token.isEmpty).map Token.category =
      (us.find? Token.isEmpty).map Token.category := by
    induction tokens with
    | nil => rfl
    | @cons a b ts us alike _ ih =>
      have empty : a.isEmpty = b.isEmpty := by
        have size := like.token_size alike
        rw [Token.isEmpty, Token.isEmpty, Bool.eq_iff_iff, List.isEmpty_iff, List.isEmpty_iff,
          ← byte_size_eq_zero, ← byte_size_eq_zero, size]
      rw [List.find?_cons, List.find?_cons, empty]
      split
      · exact congrArg some (like.token_category alike)
      · exact ih
  cases tokens with
  | nil => rfl
  | cons alike tokens => exact found

/-- Steps of two runs. -/
structure StepLike (like : Likeness) (step other : Step) : Prop where
  key : step.key = other.key
  attempts : step.attempts = other.attempts
  produced : List.Forall₂ (ItemLike like) step.produced other.produced

/-- The results of a step in two runs. -/
structure ResultLike (like : Likeness) (result other : StepResult) : Prop where
  step : Option.Rel (StepLike like) result.step other.step
  outcome : Results (EndingLike like) Eq result.outcome other.outcome

theorem step_like {set other : ScannerSet} (sets : Alike like set other) {u v : Text}
    (texts : like.Texts u v) {previous before : Option Token}
    (last : Option.Rel like.token previous before) (position : Position) :
    ResultLike like (takeStep set u previous position) (takeStep other v before position) := by
  rw [takeStep, takeStep]
  have accepts := accept_like (sets texts last) 0
  generalize acceptFirst u previous 0 set.entries = acceptance,
    acceptFirst v before 0 other.entries = acceptance' at accepts ⊢
  cases accepts with
  | unmatched => exact ⟨.none, .error (.failed (like.unmatched position texts))⟩
  | refused alike => exact ⟨.none, .error (.failed (like.refused position texts alike))⟩
  | @accepted key attempts category ts us alike =>
    dsimp only
    rw [zero_width_like alike]
    split
    · exact ⟨.none, .error (.failed (like.error_refl _))⟩
    · have placed := place_like alike texts position
      exact ⟨.some ⟨rfl, rfl, placed.placed⟩, placed.outcome⟩

/-! ## Traces -/

/-- Steps and endings of two runs. -/
structure TraceLike (like : Likeness) (t other : Trace) : Prop where
  steps : List.Forall₂ (StepLike like) t.steps other.steps
  ending : EndingLike like t.ending other.ending

/-- The last significant tokens are alike behind tokens alike. -/
theorem last_significant_like {placed others : List PlacedToken}
    (items : List.Forall₂ (ItemLike like) placed others) {previous before : Option Token}
    (last : Option.Rel like.token previous before) :
    Option.Rel like.token (lastSignificant previous placed) (lastSignificant before others) := by
  induction items generalizing previous before with
  | nil => exact last
  | cons alike _ ih =>
    rw [lastSignificant, List.foldl_cons, lastSignificant, List.foldl_cons,
      like.token_category alike.token]
    refine ih ?_
    split
    · exact last
    · exact .some alike.token

/-- Runs alike stay alike, step by step, to their ends. -/
theorem trace_like {set other : ScannerSet} (sets : Alike like set other) {u v : Text}
    (texts : like.Texts u v) (owed : Nat) {previous before : Option Token}
    (last : Option.Rel like.token previous before) (position : Position) :
    TraceLike like (traceFrom set u owed previous position)
      (traceFrom other v owed before position) := by
  induction texts generalizing owed previous before position with
  | nil => exact ⟨.nil, .complete⟩
  | @cons c d u v alike texts ih =>
    cases owed with
    | succ owed => exact ih owed last position
    | zero =>
      rw [traceFrom, traceFrom]
      have step := step_like sets (.cons alike texts) last position
      generalize takeStep set (c :: u) previous position = result,
        takeStep other (d :: v) before position = result' at step ⊢
      obtain ⟨step, outcome⟩ := step
      obtain ⟨taken, ends⟩ := result
      obtain ⟨taken', ends'⟩ := result'
      dsimp only at step outcome ⊢
      have steps : List.Forall₂ (StepLike like) taken.toList taken'.toList := by
        cases step with
        | none => exact .nil
        | some alike => exact .cons alike .nil
      have produced : List.Forall₂ (ItemLike like) (taken.toList.flatMap Step.produced)
          (taken'.toList.flatMap Step.produced) := by
        cases step with
        | none => exact .nil
        | some alike => simpa using alike.produced
      cases outcome with
      | error alike => exact ⟨steps, alike⟩
      | @ok further _ same =>
        subst same
        have others := ih (further.covered - 1) (last_significant_like produced last) further.reached
        exact ⟨List.rel_append steps others.steps, others.ending⟩

/-! ## Counting -/

/-- What two runs have counted so far. -/
structure TallyLike (like : Likeness) (tally other : Tally) : Prop where
  tokens : List.Forall₂ like.token tally.tokens other.tokens
  balance : tally.balance = other.balance
  metrics : tally.metrics = other.metrics

/-- Counting in two runs. -/
abbrev Likeness.Counts (like : Likeness) :
    Except TokenizerError Tally → Except TokenizerError Tally → Prop :=
  Results like.error (TallyLike like)

theorem grouping_like {tally other : Tally} (alike : TallyLike like tally other)
    {item item' : PlacedToken} (items : ItemLike like item item') :
    like.Counts (tally.addGrouping item) (other.addGrouping item') := by
  have marks : ∀ s, item.token.isGrouping s = item'.token.isGrouping s := fun s => by
    rw [Token.isGrouping, Token.isGrouping, like.token_category items.token,
      like.token_symbol items.token]
  rw [Tally.addGrouping, Tally.addGrouping, marks, marks, alike.balance, alike.metrics, items.start]
  split
  · exact .ok ⟨alike.tokens, rfl, rfl⟩
  · split
    · split
      · exact .error (like.error_refl _)
      · exact .ok ⟨alike.tokens, rfl, rfl⟩
    · exact .ok alike

theorem token_like {tally other : Tally} (alike : TallyLike like tally other) {token token' : Token}
    (tokens : like.token token token') :
    TallyLike like (tally.addToken token) (other.addToken token') := by
  rw [Tally.addToken, Tally.addToken, Metrics.countToken, Metrics.countToken,
    like.token_category tokens, alike.metrics]
  split
  · exact ⟨alike.tokens, alike.balance, rfl⟩
  · exact ⟨.cons tokens alike.tokens, alike.balance, rfl⟩

theorem add_all_like {tally other : Tally} (alike : TallyLike like tally other)
    {items items' : List PlacedToken} (produced : List.Forall₂ (ItemLike like) items items') :
    like.Counts (tally.addAll items) (other.addAll items') := by
  induction produced generalizing tally other with
  | nil => exact .ok alike
  | @cons item item' items items' first _ ih =>
    rw [Tally.addAll, Tally.addAll, Tally.add, Tally.add]
    have grouped := grouping_like alike first
    generalize tally.addGrouping item = counted, other.addGrouping item' = counted' at grouped ⊢
    cases grouped with
    | error alike => exact .error alike
    | ok alike => exact ih (token_like alike first.token)

theorem add_steps_like {tally other : Tally} (alike : TallyLike like tally other)
    {steps steps' : List Step} (taken : List.Forall₂ (StepLike like) steps steps') :
    like.Counts (tally.addSteps steps) (other.addSteps steps') := by
  induction taken generalizing tally other with
  | nil => exact .ok alike
  | @cons step step' steps steps' first _ ih =>
    rw [Tally.addSteps, Tally.addSteps]
    have counted : like.Counts (tally.addStep step) (other.addStep step') := by
      rw [Tally.addStep, Tally.addStep, alike.metrics, first.attempts]
      refine add_all_like ?_ first.produced
      exact ⟨alike.tokens, alike.balance, rfl⟩
    generalize tally.addStep step = result, other.addStep step' = result' at counted ⊢
    cases counted with
    | error alike => exact .error alike
    | ok alike => exact ih alike

/-! ## Outcomes -/

/-- Outcomes of two runs. -/
inductive OutcomeLike (like : Likeness) : Outcome → Outcome → Prop where
  | accepted {ts us : List Token} (metrics : Metrics) (alike : List.Forall₂ like.token ts us) :
      OutcomeLike like (.accepted ts metrics) (.accepted us metrics)
  | rejected {e f : TokenizerError} (alike : like.error e f) :
      OutcomeLike like (.rejected e) (.rejected f)
  | overflowed : OutcomeLike like .overflowed .overflowed

theorem outcome_like {t other : Trace} (alike : TraceLike like t other) :
    OutcomeLike like t.outcome other.outcome := by
  rw [Trace.outcome, Trace.outcome]
  have counted : like.Counts (Tally.zero.addSteps t.steps) (Tally.zero.addSteps other.steps) :=
    add_steps_like ⟨.nil, rfl, rfl⟩ alike.steps
  have ending := alike.ending
  generalize Tally.zero.addSteps t.steps = result, Tally.zero.addSteps other.steps = result'
    at counted ⊢
  generalize t.ending = ends, other.ending = ends' at ending ⊢
  cases counted with
  | error alike => exact .rejected alike
  | ok alike =>
    cases ending with
    | failed alike => exact .rejected alike
    | overflow => exact .overflowed
    | complete =>
      dsimp only
      rw [alike.balance, alike.metrics]
      split
      · exact .rejected (like.error_refl _)
      · exact .accepted _ (List.rel_reverse alike.tokens)

/-- Runs over inputs alike, with scanners that make tokens alike of them, end alike. -/
theorem run_like {set other : ScannerSet} (sets : Alike like set other) {u v : Text}
    (texts : like.Texts u v) : OutcomeLike like (trace set u).outcome (trace other v).outcome :=
  outcome_like (trace_like sets texts 0 .none .start)

end FormulaLexer.Lockstep
