import FormulaLexer.Proofs.Coverage
import FormulaLexer.Proofs.KeyMaps

/-! What the metrics of a run say about it. Tokens are counted where they are returned or dropped, and
the counts of the categories are kept in a map with ascending names, in which a name that was not met
has no entry. The number of scanners tried in a step is the place of the winner in the set; with the
built-in scanners it is never less than the number of tokens produced, since the only scanner that
makes two tokens does not stand first. -/
namespace FormulaLexer.RunMetrics
open Text TextCuts Progress Steps Loop LoopSteps Counting Coverage KeyMaps

/-! ## Counting tokens -/

/-- One more in the count of a key is one more in the sum of the counts. -/
theorem sum_alter (map : KeyMap Nat) (key : Text) :
    ((map.alter key fun count => count.getD 0 + 1).map Prod.snd).sum =
      (map.map Prod.snd).sum + 1 := by
  induction map with
  | nil => rfl
  | cons first map ih =>
    rw [KeyMap.alter]
    split
    · simp only [List.map_cons, List.sum_cons, Option.getD_none]
      omega
    · split
      · simp only [List.map_cons, List.sum_cons, Option.getD_some]
        omega
      · simp only [List.map_cons, List.sum_cons, ih]
        omega

/-- The number of tokens whose category has this name. -/
def named (name : Text) (tokens : List Token) : Nat :=
  tokens.countP fun token => token.category.name = name

/-- The number of tokens that are dropped. -/
def dropped (tokens : List Token) : Nat :=
  tokens.countP fun token => token.category = .whitespace

/-- Every token produced is returned or dropped. -/
theorem kept_or_dropped (produced : List Token) :
    (produced.filter significant).length + dropped produced = produced.length := by
  rw [dropped, ← List.countP_eq_length_filter,
    List.length_eq_countP_add_countP significant (l := produced)]
  congr 2
  funext token
  simp [significant]

/-- What a look-up of a count gives: nothing if there is nothing to count. -/
def count? (n : Nat) : Option Nat := if n = 0 then none else some n

/-- What a tally says of the tokens produced: it keeps those that are no blanks and counts the others,
and its counts by name are those of the tokens kept. -/
structure Counted (produced : List Token) (tally : Tally) : Prop where
  kept : tally.tokens.reverse = produced.filter significant
  total : tally.metrics.totalTokens = tally.tokens.length
  skipped : tally.metrics.whitespaceSkipped = dropped produced
  ascending : Ascending tally.metrics.categoryCounts
  counts : ∀ name, tally.metrics.categoryCounts.find? name = count? (named name tally.tokens)
  sum : (tally.metrics.categoryCounts.map Prod.snd).sum = tally.tokens.length
  untried : tally.metrics.attempts = 0

theorem counted_zero : Counted [] .zero :=
  ⟨rfl, rfl, rfl, .nil, fun _ => rfl, rfl, rfl⟩

/-- Opening and closing groups counts no tokens. -/
theorem Counted.grouped {produced : List Token} {tally after : Tally} {item : PlacedToken}
    (counted : Counted produced tally) (added : tally.addGrouping item = .ok after) :
    Counted produced after := by
  obtain ⟨same, -⟩ := add_grouping_frame added
  rw [same]
  exact ⟨counted.kept, counted.total, counted.skipped, counted.ascending, counted.counts,
    counted.sum, counted.untried⟩

@[simp] theorem count_getD (n : Nat) : (count? n).getD 0 = n := by
  rw [count?]
  split
  · next zero => exact zero.symm
  · rfl

/-- One more token of a category is one more in the count of its name. -/
theorem count_next (name : Text) (token : Token) (tokens : List Token) :
    count? (named name (token :: tokens)) =
      if token.category.name = name then some ((count? (named name tokens)).getD 0 + 1)
      else count? (named name tokens) := by
  by_cases same : token.category.name = name
  · have more : named name (token :: tokens) = named name tokens + 1 :=
      List.countP_cons_of_pos (by simpa using same)
    rw [if_pos same, more, count_getD]
    rfl
  · have equal : named name (token :: tokens) = named name tokens :=
      List.countP_cons_of_neg (by simpa using same)
    rw [if_neg same, equal]

theorem dropped_next (produced : List Token) (token : Token) :
    dropped (produced ++ [token]) =
      dropped produced + if token.category = .whitespace then 1 else 0 := by
  rw [dropped, List.countP_append, List.countP_singleton, dropped]
  simp only [decide_eq_true_eq]

theorem Counted.token {produced : List Token} {tally : Tally} (counted : Counted produced tally)
    (token : Token) : Counted (produced ++ [token]) (tally.addToken token) := by
  by_cases blank : token.category = .whitespace
  · have left : [token].filter significant = [] := by simp [significant, blank]
    rw [Tally.addToken, if_pos blank]
    refine ⟨?_, counted.total, ?_, counted.ascending, counted.counts, counted.sum, counted.untried⟩
    · rw [List.filter_append, left, List.append_nil]
      exact counted.kept
    · rw [dropped_next, if_pos blank]
      exact congrArg (· + 1) counted.skipped
  · have left : [token].filter significant = [token] := by simp [significant, blank]
    rw [Tally.addToken, if_neg blank]
    refine ⟨?_, ?_, ?_, alter_ascending counted.ascending, fun name => ?_, ?_, counted.untried⟩
    · rw [List.filter_append, left, List.reverse_cons, counted.kept]
    · exact congrArg (· + 1) counted.total
    · rw [dropped_next, if_neg blank]
      exact counted.skipped
    · rw [Metrics.countToken, find_alter counted.ascending, counted.counts, counted.counts,
        count_next]
      split
      · next same => rw [same]
      · rfl
    · rw [Metrics.countToken, sum_alter, counted.sum, List.length_cons]

theorem Counted.all {produced : List Token} {tally after : Tally} {items : List PlacedToken}
    (counted : Counted produced tally) (added : tally.addAll items = .ok after) :
    Counted (produced ++ items.map PlacedToken.token) after := by
  induction items generalizing produced tally with
  | nil =>
    cases added
    rwa [List.map_nil, List.append_nil]
  | cons item items ih =>
    rw [Tally.addAll] at added
    split at added
    · next first =>
      rw [Tally.add] at first
      split at first
      · next grouped =>
        cases first
        have later := ih ((counted.grouped grouped).token item.token) added
        rwa [List.append_assoc, List.singleton_append, ← List.map_cons] at later
      · cases first
    · cases added

/-- A name that has a count has a token. -/
theorem Counted.positive {produced : List Token} {tally : Tally} (counted : Counted produced tally) :
    ∀ entry ∈ tally.metrics.categoryCounts, entry.2 ≠ 0 := by
  intro entry member zero
  have found := find_of_mem counted.ascending member
  rw [counted.counts, zero, count?] at found
  split at found
  · cases found
  · next some => exact some (Option.some.inj found)

/-! ## Scanners tried -/

/-- The steps of a run over a text, to its end. In each of them the first scanner of the set that does
not pass by what is left wins, the number of scanners tried is its place in the set, and the step covers
the texts of the tokens that it makes. -/
inductive Won (set : ScannerSet) : Option Token → Text → List Step → Prop where
  | done {previous : Option Token} : Won set previous [] []
  | more {previous : Option Token} {covered back : Text} {step : Step} {steps : List Step}
      {winner : ScannerEntry}
      (first : First set.entries (covered ++ back) previous winner step.attempts)
      (key : step.key = winner.key)
      (scanned : winner.scanner.scan (covered ++ back) previous =
        .ok (some (step.produced.map PlacedToken.token)))
      (filled : covered ≠ [])
      (size : byteSize covered = (step.produced.map fun item => byteSize item.token.text).sum)
      (others : Won set (lastSignificant previous step.produced) back steps) :
      Won set previous (covered ++ back) (step :: steps)

variable {set : ScannerSet} {previous : Option Token} {rest : Text} {steps : List Step}

theorem won_of_complete (position : Position)
    (complete : (traceFrom set rest 0 previous position).ending = .complete) :
    Won set previous rest (traceFrom set rest 0 previous position).steps := by
  revert complete
  refine trace_induction (motive := fun rest previous _ t => t.ending = .complete →
    Won set previous rest t.steps) ?_ ?_ ?_ rest previous position
  · intro previous position _
    exact .done
  · intro rest previous position ending _ stopped complete
    dsimp only at complete
    subst complete
    exact absurd stopped (step_not_complete set rest previous position)
  · intro covered back previous position further step others filled length passed taken _ later
      complete
    obtain ⟨winner, attempts, tokens, _, _, first, scanned, -, same, placed, -⟩ := step_passed passed
    rw [taken] at same
    cases same
    obtain ⟨part, left, split, partLength, size, -, produced⟩ := place_covers placed
    obtain ⟨rfl, rfl⟩ := List.append_inj split (by omega)
    have sizes : byteSize covered = ((place tokens (covered ++ back) position).placed.map fun item =>
        byteSize item.token.text).sum := by
      rw [size]
      conv_lhs => rw [← produced, List.map_map]
      rfl
    refine .more first rfl ?_ filled sizes (later complete)
    rw [scanned, produced]

/-- A step tries no more scanners than there are. -/
theorem attempts_bounded (won : Won set previous rest steps) :
    attemptsOf steps ≤ steps.length * set.size := by
  induction won with
  | done => exact Nat.zero_le _
  | @more _ _ _ step steps _ first _ _ _ _ _ ih =>
    have tried : step.attempts ≤ set.size := by
      obtain ⟨front, back, split, same, -⟩ := first.split
      rw [ScannerSet.size, split, same, List.length_append, List.length_cons]
      omega
    rw [attemptsOf, List.map_cons, List.sum_cons, List.length_cons, Nat.succ_mul, Nat.add_comm]
    exact Nat.add_le_add ih tried

/-- In the built-in set, as many scanners are tried for a step as it produces tokens: only a function
head is two tokens, and functions do not stand first. -/
theorem produced_tried {keepCase : Bool} {zone : LocalZone} {winner : ScannerEntry} {attempts : Nat}
    {tokens : List Token}
    (first : First (ScannerSet.builtIn keepCase zone).entries rest previous winner attempts)
    (scanned : winner.scanner.scan rest previous = .ok (some tokens)) :
    tokens.length ≤ attempts := by
  obtain ⟨builtIn, member, same⟩ := List.mem_map.mp first.mem
  subst same
  have tried : 1 ≤ attempts := by
    obtain ⟨front, _, -, same, -⟩ := first.split
    omega
  cases scan_made scanned with
  | value => exact tried
  | head =>
    have behind : attempts ≠ 1 := by
      rintro rfl
      have foremost : some BuiltIn.null.key = some BuiltIn.function.key :=
        congrArg (Option.map ScannerEntry.key) first.get
      exact absurd foremost (by decide)
    rw [functionHead, List.length_cons, List.length_singleton]
    omega

theorem produced_bounded {keepCase : Bool} {zone : LocalZone}
    (won : Won (.builtIn keepCase zone) previous rest steps) :
    (steps.flatMap Step.produced).length ≤ attemptsOf steps := by
  induction won with
  | done => exact Nat.le_refl _
  | more first _ scanned _ _ _ ih =>
    have one := produced_tried first scanned
    rw [List.length_map] at one
    rw [List.flatMap_cons, List.length_append, attemptsOf, List.map_cons, List.sum_cons]
    exact Nat.add_le_add one ih

/-! ## Accepted runs -/

/-- The metrics of a run that has produced tokens in some steps and returns those of them that are no
blanks. A name that none of the tokens returned has is not among the counts, and a category of its own is
counted under its name, whatever other category has it too. -/
structure Measured (set : ScannerSet) (input : Text) (tokens : List Token) (metrics : Metrics) :
    Prop where
  returned : tokens = ((trace set input).produced.map PlacedToken.token).filter fun token =>
    token.category ≠ .whitespace
  total : metrics.totalTokens = tokens.length
  ascending : Ascending metrics.categoryCounts
  counts : ∀ name, metrics.categoryCounts.find? name = count? (named name tokens)
  positive : ∀ entry ∈ metrics.categoryCounts, entry.2 ≠ 0
  sum : (metrics.categoryCounts.map Prod.snd).sum = metrics.totalTokens
  skipped : metrics.whitespaceSkipped = dropped ((trace set input).produced.map PlacedToken.token)
  customs : ∀ item ∈ (trace set input).produced, ∀ name, item.token.category = .custom name →
    item.token ∈ tokens
  won : Won set none input (trace set input).steps
  attempts : metrics.attempts = attemptsOf (trace set input).steps
  bounded : metrics.attempts ≤ (trace set input).steps.length * set.size

theorem measured_of_accepted {t : Tokenizer} {input : Text} {tokens : List Token}
    {metrics : Metrics} (accepted : t.run input = .accepted tokens metrics) :
    Measured t.scanners input tokens metrics := by
  obtain ⟨tally, added, -, rfl, rfl⟩ := accepted_tally accepted
  have counted := counted_zero.all added
  have won := won_of_complete .start (complete_of_accepted accepted)
  have returned := counted.kept
  rw [List.nil_append] at returned
  have attempts : (tried tally (attemptsOf (trace t.scanners input).steps)).metrics.attempts =
      attemptsOf (trace t.scanners input).steps := by
    change tally.metrics.attempts + _ = _
    rw [counted.untried, Nat.zero_add]
  refine ⟨returned, ?_, counted.ascending, fun name => ?_, counted.positive, ?_, counted.skipped, ?_,
    won, ?_, ?_⟩
  · rw [List.length_reverse]
    exact counted.total
  · rw [named, List.countP_reverse]
    exact counted.counts name
  · exact counted.sum.trans counted.total.symm
  · intro item member name custom
    rw [returned]
    refine List.mem_filter.mpr ⟨List.mem_map_of_mem member, ?_⟩
    simp [significant, custom]
  · exact attempts
  · rw [attempts]
    exact attempts_bounded won

/-- The metrics of an accepted run agree with its steps and its tokens. With the built-in scanners no
fewer scanners are tried than tokens are produced. -/
theorem run_measured (t : Tokenizer) (input : Text) (tokens : List Token) (metrics : Metrics)
    (accepted : t.run input = .accepted tokens metrics) :
    Measured t.scanners input tokens metrics ∧
      ∀ keepCase zone, t.scanners = .builtIn keepCase zone →
        metrics.totalTokens + metrics.whitespaceSkipped ≤ metrics.attempts := by
  have measured := measured_of_accepted accepted
  refine ⟨measured, fun keepCase zone own => ?_⟩
  have produced := measured.won
  rw [own] at produced
  have bounded := produced_bounded produced
  have all := kept_or_dropped ((trace t.scanners input).produced.map PlacedToken.token)
  have returned : tokens =
      ((trace t.scanners input).produced.map PlacedToken.token).filter significant :=
    measured.returned
  rw [← returned, List.length_map] at all
  rw [measured.total, measured.skipped, measured.attempts, all]
  rw [← own] at bounded
  exact bounded

/-- A scanner of mentions whose category has the name of the one of parentheses. -/
def groupingMention : Scanner := { mention with category := .custom "grouping".toList }

/-- Mentions under the name of another category are counted with its tokens, and in a call with the
built-in scanners only, more scanners are tried than tokens are produced. -/
theorem call_measured :
    (∃ metrics, Measured ⟨⟨"mention".toList, groupingMention⟩ :: ScannerSet.default.entries⟩
        "max( @x )".toList
        (call ⟨.custom "grouping".toList, .string "@x".toList, some "@x".toList⟩) metrics ∧
      metrics.categoryCounts.find? "grouping".toList = some 3) ∧
    ∃ metrics, Measured .default "max( 1 )".toList (call ⟨.numeric, .integer 1, some ['1']⟩) metrics ∧
      metrics.totalTokens + metrics.whitespaceSkipped ≤ metrics.attempts := by
  constructor
  · have accepted : (Tokenizer.mk ⟨⟨"mention".toList, groupingMention⟩ ::
        ScannerSet.default.entries⟩ .builtIn).run "max( @x )".toList = .accepted
          (call ⟨.custom "grouping".toList, .string "@x".toList, some "@x".toList⟩)
          ⟨4, 2, [("function".toList, 1), ("grouping".toList, 3)], 1, 36⟩ := by
      decide +kernel
    exact ⟨_, (run_measured _ _ _ _ accepted).1, by decide⟩
  · have accepted : (Tokenizer.mk .default .builtIn).run "max( 1 )".toList = .accepted
        (call ⟨.numeric, .integer 1, some ['1']⟩)
        ⟨4, 2, [("function".toList, 1), ("grouping".toList, 2), ("numeric".toList, 1)], 1, 35⟩ := by
      decide +kernel
    obtain ⟨measured, bounded⟩ := run_measured ⟨.default, .builtIn⟩ _ _ _ accepted
    exact ⟨_, measured, bounded false .utc rfl⟩

end FormulaLexer.RunMetrics
