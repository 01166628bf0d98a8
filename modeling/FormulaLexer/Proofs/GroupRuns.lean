import FormulaLexer.Proofs.Balance
import FormulaLexer.Proofs.GreedyRuns

/-! Matchers between the marks of a group. The tokens of an accepted run nest well and leave no group
open, so that behind every opening mark there is a closing one. A matcher of anything but the closing
mark, or of anything but grouping marks, therefore stops inside of the tokens, at the first one that it
does not accept, and never because the tokens are used up. -/
namespace FormulaLexer.GroupRuns
open Loop LoopSteps Nesting Balance GreedyRuns MatcherDenotation

/-- A matcher takes the tokens from `start` on up to the first one that stops it, which is the token at
`stop`. -/
structure RunsUpTo (m : Matcher) (tokens : List Token) (start : Nat) (stops : Token → Bool)
    (stop : Nat) : Prop where
  begins : start ≤ stop
  stopped : ∃ token, tokens[stop]? = some token ∧ stops token = true
  first : ∀ index, start ≤ index → index < stop →
    ∀ token, tokens[index]? = some token → stops token = false
  taken : (m.matchAt tokens start).tokens = (tokens.drop start).take (stop - start)

variable {m : Matcher} {tokens front inner rest behind : List Token} {token stopper : Token}
  {stops : Token → Bool}

/-! ## Runs that are stopped -/

/-- Without an upper bound a run ends at the first token that is not accepted. -/
theorem take_run_stopped (accepted : ∀ token ∈ inner, m.accepts (some token) = true)
    (refused : m.accepts (some stopper) = false) (behind : List Token) :
    m.takeRun none (inner ++ stopper :: behind) = inner := by
  induction inner with
  | nil => exact take_run_stop behind fun goesOn => absurd goesOn.2 (by simp [refused])
  | cons token inner ih =>
    have later := ih fun other member => accepted other (by simp [member])
    rw [List.cons_append, take_run_next _ (by simp) (accepted token (by simp))]
    exact congrArg (token :: ·) later

/-- Tokens among which there is one of a kind are cut at the first one of that kind. -/
theorem first_split (present : ∃ token ∈ tokens, stops token = true) :
    ∃ inner stopper behind, tokens = inner ++ stopper :: behind ∧ stops stopper = true ∧
      ∀ token ∈ inner, stops token = false := by
  obtain ⟨token, member, holds⟩ := present
  cases found : tokens.find? stops with
  | none => exact absurd holds (List.find?_eq_none.mp found token member)
  | some stopper =>
    obtain ⟨holds, inner, behind, split, others⟩ := List.find?_eq_some_iff_append.mp found
    exact ⟨inner, stopper, behind, split, holds, by simpa using others⟩

/-- A matcher without an upper bound stops inside of tokens in which there is one that stops it. -/
theorem runs_up_to (unbounded : m.most = none)
    (accepts : ∀ token, m.accepts (some token) = !stops token) (front : List Token)
    (present : ∃ token ∈ rest, stops token = true) :
    ∃ stop, RunsUpTo m (front ++ rest) front.length stops stop := by
  obtain ⟨inner, stopper, behind, rfl, holds, others⟩ := first_split present
  have run : m.takeRun none (inner ++ stopper :: behind) = inner :=
    take_run_stopped (fun token member => by rw [accepts, others token member]; rfl)
      (by rw [accepts, holds]; rfl) behind
  refine ⟨front.length + inner.length, Nat.le_add_right _ _, ⟨stopper, ?_, holds⟩,
    fun index begins inside token found => others token ?_, ?_⟩
  · simp
  · rw [List.getElem?_append_right begins, List.getElem?_append_left (by omega)] at found
    exact List.mem_of_getElem? found
  · simp only [Matcher.matchAt, unbounded, List.drop_left, run, Nat.add_sub_cancel_left,
      List.take_left]

/-- As many tokens are enough as lie in front of the one that stops the matcher. -/
theorem RunsUpTo.enough_iff {start stop : Nat} (runs : RunsUpTo m tokens start stops stop) :
    (m.matchAt tokens start).enough = true ↔ m.least ≤ stop - start := by
  obtain ⟨token, found, -⟩ := runs.stopped
  obtain ⟨inside, -⟩ := List.getElem?_eq_some_iff.mp found
  rw [(takes_longest m tokens start).enough, runs.taken, List.length_take, List.length_drop,
    Nat.min_eq_left (by omega)]

/-! ## What stops the matchers -/

theorem same_symbol (v : Value) (s : Symbol) : v.same (.symbol s) = v.isSymbol s := by
  cases v <;> simp [Value.same, Value.isSymbol, Value.symbol?]

/-- Everything but a closing mark is what is no closing mark. -/
theorem non_close_accepts (token : Token) :
    Matcher.nonClosePlus.accepts (some token) = !token.isGrouping .closing := by
  have closes : Matcher.closing.accepts (some token) = token.isGrouping .closing := by
    simp [Matcher.closing, Matcher.ofSymbols, Matcher.ofLists, Matcher.ofPredicate,
      Matcher.accepts, Predicate.accepts, Predicate.leaves, Leaf.accepts, Leaf.admits, same_symbol,
      Token.isGrouping, Symbol.closing]
  rw [← closes]
  exact accepts_invert Matcher.closing token

theorem non_group_accepts (token : Token) :
    Matcher.nonGroupStar.accepts (some token) = !decide (token.category = .grouping) := by
  have group : (Matcher.ofCategory .grouping).accepts (some token) =
      decide (token.category = .grouping) := by
    simp [Matcher.ofCategory, Matcher.ofLists, Matcher.ofPredicate, Matcher.accepts,
      Predicate.accepts, Predicate.leaves, Leaf.accepts, Leaf.admits]
  rw [← group]
  exact accepts_invert (Matcher.ofCategory .grouping) token

/-! ## Groups of an accepted run -/

/-- The tokens of an accepted run nest well and leave no group open. -/
theorem nests_of_accepted {set : ScannerSet} {input : Text} {metrics : Metrics}
    (accepted : (trace set input).outcome = .accepted tokens metrics) :
    NeverNegative tokens ∧ depth tokens = 0 := by
  obtain ⟨position, -, outcome⟩ | ⟨other, -, same⟩ | ⟨tally, finished, level, outcome⟩ :=
    run_cases set input
  · rw [outcome] at accepted
    cases accepted
  · rw [same, accepted] at other
    obtain overflow | ⟨e, failed, -⟩ := other
    · cases overflow
    · cases failed
  · rw [outcome] at accepted
    split at accepted
    · cases accepted
    · cases accepted
      obtain ⟨nests, balance, -⟩ := level.produced_nests
      rw [accepted_tokens finished, never_negative_significant, depth_significant]
      exact ⟨nests, balance.trans (by omega)⟩

/-- Tokens without a closing mark do not take the depth down. -/
theorem depth_nonnegative (unclosed : ∀ token ∈ tokens, token.isGrouping .closing = false) :
    0 ≤ depth tokens := by
  induction tokens with
  | nil => exact Int.le_refl 0
  | cons token tokens ih =>
    have later := ih fun other member => unclosed other (by simp [member])
    rw [← List.singleton_append, depth_append, depth_singleton]
    obtain ⟨weight, -⟩ | ⟨-, -, closes⟩ | ⟨weight, -⟩ := weight_cases token
    · omega
    · rw [unclosed token (by simp)] at closes
      cases closes
    · omega

/-- Behind an opening mark there is a closing one, if all groups are closed in the end. -/
theorem closing_behind (nests : NeverNegative (front ++ token :: rest))
    (closed : depth (front ++ token :: rest) = 0) (opens : token.isGrouping .opening = true) :
    ∃ other ∈ rest, other.isGrouping .closing = true := by
  by_contra none
  have unclosed : 0 ≤ depth rest := by
    refine depth_nonnegative fun other member => ?_
    exact Bool.eq_false_iff.mpr fun closes => none ⟨other, member, closes⟩
  have before : 0 ≤ depth front := nests front (List.prefix_append _ _)
  have raised : weight token = 1 := by
    obtain ⟨weight, -⟩ | ⟨-, other, -⟩ | ⟨-, other, -⟩ := weight_cases token
    · exact weight
    · rw [opens] at other
      cases other
    · rw [opens] at other
      cases other
  rw [← List.singleton_append, depth_append, depth_append, depth_singleton] at closed
  omega

/-- Behind an opening mark of an accepted run, everything but a closing mark is taken up to the first
closing mark, and is something unless that mark comes at once; and everything but grouping marks is
taken up to the first grouping mark, whatever it is. Both marks are always there, and tokens of other
categories, those of a case statement among them, are no closing marks. -/
theorem groups_end_inside (t : Tokenizer) (input : Text) (tokens : List Token) (metrics : Metrics)
    (accepted : t.run input = .accepted tokens metrics) (index : Nat) (token : Token)
    (found : tokens[index]? = some token) (opens : token.isGrouping .opening = true) :
    (∃ stop, RunsUpTo .nonClosePlus tokens (index + 1) (·.isGrouping .closing) stop ∧
      ((Matcher.nonClosePlus.matchAt tokens (index + 1)).enough = true ↔ stop ≠ index + 1)) ∧
    (∃ stop, RunsUpTo .nonGroupStar tokens (index + 1) (fun token => token.category = .grouping) stop ∧
      (Matcher.nonGroupStar.matchAt tokens (index + 1)).enough = true) ∧
    ∀ other : Token, other.category ≠ .grouping →
      Matcher.nonClosePlus.accepts (some other) = true := by
  obtain ⟨nests, closed⟩ := nests_of_accepted accepted
  obtain ⟨inside, same⟩ := List.getElem?_eq_some_iff.mp found
  have split : tokens = tokens.take index ++ token :: tokens.drop (index + 1) := by
    rw [← same, List.getElem_cons_drop, List.take_append_drop]
  have parts : tokens = tokens.take (index + 1) ++ tokens.drop (index + 1) :=
    (List.take_append_drop _ _).symm
  have length : (tokens.take (index + 1)).length = index + 1 :=
    List.length_take_of_le (by omega)
  rw [split] at nests closed
  obtain ⟨mark, member, closes⟩ := closing_behind nests closed opens
  refine ⟨?_, ?_, fun other category => ?_⟩
  · obtain ⟨stop, runs⟩ := runs_up_to rfl non_close_accepts (tokens.take (index + 1))
      ⟨mark, member, closes⟩
    rw [← parts, length] at runs
    refine ⟨stop, runs, runs.enough_iff.trans ?_⟩
    have begins := runs.begins
    change 1 ≤ stop - (index + 1) ↔ stop ≠ index + 1
    omega
  · have group : decide (mark.category = .grouping) = true := by
      rw [Token.isGrouping, Bool.and_eq_true] at closes
      exact closes.1
    obtain ⟨stop, runs⟩ := runs_up_to rfl non_group_accepts (tokens.take (index + 1))
      ⟨mark, member, group⟩
    rw [← parts, length] at runs
    exact ⟨stop, runs, runs.enough_iff.mpr (Nat.zero_le _)⟩
  · rw [non_close_accepts, Token.isGrouping, decide_eq_false category]
    rfl

/-- The argument of a call is a case statement, whose end does not end the call. -/
theorem case_ends_inside :
    let tokens : List Token := [⟨.function, .symbol (.named "f"), some ['f']⟩,
      ⟨.grouping, .symbol .opening, some ['(']⟩, ⟨.caseStatement, .symbol .opening, some "case".toList⟩,
      ⟨.identifier, .string ['a'], some ['a']⟩, ⟨.caseStatement, .symbol .closing, some "end".toList⟩,
      ⟨.grouping, .symbol .closing, some [')']⟩]
    (∃ stop, RunsUpTo .nonClosePlus tokens 2 (·.isGrouping .closing) stop) ∧
      (Matcher.nonClosePlus.matchAt tokens 2).tokens = (tokens.drop 2).take 3 := by
  intro tokens
  have accepted : (Tokenizer.mk .default .builtIn).run "f(case a end)".toList = .accepted tokens
      ⟨6, 2, [("case".toList, 2), ("function".toList, 1), ("grouping".toList, 2),
        ("identifier".toList, 1)], 1, 74⟩ := by
    decide +kernel
  obtain ⟨⟨stop, runs, -⟩, -⟩ := groups_end_inside _ _ _ _ accepted 1 _ rfl rfl
  exact ⟨⟨stop, runs⟩, rfl⟩

end FormulaLexer.GroupRuns
