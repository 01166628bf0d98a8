import Mathlib.Order.Bounds.Basic
import FormulaLexer.Proofs.MatcherDenotation

/-! The run of tokens that a matcher takes. It is counted token by token, and the count goes on for as
long as the upper bound allows it and the token in question is accepted. Nothing looks for the end of
the tokens: the count stops there because a missing token is never accepted, and so the run is the
longest one that the matcher could take. -/
namespace FormulaLexer.GreedyRuns
open MatcherDenotation

variable {m : Matcher} {tokens : List Token} {start : Nat}

/-- Whether a matcher takes one more token behind the `count` tokens from `start` on. -/
def GoesOn (m : Matcher) (tokens : List Token) (start count : Nat) : Prop :=
  (∀ most ∈ m.most, count < most) ∧ m.accepts tokens[start + count]? = true

/-- Counting from a number of tokens on comes to its end at the last number. -/
inductive Counts (m : Matcher) (tokens : List Token) (start : Nat) : Nat → Nat → Prop where
  | stop {count : Nat} (ends : ¬ GoesOn m tokens start count) : Counts m tokens start count count
  | next {count last : Nat} (goesOn : GoesOn m tokens start count)
      (later : Counts m tokens start (count + 1) last) : Counts m tokens start count last

/-- A number of tokens that a matcher could take from `start` on: the list has so many, the upper
bound allows them, and each of them is accepted. -/
structure Fits (m : Matcher) (tokens : List Token) (start count : Nat) : Prop where
  inside : start + count ≤ tokens.length
  bounded : ∀ most ∈ m.most, count ≤ most
  accepted : ∀ token ∈ (tokens.drop start).take count, m.accepts (some token) = true

/-! ## One token -/

/-- Behind the end of the tokens nothing is accepted. -/
theorem GoesOn.inside {count : Nat} (goesOn : GoesOn m tokens start count) :
    start + count < tokens.length := by
  by_contra behind
  have missing : tokens[start + count]? = none := List.getElem?_eq_none (Nat.le_of_not_lt behind)
  have accepted := goesOn.2
  rw [missing, accepts_none] at accepted
  cases accepted

theorem Fits.less {count fewer : Nat} (fits : Fits m tokens start count) (less : fewer ≤ count) :
    Fits m tokens start fewer := by
  refine ⟨Nat.le_trans (Nat.add_le_add_left less start) fits.inside,
    fun most bound => Nat.le_trans less (fits.bounded most bound), fun token member => ?_⟩
  exact fits.accepted token ((List.take_subset_take_left _ less) member)

/-- The count goes on exactly if one token more could be taken. -/
theorem Fits.goes_on_iff {count : Nat} (fits : Fits m tokens start count) :
    GoesOn m tokens start count ↔ Fits m tokens start (count + 1) := by
  constructor
  · intro goesOn
    have inside := goesOn.inside
    refine ⟨inside, goesOn.1, fun token member => ?_⟩
    rw [List.take_add_one, List.mem_append] at member
    rcases member with earlier | last
    · exact fits.accepted token earlier
    · rw [List.getElem?_drop, Option.mem_toList] at last
      have accepted := goesOn.2
      rwa [last] at accepted
  · intro more
    have inside : start + count < tokens.length := more.inside
    refine ⟨more.bounded, ?_⟩
    rw [List.getElem?_eq_getElem inside]
    refine more.accepted _ (List.mem_iff_getElem.mpr ⟨count, ?_, ?_⟩)
    · simp only [List.length_take, List.length_drop]
      omega
    · simp

/-! ## The whole count -/

theorem fits_none (inside : start ≤ tokens.length) : Fits m tokens start 0 :=
  ⟨inside, fun _ _ => Nat.zero_le _, by simp⟩

/-- The count comes to its end at the greatest number of tokens that could be taken. -/
theorem Counts.greatest {count last : Nat} (counts : Counts m tokens start count last)
    (fits : Fits m tokens start count) : IsGreatest {n | Fits m tokens start n} last := by
  induction counts with
  | stop ends =>
    refine ⟨fits, fun more further => Nat.le_of_not_lt fun beyond => ?_⟩
    exact ends (fits.goes_on_iff.mpr (further.less beyond))
  | next goesOn _ ih => exact ih (fits.goes_on_iff.mp goesOn)

/-- A run with room for one more token goes on with an accepted one. -/
theorem take_run_next {most : Option Nat} {token : Token} (rest : List Token)
    (room : ∀ bound ∈ most, 0 < bound) (accepted : m.accepts (some token) = true) :
    m.takeRun most (token :: rest) = token :: m.takeRun (most.map (· - 1)) rest := by
  cases most with
  | none => simp [Matcher.takeRun, accepted]
  | some bound =>
    cases bound with
    | zero => exact absurd (room 0 rfl) (Nat.lt_irrefl 0)
    | succ bound => simp [Matcher.takeRun, accepted]

theorem take_run_stop {most : Option Nat} {token : Token} (rest : List Token)
    (ends : ¬ ((∀ bound ∈ most, 0 < bound) ∧ m.accepts (some token) = true)) :
    m.takeRun most (token :: rest) = [] := by
  cases most with
  | none => simpa [Matcher.takeRun] using ends
  | some bound =>
    cases bound with
    | zero => simp [Matcher.takeRun]
    | succ bound => simpa [Matcher.takeRun] using ends

theorem take_run_nil (m : Matcher) (most : Option Nat) : m.takeRun most [] = [] := by
  cases most with
  | none => simp [Matcher.takeRun]
  | some bound => cases bound <;> simp [Matcher.takeRun]

/-- Matchers that accept the same tokens take the same run within the same bound. -/
theorem take_run_alike {m n : Matcher}
    (alike : ∀ token, m.accepts (some token) = n.accepts (some token)) (most : Option Nat)
    (tokens : List Token) : m.takeRun most tokens = n.takeRun most tokens := by
  induction tokens generalizing most with
  | nil => rw [take_run_nil, take_run_nil]
  | cons token rest ih =>
    by_cases goesOn : (∀ bound ∈ most, 0 < bound) ∧ m.accepts (some token) = true
    · rw [take_run_next rest goesOn.1 goesOn.2, take_run_next rest goesOn.1 (alike token ▸ goesOn.2),
        ih]
    · rw [take_run_stop rest goesOn, take_run_stop rest (alike token ▸ goesOn)]

/-- The count ends behind the run that the matcher takes of the tokens that are left. -/
theorem counts_take_run (m : Matcher) (tokens : List Token) (start count : Nat) :
    Counts m tokens start count
      (count + (m.takeRun (m.most.map (· - count)) (tokens.drop (start + count))).length) := by
  generalize left : tokens.drop (start + count) = rest
  induction rest generalizing count with
  | nil =>
    rw [take_run_nil]
    refine .stop fun goesOn => ?_
    exact Nat.not_lt_of_le (List.drop_eq_nil_iff.mp left) goesOn.inside
  | cons token rest ih =>
    have here : tokens[start + count]? = some token := by
      have head := congrArg (·[0]?) left
      simpa using head
    have behind : tokens.drop (start + (count + 1)) = rest := by
      have tail := congrArg (List.drop 1) left
      simpa [List.drop_drop, Nat.add_assoc] using tail
    have room : (∀ bound ∈ m.most.map (· - count), 0 < bound) ↔ ∀ most ∈ m.most, count < most := by
      constructor
      · intro positive most listed
        exact Nat.lt_of_sub_pos (positive _ (Option.mem_map_of_mem _ listed))
      · intro below bound listed
        obtain ⟨most, found, rfl⟩ := Option.mem_map.mp listed
        exact Nat.sub_pos_of_lt (below most found)
    by_cases goesOn : GoesOn m tokens start count
    · have accepted := goesOn.2
      rw [here] at accepted
      have later := ih (count + 1) behind
      rw [take_run_next rest (room.mpr goesOn.1) accepted, Option.map_map]
      refine .next goesOn ?_
      have fewer : (fun bound => bound - 1) ∘ (fun bound => bound - count) =
          fun bound => bound - (count + 1) := by
        funext bound
        exact Nat.sub_sub bound count 1
      rw [fewer, List.length_cons, ← Nat.succ_eq_add_one, Nat.add_succ, ← Nat.succ_add]
      exact later
    · have ends : ¬ ((∀ bound ∈ m.most.map (· - count), 0 < bound) ∧
          m.accepts (some token) = true) := by
        rw [room, ← here]
        exact goesOn
      rw [take_run_stop rest ends]
      exact .stop goesOn

/-- What is taken stands at the front of the tokens that are left. -/
theorem take_run_front (m : Matcher) (most : Option Nat) (tokens : List Token) :
    m.takeRun most tokens <+: tokens := by
  induction tokens generalizing most with
  | nil => exact (take_run_nil m most).symm ▸ List.nil_prefix
  | cons token rest ih =>
    by_cases goesOn : (∀ bound ∈ most, 0 < bound) ∧ m.accepts (some token) = true
    · rw [take_run_next rest goesOn.1 goesOn.2]
      exact (List.prefix_cons_inj token).mpr (ih _)
    · rw [take_run_stop rest goesOn]
      exact List.nil_prefix

/-! ## What a matcher takes -/

/-- What a matcher takes of some tokens from an offset on, where an offset behind the end stands for the
end: counting comes to an end, always at the same number, no greater number of tokens could be taken,
so many are taken from there, they are enough if they are no fewer than the least number, and the mark
makes no difference. -/
structure TakesLongest (m : Matcher) (tokens : List Token) (offset count : Nat) : Prop where
  ends : ∀ last, Counts m tokens (min offset tokens.length) 0 last ↔ last = count
  longest : IsGreatest {n | Fits m tokens (min offset tokens.length) n} count
  taken : (m.matchAt tokens offset).tokens = (tokens.drop (min offset tokens.length)).take count
  enough : (m.matchAt tokens offset).enough = true ↔ m.least ≤ count
  unmarked : m.withCaret.matchAt tokens offset = m.matchAt tokens offset

/-- The rest of a list from an offset on begins at the end where the offset lies behind it. -/
theorem drop_clamped (tokens : List Token) (offset : Nat) :
    tokens.drop (min offset tokens.length) = tokens.drop offset := by
  rcases Nat.le_total offset tokens.length with inside | behind
  · rw [Nat.min_eq_left inside]
  · rw [Nat.min_eq_right behind, List.drop_length, List.drop_eq_nil_of_le behind]

theorem takes_longest (m : Matcher) (tokens : List Token) (offset : Nat) :
    TakesLongest m tokens offset (m.matchAt tokens offset).tokens.length := by
  have inside : min offset tokens.length ≤ tokens.length := Nat.min_le_right _ _
  have counts : Counts m tokens (min offset tokens.length) 0
      (m.matchAt tokens offset).tokens.length := by
    simpa [drop_clamped, Matcher.matchAt] using counts_take_run m tokens (min offset tokens.length) 0
  have greatest := counts.greatest (fits_none inside)
  refine ⟨fun last => ⟨fun ends => ?_, fun same => same ▸ counts⟩, greatest, ?_, ?_, ?_⟩
  · exact (ends.greatest (fits_none inside)).unique greatest
  · rw [drop_clamped]
    exact List.prefix_iff_eq_take.mp (take_run_front m m.most (tokens.drop offset))
  · simp [Matcher.matchAt]
  · simp only [Matcher.matchAt]
    rw [take_run_alike (m := m.withCaret) (n := m) fun _ => rfl]
    rfl

/-- A matcher takes the longest run that its predicate and its upper bound allow, as a count finds it that
goes on from token to token. Without an upper bound a matcher of at least one token takes the same run
as one of any number of tokens, and enough of them unless that run is empty. -/
theorem match_takes_longest (m : Matcher) (tokens : List Token) (offset : Nat) :
    (∃ count, TakesLongest m tokens offset count) ∧
      (m.least = 1 → (m.plus.matchAt tokens offset).tokens = (m.star.matchAt tokens offset).tokens ∧
        ((m.plus.matchAt tokens offset).enough = true ↔
          1 ≤ (m.star.matchAt tokens offset).tokens.length)) := by
  refine ⟨⟨_, takes_longest m tokens offset⟩, fun single => ?_⟩
  have alike : (m.plus.matchAt tokens offset).tokens = (m.star.matchAt tokens offset).tokens :=
    take_run_alike (m := m.plus) (n := m.star) (fun _ => rfl) none (tokens.drop offset)
  refine ⟨alike, ?_⟩
  rw [(takes_longest m.plus tokens offset).enough, alike, show m.plus.least = 1 from single]

/-- Everything but a closing parenthesis. -/
def unclosed : Matcher := (Matcher.ofLists [.grouping] [.symbol .closing]).invert

/-- The argument of a call is taken up to the parenthesis behind it, and there is one. -/
theorem argument_taken :
    let tokens : List Token := [⟨.grouping, .symbol .opening, none⟩, ⟨.numeric, .integer 1, none⟩,
      ⟨.grouping, .symbol .comma, none⟩, ⟨.numeric, .integer 2, none⟩,
      ⟨.grouping, .symbol .closing, none⟩]
    (unclosed.plus.matchAt tokens 1).tokens = (tokens.drop 1).take 3 ∧
      (unclosed.plus.matchAt tokens 1).enough = true := by
  intro tokens
  have run : (unclosed.star.matchAt tokens 1).tokens = (tokens.drop 1).take 3 := rfl
  obtain ⟨same, enough⟩ := (match_takes_longest unclosed tokens 1).2 rfl
  exact ⟨same.trans run, enough.mpr (by rw [run]; decide)⟩

end FormulaLexer.GreedyRuns
