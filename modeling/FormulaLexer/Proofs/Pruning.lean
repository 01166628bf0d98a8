import FormulaLexer.Proofs.Counting
import FormulaLexer.Proofs.Coverage

/-! Scanners that a run does not need. Where a set is restricted to the keys that win the steps of a run,
every winner is still the first scanner that takes its part of the input, since those in front of it
have passed that part by and some of them are gone. The run takes the same steps, and tries fewer
scanners for them. -/
namespace FormulaLexer.Pruning
open Steps Loop Counting Coverage

/-- A step that makes the same of the input as another one, with no more scanners tried. -/
structure Lighter (step other : Step) : Prop where
  key : other.key = step.key
  produced : other.produced = step.produced
  attempts : other.attempts ≤ step.attempts

/-! ## One step -/

/-- A winner that is kept wins among the scanners that are kept. -/
theorem first_restricted {set : ScannerSet} {remaining : Text} {previous : Option Token}
    {winner : ScannerEntry} {attempts : Nat} {keys : List Text}
    (first : First set.entries remaining previous winner attempts) (kept : winner.key ∈ keys) :
    ∃ fewer ≤ attempts, First (set.restrict keys).entries remaining previous winner fewer := by
  obtain ⟨front, back, split, rfl, passes⟩ := first.split
  let keep : ScannerEntry → Bool := fun entry => keys.contains entry.key
  have wins : keep winner = true := List.contains_iff_mem.mpr kept
  refine ⟨(front.filter keep).length + 1, Nat.succ_le_succ (List.length_filter_le _ _),
    ⟨front.filter keep, back.filter keep, ?_, rfl, ?_⟩⟩
  · rw [ScannerSet.restrict, split, List.filter_append, List.filter_cons_of_pos wins]
  · exact fun entry member => passes entry (List.mem_of_mem_filter member)

theorem step_restricted {set : ScannerSet} {remaining : Text} {previous : Option Token}
    {position : Position} {further : Advance} {step : Step} {keys : List Text}
    (passed : (takeStep set remaining previous position).outcome = .ok further)
    (taken : (takeStep set remaining previous position).step = some step) (kept : step.key ∈ keys) :
    ∃ other, Lighter step other ∧
      takeStep (set.restrict keys) remaining previous position = ⟨some other, .ok further⟩ := by
  obtain ⟨winner, attempts, tokens, _, _, first, scanned, filled, same, placed, -⟩ :=
    step_passed passed
  rw [taken] at same
  cases same
  obtain ⟨fewer, less, first'⟩ := first_restricted first kept
  refine ⟨⟨winner.key, fewer, (place tokens remaining position).placed⟩, ⟨rfl, rfl, less⟩, ?_⟩
  simp only [takeStep, first'.accepts scanned, filled, placed]

/-! ## The trace -/

/-- If the keys that win are kept, a run to the end of a text goes there in the same steps. -/
theorem trace_restricted {set : ScannerSet} {keys : List Text} (rest : Text)
    (previous : Option Token) (position : Position)
    (complete : (traceFrom set rest 0 previous position).ending = .complete)
    (kept : ∀ step ∈ (traceFrom set rest 0 previous position).steps, step.key ∈ keys) :
    (traceFrom (set.restrict keys) rest 0 previous position).ending = .complete ∧
      List.Forall₂ Lighter (traceFrom set rest 0 previous position).steps
        (traceFrom (set.restrict keys) rest 0 previous position).steps := by
  revert complete kept
  refine trace_induction (motive := fun rest previous position t => t.ending = .complete →
    (∀ step ∈ t.steps, step.key ∈ keys) →
      (traceFrom (set.restrict keys) rest 0 previous position).ending = .complete ∧
        List.Forall₂ Lighter t.steps
          (traceFrom (set.restrict keys) rest 0 previous position).steps) ?_ ?_ ?_ rest previous
    position
  · intro previous position _ _
    exact ⟨rfl, .nil⟩
  · intro rest previous position ending _ stopped complete
    dsimp only at complete
    subst complete
    exact absurd stopped (step_not_complete set rest previous position)
  · intro covered back previous position further step others filled length passed taken _ later
      complete kept
    obtain ⟨other, lighter, same⟩ := step_restricted passed taken (kept step (by simp))
    have ended : (takeStep (set.restrict keys) (covered ++ back) previous position).outcome =
        .ok further := by rw [same]
    have course := trace_from_passed filled length ended
    simp only [same, Option.toList_some, List.flatMap_cons, List.flatMap_nil, List.append_nil,
      lighter.produced] at course
    obtain ⟨complete', steps⟩ := later complete fun step member => kept step (by simp [member])
    rw [course]
    exact ⟨complete', .cons lighter steps⟩

/-! ## Counting -/

theorem produced_lighter {steps others : List Step} (lighter : List.Forall₂ Lighter steps others) :
    others.flatMap Step.produced = steps.flatMap Step.produced := by
  induction lighter with
  | nil => rfl
  | cons same _ ih => rw [List.flatMap_cons, List.flatMap_cons, same.produced, ih]

theorem attempts_lighter {steps others : List Step} (lighter : List.Forall₂ Lighter steps others) :
    attemptsOf others ≤ attemptsOf steps := by
  induction lighter with
  | nil => exact Nat.le_refl _
  | cons same _ ih =>
    simp only [attemptsOf, List.map_cons, List.sum_cons] at ih ⊢
    exact Nat.add_le_add same.attempts ih

/-- Where the key of the scanner that wins is kept in every step of an accepted run, the restricted set
accepts the input with the same tokens and the same metrics, except that no more scanners are tried. -/
theorem run_pruned (t : Tokenizer) (keys : List Text) (input : Text) (tokens : List Token)
    (metrics : Metrics) (accepted : t.run input = .accepted tokens metrics)
    (kept : ∀ step ∈ (trace t.scanners input).steps, step.key ∈ keys) :
    ∃ attempts ≤ metrics.attempts, (t.withScanners (t.scanners.restrict keys)).run input =
      .accepted tokens { metrics with attempts } := by
  have ended := complete_of_accepted accepted
  obtain ⟨complete, lighter⟩ := trace_restricted input none .start ended kept
  rw [Tokenizer.run, Trace.outcome, ended] at accepted
  split at accepted
  · cases accepted
  next tally added =>
  dsimp only at accepted
  split at accepted
  · cases accepted
  next balanced =>
  cases accepted
  obtain ⟨counted, tokens, rfl⟩ := add_steps_ok_iff.mp added
  have recounted : Tally.zero.addSteps (trace (t.scanners.restrict keys) input).steps =
      .ok (tried counted (attemptsOf (trace (t.scanners.restrict keys) input).steps)) := by
    refine add_steps_ok_iff.mpr ⟨counted, ?_, rfl⟩
    exact (congrArg Tally.zero.addAll (produced_lighter lighter)).trans tokens
  refine ⟨(tried counted (attemptsOf (trace (t.scanners.restrict keys) input).steps)).metrics.attempts,
    Nat.add_le_add_left (attempts_lighter lighter) _, ?_⟩
  change (trace (t.scanners.restrict keys) input).outcome = _
  rw [Trace.outcome, show (trace _ input).ending = .complete from complete, recounted]
  exact if_neg balanced

/-- A sum needs no other scanners than those of blanks, numbers and operators, and tries fewer of them. -/
theorem sum_pruned :
    ∃ attempts ≤ 22, (Tokenizer.mk (ScannerSet.default.restrict ["arithmetic_operator".toList,
        "numeric".toList, "whitespace".toList]) .builtIn).run "1 + 2".toList =
      .accepted [⟨.numeric, .integer 1, some ['1']⟩,
          ⟨.arithmeticOperator, .symbol (.named "add"), some ['+']⟩,
          ⟨.numeric, .integer 2, some ['2']⟩]
        ⟨3, 2, [("arithmetic_operator".toList, 1), ("numeric".toList, 2)], 0, attempts⟩ := by
  have accepted : (Tokenizer.mk .default .builtIn).run "1 + 2".toList =
      .accepted [⟨.numeric, .integer 1, some ['1']⟩,
          ⟨.arithmeticOperator, .symbol (.named "add"), some ['+']⟩,
          ⟨.numeric, .integer 2, some ['2']⟩]
        ⟨3, 2, [("arithmetic_operator".toList, 1), ("numeric".toList, 2)], 0, 22⟩ := by
    decide +kernel
  have kept : ∀ step ∈ (trace .default "1 + 2".toList).steps,
      step.key ∈ ["arithmetic_operator".toList, "numeric".toList, "whitespace".toList] := by
    decide +kernel
  exact run_pruned ⟨.default, .builtIn⟩ _ _ _ _ accepted kept

end FormulaLexer.Pruning
