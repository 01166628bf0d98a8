import FormulaLexer.Proofs.LoopAgreement

/-! Scanners registered behind others. The last scanner of a set is asked only where all others
pass the rest of the input by, and without it the run would have ended there. A registration
therefore keeps every accepted run, with its tokens and all of its counters, and every error but
the one for a text that no scanner accepts. -/
namespace FormulaLexer.Registration
open Steps LoopAgreement

/-- The error for a text that no scanner accepts, which is a parse error without a detail. -/
def NoneAccepts (e : TokenizerError) : Prop :=
  ∃ remaining position, e = .parse remaining position none

/-! ## One step -/

/-- Scanners behind the one that decides are never asked, whether it accepts or refuses. -/
theorem accept_first_append {remaining : Text} {previous : Option Token}
    {entries : List ScannerEntry} (more : List ScannerEntry) {tried : Nat}
    (decided : acceptFirst remaining previous tried entries ≠ .unmatched) :
    acceptFirst remaining previous tried (entries ++ more) =
      acceptFirst remaining previous tried entries := by
  induction entries generalizing tried with
  | nil => exact absurd rfl decided
  | cons entry entries ih =>
    rw [acceptFirst] at decided
    rw [List.cons_append, acceptFirst, acceptFirst]
    cases scanned : entry.scanner.scan remaining previous with
    | error e => rfl
    | ok result =>
      cases result with
      | some tokens => rfl
      | none =>
        rw [scanned] at decided
        exact ih decided

/-- A step with the scanner registered is the same, unless none of the others accepts the text and
the step without it fails for that. -/
theorem step_registered (set : ScannerSet) (key : Text) (scanner : Scanner) (remaining : Text)
    (previous : Option Token) (position : Position) :
    takeStep (set.register key scanner) remaining previous position =
        takeStep set remaining previous position ∨
      takeStep set remaining previous position =
        ⟨none, .error (.failed (.parseAt remaining position none))⟩ := by
  by_cases unmatched : acceptFirst remaining previous 0 set.entries = .unmatched
  · right
    rw [takeStep, unmatched]
  · left
    have same := accept_first_append [⟨key, scanner⟩] unmatched
    rw [takeStep, takeStep, ScannerSet.register, same]

/-! ## The whole run -/

/-- How a trace goes with one that goes on at least as far: they are the same, or the first one ends
where no scanner accepts the text and the other has taken all of its steps. -/
inductive Continues (t : Trace) : Trace → Prop where
  | same : Continues t t
  | further {e : TokenizerError} {other : Trace} (ends : t.ending = .failed e)
      (unaccepted : NoneAccepts e) (taken : t.steps <+: other.steps) : Continues t other

/-- A step taken in front of both traces leaves them related. -/
theorem Continues.behind {t other : Trace} (continues : Continues t other) (step : Step) :
    Continues ⟨step :: t.steps, t.ending⟩ ⟨step :: other.steps, other.ending⟩ := by
  cases continues with
  | same => exact .same
  | further ends unaccepted taken =>
    exact .further ends unaccepted ((List.prefix_cons_inj step).mpr taken)

theorem trace_registered (set : ScannerSet) (key : Text) (scanner : Scanner) (rest : Text)
    (previous : Option Token) (position : Position) :
    Continues (traceFrom set rest 0 previous position)
      (traceFrom (set.register key scanner) rest 0 previous position) := by
  refine trace_induction (motive := fun rest previous position t =>
    Continues t (traceFrom (set.register key scanner) rest 0 previous position)) ?_ ?_ ?_
    rest previous position
  · intro previous position
    exact .same
  · intro rest previous position ending more stopped
    rcases step_registered set key scanner rest previous position with same | unaccepted
    · have ended := stopped
      rw [← same] at ended
      rw [trace_from_stopped more ended, same]
      exact .same
    · rw [unaccepted] at stopped
      cases stopped
      rw [unaccepted]
      exact .further rfl ⟨_, _, rfl⟩ List.nil_prefix
  · intro covered back previous position further step others filled length passed taken same later
    rcases step_registered set key scanner (covered ++ back) previous position with kept | unaccepted
    · have passed' := passed
      rw [← kept] at passed'
      have course := trace_from_passed filled length passed'
      rw [kept, taken] at course
      rw [course]
      simpa using later.behind step
    · rw [unaccepted] at passed
      cases passed

/-- Where the traces part, the first one has failed for want of a scanner. -/
theorem Continues.outcome {t other : Trace} (continues : Continues t other) :
    other.outcome = t.outcome ∨ ∃ e, t.outcome = .rejected e ∧ NoneAccepts e := by
  cases continues with
  | same => exact .inl rfl
  | @further e _ ends unaccepted taken =>
    obtain ⟨others, longer⟩ := taken
    rw [outcome_eq_summary, outcome_eq_summary, summary, summary, ← longer, add_steps_append, ends]
    cases Tally.zero.addSteps t.steps with
    | error e => exact .inl rfl
    | ok tally => exact .inr ⟨e, rfl, unaccepted⟩

/-- A run goes the same way when a scanner is registered, whatever its key, its pattern, its
converter and its condition are: it is accepted with the same tokens and the same metrics, the
scanners tried among them, or rejected with the same error. Only a run that ends with a parse error
without a detail may go on. -/
theorem run_registered (t : Tokenizer) (key : Text) (scanner : Scanner) (input : Text) :
    (t.withScanners (t.scanners.register key scanner)).run input = t.run input ∨
      ∃ remaining position, t.run input = .rejected (.parse remaining position none) := by
  rcases (trace_registered t.scanners key scanner input none .start).outcome with
    same | ⟨e, rejected, remaining, position, rfl⟩
  · exact .inl same
  · exact .inr ⟨remaining, position, rejected⟩

end FormulaLexer.Registration
