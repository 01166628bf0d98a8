import FormulaLexer.Scanner.BuiltIn
import FormulaLexer.Proofs.Letters

/-! The members of a set as ranges. A set is tested at the points where its description begins or
ends a range, or where a case variant joins it; between these points nothing changes. The ranges are
therefore those of the members, and since no two of them could be one, sets with the same members
have the same ranges. So the memory that is reckoned for a set says nothing about how the set has
been spelled. -/
namespace FormulaLexer.SetMembers
open Unicode Letters

variable {ranges others : Ranges} {test : Nat → Bool} {points : List Nat}
  {code start earlier first last : Nat}

/-! ## Ranges apart -/

/-- Ranges from a code point on, with some code point left out between each two of them. -/
def Apart : (start : Nat) → Ranges → Prop
  | _, [] => True
  | start, (first, last) :: ranges => start ≤ first ∧ first ≤ last ∧ Apart (last + 2) ranges

theorem Apart.from_earlier (apart : Apart start ranges) (le : earlier ≤ start) :
    Apart earlier ranges := by
  cases ranges with
  | nil => trivial
  | cons range ranges => exact ⟨Nat.le_trans le apart.1, apart.2⟩

theorem Apart.not_contains (apart : Apart start ranges) (below : code < start) :
    ranges.contains code = false := by
  cases ranges with
  | nil => rfl
  | cons range ranges => rw [Ranges.contains, if_pos (Nat.lt_of_lt_of_le below apart.1)]

/-- In front of ranges that begin behind it, a range adds its own code points. -/
theorem Apart.contains_cons (apart : Apart (last + 1) ranges) (filled : first ≤ last) (code : Nat) :
    Ranges.contains ((first, last) :: ranges) code =
      (decide (first ≤ code ∧ code ≤ last) || ranges.contains code) := by
  rw [Ranges.contains]
  by_cases inside : first ≤ code ∧ code ≤ last
  · simp [inside]
  · rw [decide_eq_false inside, Bool.false_or]
    split
    · exact (apart.not_contains (by omega)).symm
    · rw [if_neg (by omega)]

/-- The first range ends where its code points do. -/
theorem Apart.head_bounds (apart : Apart start ((first, last) :: ranges)) :
    (∀ code, Ranges.contains ((first, last) :: ranges) code = true → first ≤ code) ∧
      (∀ code, first ≤ code → code ≤ last → Ranges.contains ((first, last) :: ranges) code = true) ∧
      Ranges.contains ((first, last) :: ranges) (last + 1) = false := by
  obtain ⟨-, filled, behind⟩ := apart
  refine ⟨fun code inside => ?_, fun code lower upper => ?_, ?_⟩
  · rw [Ranges.contains] at inside
    split at inside
    · cases inside
    · omega
  · rw [Ranges.contains, if_neg (by omega), if_pos upper]
  · rw [Ranges.contains, if_neg (by omega), if_neg (by omega), behind.not_contains (by omega)]

/-- Ranges apart from each other are determined by the code points that they contain. -/
theorem Apart.unique (apart : Apart start ranges) (apart' : Apart start others)
    (same : ∀ code, ranges.contains code = others.contains code) : ranges = others := by
  induction ranges generalizing start others with
  | nil =>
    cases others with
    | nil => rfl
    | cons other others =>
      cases (same other.1).trans (apart'.head_bounds.2.1 other.1 (Nat.le_refl _) apart'.2.1)
  | cons range ranges ih =>
    cases others with
    | nil =>
      cases (same range.1).symm.trans (apart.head_bounds.2.1 range.1 (Nat.le_refl _) apart.2.1)
    | cons other others =>
      obtain ⟨begins, inside, gap⟩ := apart.head_bounds
      obtain ⟨begins', inside', gap'⟩ := apart'.head_bounds
      obtain ⟨first, last⟩ := range
      obtain ⟨first', last'⟩ := other
      obtain ⟨-, filled, behind⟩ := apart
      obtain ⟨-, filled', behind'⟩ := apart'
      obtain rfl : first = first' := Nat.le_antisymm
        (begins _ ((same _).trans (inside' _ (Nat.le_refl _) filled')))
        (begins' _ ((same _).symm.trans (inside _ (Nat.le_refl _) filled)))
      obtain rfl : last = last' := by
        rcases Nat.lt_trichotomy last last' with less | equal | less
        · cases (gap.symm.trans (same _)).trans (inside' _ (by omega) less)
        · exact equal
        · cases (gap'.symm.trans (same _).symm).trans (inside _ (by omega) less)
      rw [ih behind behind' fun code => ?_]
      rcases Nat.lt_or_ge code (last + 2) with below | above
      · rw [behind.not_contains below, behind'.not_contains below]
      · have rest := same code
        rwa [Ranges.contains, Ranges.contains, if_neg (by omega), if_neg (by omega),
          if_neg (by omega), if_neg (by omega)] at rest

/-! ## The ranges of a test -/

theorem mem_insert_point {point : Nat} :
    point ∈ Ranges.insertPoint code points ↔ point = code ∨ point ∈ points := by
  induction points with
  | nil => simp [Ranges.insertPoint]
  | cons other points ih =>
    rw [Ranges.insertPoint]
    split
    · simp
    · split
      · next same => simp [same]
      · simp only [List.mem_cons, ih]
        exact or_left_comm

theorem insert_point_ascends (ascend : points.Pairwise (· < ·)) :
    (Ranges.insertPoint code points).Pairwise (· < ·) := by
  induction points with
  | nil => exact List.pairwise_singleton _ _
  | cons other points ih =>
    obtain ⟨behind, rest⟩ := List.pairwise_cons.mp ascend
    rw [Ranges.insertPoint]
    split
    · next below =>
      refine List.pairwise_cons.mpr ⟨fun point member => ?_, ascend⟩
      rcases List.mem_cons.mp member with rfl | later
      · exact below
      · exact Nat.lt_trans below (behind point later)
    · split
      · exact ascend
      · refine List.pairwise_cons.mpr ⟨fun point member => ?_, ih rest⟩
        rcases mem_insert_point.mp member with rfl | later
        · omega
        · exact behind point later

/-- The points of a list in order, each once. -/
def inOrder (points : List Nat) : List Nat := points.foldr Ranges.insertPoint []

theorem mem_in_order {point : Nat} : point ∈ inOrder points ↔ point ∈ points := by
  induction points with
  | nil => simp [inOrder]
  | cons other points ih =>
    rw [inOrder, List.foldr_cons, mem_insert_point, List.mem_cons, ← ih, inOrder]

theorem in_order_ascends (points : List Nat) : (inOrder points).Pairwise (· < ·) := by
  induction points with
  | nil => exact .nil
  | cons other points ih => exact insert_point_ascends ih

/-- A range in front of others that begin behind it stays apart from them or becomes one with the
next. -/
theorem push_apart (apart : Apart (last + 1) ranges) (filled : first ≤ last) (le : start ≤ first) :
    Apart start (Ranges.push first last ranges) := by
  cases ranges with
  | nil => exact ⟨le, filled, trivial⟩
  | cons range ranges =>
    rw [Ranges.push]
    split
    · next adjacent => exact ⟨le, by have := apart.2.1; omega, apart.2.2⟩
    · next gap => exact ⟨le, filled, by have := apart.1; omega, apart.2⟩

theorem push_contains (apart : Apart (last + 1) ranges) (filled : first ≤ last) (code : Nat) :
    (Ranges.push first last ranges).contains code =
      (decide (first ≤ code ∧ code ≤ last) || ranges.contains code) := by
  cases ranges with
  | nil => exact apart.contains_cons filled code
  | cons range ranges =>
    obtain ⟨begins, full, behind⟩ := apart
    have later : Apart (range.2 + 1) ranges := behind.from_earlier (Nat.le_succ _)
    rw [Ranges.push]
    split
    · next adjacent =>
      rw [later.contains_cons (by omega), later.contains_cons full, ← Bool.or_assoc,
        ← Bool.decide_or]
      congr 2
      exact propext (by omega)
    · have whole : Apart (last + 1) (range :: ranges) := ⟨begins, full, behind⟩
      exact whole.contains_cons filled code

theorem of_test_apart (ascend : (start :: points).Pairwise (· < ·)) :
    Apart start (Ranges.ofTest test (start :: points)) := by
  induction points generalizing start with
  | nil => trivial
  | cons next points ih =>
    obtain ⟨behind, rest⟩ := List.pairwise_cons.mp ascend
    have below := behind next List.mem_cons_self
    rw [Ranges.ofTest]
    split
    · exact push_apart ((ih rest).from_earlier (by omega)) (by omega) (Nat.le_refl _)
    · exact (ih rest).from_earlier (Nat.le_of_lt below)

/-- Whether one of the points parts two code points: it is no greater than the later one, but
greater than the other. -/
def Parted (points : List Nat) (code later : Nat) : Prop :=
  ∃ point ∈ points, code < point ∧ point ≤ later

/-- The ranges of a test that changes at the points only, and fails from one of them on, contain
what passes the test. -/
theorem of_test_contains (ascend : (start :: points).Pairwise (· < ·))
    (steady : ∀ code later, start ≤ code → code < later → test code ≠ test later →
      Parted points code later)
    (ends : ∃ point ∈ start :: points, ∀ code, point ≤ code → test code = false)
    (within : start ≤ code) :
    (Ranges.ofTest test (start :: points)).contains code = test code := by
  induction points generalizing start with
  | nil =>
    obtain ⟨point, member, fails⟩ := ends
    rw [List.mem_singleton.mp member] at fails
    exact (fails code within).symm
  | cons next points ih =>
    obtain ⟨behind, rest⟩ := List.pairwise_cons.mp ascend
    have below := behind next List.mem_cons_self
    have apart : Apart next (Ranges.ofTest test (next :: points)) := of_test_apart rest
    have first : code < next → test code = test start := by
      intro early
      by_contra changed
      have later : start < code := Nat.lt_of_le_of_ne within fun same => changed (by rw [same])
      obtain ⟨point, member, lower, upper⟩ :=
        steady start code (Nat.le_refl _) later (Ne.symm changed)
      rcases List.mem_cons.mp member with rfl | member
      · omega
      · have := (List.pairwise_cons.mp rest).1 point member
        omega
    have others : next ≤ code →
        (Ranges.ofTest test (next :: points)).contains code = test code := by
      refine ih rest (fun code later from_next less changes => ?_) ?_
      · obtain ⟨point, member, lower, upper⟩ := steady code later (by omega) less changes
        rcases List.mem_cons.mp member with rfl | member
        · omega
        · exact ⟨point, member, lower, upper⟩
      · obtain ⟨point, member, fails⟩ := ends
        rcases List.mem_cons.mp member with rfl | member
        · exact ⟨next, List.mem_cons_self, fun code above => fails code (by omega)⟩
        · exact ⟨point, member, fails⟩
    rw [Ranges.ofTest]
    rcases Nat.lt_or_ge code next with early | late
    · have missing := apart.not_contains early
      rw [first early]
      cases passes : test start with
      | false => exact missing
      | true =>
        rw [if_pos rfl, push_contains (apart.from_earlier (by omega)) (by omega), missing]
        simp [within, show code ≤ next - 1 by omega]
    · rw [← others late]
      split
      · rw [push_contains (apart.from_earlier (by omega)) (by omega),
          decide_eq_false (by omega), Bool.false_or]
      · rfl

/-! ## Case -/

theorem mem_codes {run : Shift} (moves : run.moves code = true) : code ∈ run.codes := by
  simp only [Shift.moves, Bool.and_eq_true, decide_eq_true_eq, beq_iff_eq] at moves
  obtain ⟨⟨lower, upper⟩, steps⟩ := moves
  refine List.mem_range'.mpr ⟨(code - run.first) / run.stride, ?_, ?_⟩
  · exact Nat.lt_succ_of_le (Nat.div_le_div_right (by omega))
  · rw [Nat.mul_div_cancel' (Nat.dvd_of_mod_eq_zero steps)]
    omega

theorem moves_bounds {run : Shift} (moves : run.moves code = true) :
    run.first ≤ code ∧ code ≤ run.last := by
  simp only [Shift.moves, Bool.and_eq_true, decide_eq_true_eq] at moves
  exact moves.1

/-- A run ends before another begins. -/
def Before (run other : Shift) : Prop := run.first ≤ run.last ∧ run.last < other.first

instance : DecidableRel Before := fun _ _ => inferInstanceAs (Decidable (_ ∧ _))

/-- Runs in order carry each code point by the run that it belongs to. -/
theorem apply_moved {runs : Shifts} (order : runs.Pairwise Before) {run : Shift}
    (listed : run ∈ runs) (moves : run.moves code = true) :
    runs.apply code = run.target + (code - run.first) := by
  have bounds := moves_bounds moves
  induction runs with
  | nil => cases listed
  | cons head runs ih =>
    obtain ⟨front, rest⟩ := List.pairwise_cons.mp order
    rw [Shifts.apply]
    rcases List.mem_cons.mp listed with rfl | later
    · rw [if_neg (by omega), if_pos moves]
    · have before := front run later
      have still : ¬ head.moves code = true := fun moved => by
        have := moves_bounds moved
        have := before.2
        omega
      rw [if_neg (by have := before.1; have := before.2; omega), if_neg still]
      exact ih rest later

/-- Whether none of the runs carries on what a run has carried. -/
def settles (runs : Shifts) (run : Shift) : Bool :=
  (runs.filter fun other => Nat.ble run.target other.last &&
    Nat.ble other.first (run.target + (run.last - run.first))).all fun other =>
      run.codes.all fun code => !other.moves (run.target + (code - run.first))

theorem apply_settled {runs : Shifts} {run : Shift} (settled : settles runs run = true)
    (moves : run.moves code = true) :
    runs.apply (run.target + (code - run.first)) = run.target + (code - run.first) := by
  have bounds := moves_bounds moves
  rcases apply_cases runs (run.target + (code - run.first)) with kept | carried
  · exact kept
  · exfalso
    obtain ⟨other, listed, moved, -⟩ := run_of_preimage carried
    have within := moves_bounds moved
    have near : other ∈ runs.filter fun other => Nat.ble run.target other.last &&
        Nat.ble other.first (run.target + (run.last - run.first)) := by
      refine List.mem_filter.mpr ⟨listed, Bool.and_eq_true_iff.mpr ⟨?_, ?_⟩⟩
      · exact Nat.ble_eq_true_of_le (by omega)
      · exact Nat.ble_eq_true_of_le (by omega)
    have stays :=
      List.all_eq_true.mp (List.all_eq_true.mp settled other near) code (mem_codes moves)
    rw [moved] at stays
    cases stays

theorem folding_ordered : foldingShifts.Pairwise Before := by
  have trans : IsTrans Shift Before := ⟨fun a b c first second => ⟨first.1, by
    have := first.2
    have := second.1
    have := second.2
    omega⟩⟩
  exact List.isChain_iff_pairwise.mp (by decide +kernel)

theorem folding_settled : foldingShifts.all (settles foldingShifts) = true := by decide +kernel

theorem folding_valid {run : Shift} (listed : run ∈ foldingShifts) (moves : run.moves code = true) :
    code.isValidChar := by
  have table : foldingShifts.all (fun run => run.last < 0xd800 || (0xdfff < run.first &&
      run.last < 0x110000)) = true := by
    decide +kernel
  have bounds := moves_bounds moves
  have valid := List.all_eq_true.mp table run listed
  simp only [Bool.or_eq_true, Bool.and_eq_true, decide_eq_true_eq] at valid
  simp only [Nat.isValidChar]
  omega

/-- What a run carries folds to where it is carried. -/
theorem fold_moved {run : Shift} (listed : run ∈ foldingShifts) (moves : run.moves code = true) :
    fold (Char.ofNat code) = Char.ofNat (run.target + (code - run.first)) := by
  rw [fold, of_nat_to_nat (folding_valid listed moves), apply_moved folding_ordered listed moves]

/-- Folding again changes nothing. -/
theorem fold_fold (c : Char) : fold (fold c) = fold c := by
  rcases apply_cases foldingShifts c.toNat with kept | carried
  · rw [fold, fold_to_nat, kept, kept, fold, kept]
  · obtain ⟨run, listed, moves, reached⟩ := run_of_preimage carried
    have settled := apply_settled (List.all_eq_true.mp folding_settled run listed) moves
    rw [reached] at settled
    rw [fold, fold_to_nat, settled, fold]

/-- Case variants fold alike. -/
theorem fold_of_variants {c d : Char} (variant : d ∈ caseVariants c) : fold d = fold c := by
  rcases List.mem_cons.mp variant with rfl | carried
  · exact fold_fold c
  · obtain ⟨code, image, rfl⟩ := List.mem_map.mp carried
    obtain ⟨run, listed, moves, reached⟩ := run_of_preimage image
    rw [fold_moved listed moves, reached, Char.ofNat_toNat]

/-- A character is a case variant of its own case variants. -/
theorem variant_symm {c d : Char} (variant : d ∈ caseVariants c) : c ∈ caseVariants d := by
  rw [caseVariants, fold_of_variants variant]
  exact mem_case_variants c

/-- A character with other case variants is listed among those with case, and so are these. -/
theorem mem_cased {c d : Char} (variant : d ∈ caseVariants c) (other : d ≠ c) :
    d ∈ casedCharacters := by
  rcases List.mem_cons.mp variant with rfl | carried
  · rcases apply_cases foldingShifts c.toNat with kept | carried
    · exact absurd (by rw [fold, kept, Char.ofNat_toNat]) other
    · obtain ⟨run, listed, moves, reached⟩ := run_of_preimage carried
      refine List.mem_flatMap.mpr ⟨run, listed, List.mem_flatMap.mpr ⟨_, mem_codes moves, ?_⟩⟩
      rw [reached]
      simp [fold]
  · obtain ⟨code, image, rfl⟩ := List.mem_map.mp carried
    obtain ⟨run, listed, moves, -⟩ := run_of_preimage image
    exact List.mem_flatMap.mpr ⟨run, listed, List.mem_flatMap.mpr ⟨_, mem_codes moves, by simp⟩⟩

/-- What a set gains when case is ignored is among the newcomers. -/
theorem mem_newcomers {set : CharSet} {c : Char} (outside : set.contains c = false)
    (gained : (CharSet.ignoringCase set).contains c = true) : c ∈ set.newcomers := by
  obtain ⟨variant, listed, inside⟩ := List.any_eq_true.mp gained
  have other : variant ≠ c := fun same => by
    rw [same, outside] at inside
    cases inside
  refine List.mem_filter.mpr ⟨List.mem_flatMap.mpr ⟨variant, ?_, variant_symm listed⟩, ?_⟩
  · exact List.mem_filter.mpr ⟨mem_cased listed other, inside⟩
  · rw [outside]
    rfl

/-! ## Sets -/

theorem Parted.append_left {code later : Nat} {front back : List Nat}
    (parted : Parted front code later) : Parted (front ++ back) code later := by
  obtain ⟨point, member, bounds⟩ := parted
  exact ⟨point, List.mem_append_left _ member, bounds⟩

theorem Parted.append_right {code later : Nat} {front back : List Nat}
    (parted : Parted back code later) : Parted (front ++ back) code later := by
  obtain ⟨point, member, bounds⟩ := parted
  exact ⟨point, List.mem_append_right _ member, bounds⟩

/-- Two code points that a table tells apart are parted by its bounds. -/
theorem table_parted {code later : Nat} (less : code < later)
    (differ : ranges.contains code ≠ ranges.contains later) : Parted ranges.bounds code later := by
  induction ranges with
  | nil => exact absurd rfl differ
  | cons range ranges ih =>
    by_cases first : code < range.1 ∧ range.1 ≤ later
    · exact ⟨range.1, by simp [Ranges.bounds], first⟩
    by_cases last : code < range.2 + 1 ∧ range.2 + 1 ≤ later
    · exact ⟨range.2 + 1, by simp [Ranges.bounds], last⟩
    have begins : code < range.1 ↔ later < range.1 := by omega
    have ends : code ≤ range.2 ↔ later ≤ range.2 := by omega
    refine Parted.append_right (ih fun same => differ ?_)
    simp only [Ranges.contains, begins, ends, same]

theorem range_contains (first last c : Char) :
    (CharSet.range first last).contains c =
      Ranges.contains [(first.toNat, last.toNat)] c.toNat := by
  rw [Bool.eq_iff_iff, CharSet.contains, Bool.and_eq_true, decide_eq_true_eq, decide_eq_true_eq]
  change first.toNat ≤ c.toNat ∧ c.toNat ≤ last.toNat ↔ _
  rw [Ranges.contains, Ranges.contains]
  split
  · simp only [Bool.false_eq_true, iff_false]
    omega
  · split
    · simp only [iff_true]
      omega
    · simp only [Bool.false_eq_true, iff_false]
      omega

theorem contains_ignoring_case {set : CharSet} {c : Char} (inside : set.contains c = true) :
    (CharSet.ignoringCase set).contains c = true :=
  List.any_eq_true.mpr ⟨c, mem_case_variants c, inside⟩

/-- Outside of the code points from the capital A to the small z, case is no matter within ASCII. -/
theorem contains_ignoring_ascii_case {set : CharSet} {c : Char}
    (outside : c.toNat < 'A'.toNat ∨ 'z'.toNat < c.toNat) :
    (CharSet.ignoringAsciiCase set).contains c = set.contains c := by
  have lower : c.toLower = c := dif_neg fun capital => by
    have begins : 'A'.toNat ≤ c.toNat := capital.1
    have ends : c.toNat ≤ 'Z'.toNat := capital.2
    rw [show 'Z'.toNat = 90 from rfl] at ends
    rw [show 'z'.toNat = 122 from rfl] at outside
    omega
  have upper : c.toUpper = c := dif_neg fun small => by
    have begins : 'a'.toNat ≤ c.toNat := small.1
    have ends : c.toNat ≤ 'z'.toNat := small.2
    rw [show 'a'.toNat = 97 from rfl] at begins
    rw [show 'A'.toNat = 65 from rfl] at outside
    omega
  rw [CharSet.contains, lower, upper, Bool.or_self]

/-- Two characters that a set tells apart are parted by its bounds. -/
theorem bounds_part {set : CharSet} {c d : Char} (less : c.toNat < d.toNat)
    (differ : set.contains c ≠ set.contains d) : Parted set.bounds c.toNat d.toNat := by
  induction set with
  | all => exact absurd rfl differ
  | range first last =>
    rw [range_contains, range_contains] at differ
    exact table_parted less differ
  | ranges table => exact table_parted less differ
  | digit => exact table_parted less differ
  | blank => exact table_parted less differ
  | word => exact table_parted less differ
  | union left right ihLeft ihRight =>
    by_cases same : left.contains c = left.contains d
    · refine (ihRight fun same' => differ ?_).append_right
      rw [CharSet.contains, CharSet.contains, same, same']
    · exact (ihLeft same).append_left
  | intersection left right ihLeft ihRight =>
    by_cases same : left.contains c = left.contains d
    · refine (ihRight fun same' => differ ?_).append_right
      rw [CharSet.contains, CharSet.contains, same, same']
    · exact (ihLeft same).append_left
  | complement set ih =>
    refine ih fun same => differ ?_
    rw [CharSet.contains, CharSet.contains, same]
  | ignoringCase set ih =>
    by_cases same : set.contains c = set.contains d
    · refine Parted.append_left ?_
      cases outside : set.contains c with
      | true =>
        exact absurd ((contains_ignoring_case outside).trans
          (contains_ignoring_case (same ▸ outside)).symm) differ
      | false =>
        cases gained : (CharSet.ignoringCase set).contains c with
        | true =>
          exact ⟨c.toNat + 1, List.mem_flatMap.mpr ⟨c, mem_newcomers outside gained, by simp⟩,
            Nat.lt_succ_self _, less⟩
        | false =>
          have gained' : (CharSet.ignoringCase set).contains d = true := by
            simpa [gained] using differ
          exact ⟨d.toNat, List.mem_flatMap.mpr ⟨d, mem_newcomers (same ▸ outside) gained', by simp⟩,
            less, Nat.le_refl _⟩
    · exact (ih same).append_right
  | ignoringAsciiCase set ih =>
    by_cases letter : 'A'.toNat ≤ c.toNat ∧ c.toNat ≤ 'z'.toNat
    · refine Parted.append_left ⟨c.toNat + 1, List.mem_range'_1.mpr ?_, Nat.lt_succ_self _, less⟩
      omega
    by_cases letter' : 'A'.toNat ≤ d.toNat ∧ d.toNat ≤ 'z'.toNat
    · refine Parted.append_left ⟨d.toNat, List.mem_range'_1.mpr ?_, less, Nat.le_refl _⟩
      omega
    rw [contains_ignoring_ascii_case (by omega), contains_ignoring_ascii_case (by omega)] at differ
    exact (ih differ).append_right

/-! ## Members -/

theorem valid_iff_char : code.isValidChar ↔ code < 0xd800 ∨ (0xe000 ≤ code ∧ code < 0x110000) := by
  simp only [Nat.isValidChar]
  omega

/-- Two code points of which a set contains one are parted by the bounds of the set or of the
characters. -/
theorem codes_part {set : CharSet} {code later : Nat} (less : code < later)
    (differ : set.containsCode code ≠ set.containsCode later) :
    Parted (CharSet.codeBounds ++ set.bounds) code later := by
  by_cases chars : code.isValidChar ∧ later.isValidChar
  · have known := of_nat_to_nat chars.1
    have known' := of_nat_to_nat chars.2
    simp only [CharSet.containsCode, chars.1, chars.2, decide_true, Bool.true_and] at differ
    have parted := bounds_part (by rw [known, known']; exact less) differ
    rw [known, known'] at parted
    exact parted.append_right
  · refine Parted.append_left ?_
    have char : ¬ (¬ code.isValidChar ∧ ¬ later.isValidChar) := fun neither => differ (by
      simp [CharSet.containsCode, neither.1, neither.2])
    rw [valid_iff_char, valid_iff_char] at chars char
    rcases Nat.lt_or_ge code 0xd800 with low | high
    · exact ⟨0xd800, by simp [CharSet.codeBounds], low, by omega⟩
    · rcases Nat.lt_or_ge code 0xe000 with below | above
      · exact ⟨0xe000, by simp [CharSet.codeBounds], below, by omega⟩
      · exact ⟨0x110000, by simp [CharSet.codeBounds], by omega, by omega⟩

theorem members_of_points (set : CharSet) :
    ∃ points, inOrder (CharSet.codeBounds ++ set.bounds) = 0 :: points ∧
      set.members = Ranges.ofTest set.containsCode (0 :: points) := by
  have zero : 0 ∈ inOrder (CharSet.codeBounds ++ set.bounds) :=
    mem_in_order.mpr (by simp [CharSet.codeBounds])
  have ascend := in_order_ascends (CharSet.codeBounds ++ set.bounds)
  cases listed : inOrder (CharSet.codeBounds ++ set.bounds) with
  | nil =>
    rw [listed] at zero
    cases zero
  | cons first points =>
    rw [listed] at zero ascend
    obtain rfl : first = 0 := by
      rcases List.mem_cons.mp zero with same | later
      · exact same.symm
      · exact absurd ((List.pairwise_cons.mp ascend).1 0 later) (Nat.not_lt_zero _)
    exact ⟨points, rfl, by rw [CharSet.members, ← listed, inOrder]⟩

/-- No two ranges of members could be one. -/
theorem members_apart (set : CharSet) : Apart 0 set.members := by
  obtain ⟨points, order, members⟩ := members_of_points set
  rw [members]
  exact of_test_apart (order ▸ in_order_ascends _)

/-- The ranges of members contain the members. -/
theorem members_contain (set : CharSet) (code : Nat) :
    set.members.contains code = set.containsCode code := by
  obtain ⟨points, order, members⟩ := members_of_points set
  have listed : ∀ {point}, point ∈ CharSet.codeBounds ++ set.bounds → point ∈ 0 :: points := by
    intro point member
    rw [← order]
    exact mem_in_order.mpr member
  rw [members]
  refine of_test_contains (order ▸ in_order_ascends _) ?_ ?_ (Nat.zero_le _)
  · intro code later _ less differ
    obtain ⟨point, member, above, below⟩ := codes_part less differ
    rcases List.mem_cons.mp (listed member) with rfl | member
    · omega
    · exact ⟨point, member, above, below⟩
  · refine ⟨0x110000, listed (by simp [CharSet.codeBounds]), fun code beyond => ?_⟩
    have none : ¬ code.isValidChar := by
      rw [valid_iff_char]
      omega
    simp [CharSet.containsCode, none]

/-- The memory of a set depends on its members alone, however the set is described. -/
theorem memory_of_members {set other : CharSet} (same : ∀ c, set.contains c = other.contains c) :
    set.memory = other.memory := by
  have members : set.members = other.members :=
    (members_apart set).unique (members_apart other) fun code => by
      rw [members_contain, members_contain, CharSet.containsCode, CharSet.containsCode, same]
  rw [CharSet.memory, CharSet.memory, members]

example : (CharSet.union .word (.complement .word)).memory = CharSet.all.memory :=
  memory_of_members fun c => by simp [CharSet.contains]

end FormulaLexer.SetMembers
