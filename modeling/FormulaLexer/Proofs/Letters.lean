import FormulaLexer.Pattern.CharSet
import Mathlib.Data.List.Sort

/-! Letters up to case, and the characters of words. A character is one of its own case variants,
a sign without case has no others, and the tables of digits and blanks are compared with that of
word characters range by range. -/
namespace FormulaLexer.Letters
open Unicode

/-- What a look at each character of a text has shown. -/
theorem forall_of_all {p : Char → Prop} [DecidablePred p] {text : List Char}
    (table : text.all (fun c => decide (p c)) = true) : ∀ c ∈ text, p c :=
  fun c member => of_decide_eq_true (List.all_eq_true.mp table c member)

/-! ## Case -/

/-- A run keeps a code point or carries it to its image. -/
theorem apply_cases (runs : Shifts) (code : Nat) :
    runs.apply code = code ∨ code ∈ runs.preimages (runs.apply code) := by
  induction runs with
  | nil => exact .inl rfl
  | cons run runs ih =>
    rw [Shifts.apply]
    split
    · exact .inl rfl
    · split
      · next below moves =>
        refine .inr (List.mem_filterMap.mpr ⟨run, by simp, ?_⟩)
        have start : run.first + (code - run.first) = code := by omega
        simp [Shift.preimage?, start, moves]
      · rcases ih with kept | carried
        · exact .inl kept
        · refine .inr ?_
          obtain ⟨other, member, image⟩ := List.mem_filterMap.mp carried
          exact List.mem_filterMap.mpr ⟨other, by simp [member], image⟩

/-- All code points to which a run carries others are those of characters. -/
def Shift.valid (run : Shift) : Bool :=
  run.target + (run.last - run.first) < 0xd800 ||
    (0xdfff < run.target && run.target + (run.last - run.first) < 0x110000)

theorem apply_valid {runs : Shifts} (valid : runs.all Shift.valid = true) {code : Nat}
    (char : code.isValidChar) : (runs.apply code).isValidChar := by
  induction runs with
  | nil => exact char
  | cons run runs ih =>
    obtain ⟨first, others⟩ := Bool.and_eq_true_iff.mp (List.all_cons ▸ valid)
    rw [Shifts.apply]
    split
    · exact char
    · split
      · next below moves =>
        simp only [Shift.moves, Bool.and_eq_true, decide_eq_true_eq] at moves
        simp only [Shift.valid, Bool.or_eq_true, Bool.and_eq_true, decide_eq_true_eq] at first
        simp only [Nat.isValidChar]
        omega
      · exact ih others

theorem of_nat_to_nat {code : Nat} (char : code.isValidChar) : (Char.ofNat code).toNat = code := by
  rw [Char.ofNat, dif_pos char]
  rfl

theorem fold_to_nat (c : Char) : (fold c).toNat = foldingShifts.apply c.toNat :=
  of_nat_to_nat (apply_valid (by decide +kernel) c.valid)

/-- A character is a case variant of itself. -/
theorem mem_case_variants (c : Char) : c ∈ caseVariants c := by
  rw [caseVariants]
  rcases apply_cases foldingShifts c.toNat with kept | carried
  · refine List.mem_cons.mpr (.inl ?_)
    rw [fold, kept, Char.ofNat_toNat]
  · refine List.mem_cons_of_mem _ (List.mem_map.mpr ⟨c.toNat, ?_, Char.ofNat_toNat c⟩)
    rw [fold_to_nat]
    exact carried

/-- Whether folding keeps a code point, other than the one that stands for none. -/
def kept (code : Nat) : Bool := code ≠ 0 && foldingShifts.all fun run => !run.moves code

/-- A code point that runs carry to an image is moved there by one of them. -/
theorem run_of_preimage {runs : Shifts} {image code : Nat} (carried : code ∈ runs.preimages image) :
    ∃ run ∈ runs, run.moves code = true ∧ run.target + (code - run.first) = image := by
  obtain ⟨run, listed, start⟩ := List.mem_filterMap.mp carried
  refine ⟨run, listed, ?_⟩
  simp only [Shift.preimage?] at start
  split at start
  · split at start
    · next reaches moves =>
      cases start
      exact ⟨moves, by omega⟩
    · cases start
  · cases start

/-- A character that folding keeps is a variant of those characters only that fold to it. -/
theorem fold_of_variant {c d : Char} (keeps : kept c.toNat = true) (variant : c ∈ caseVariants d) :
    fold d = c := by
  obtain ⟨positive, stays⟩ := Bool.and_eq_true_iff.mp keeps
  rcases List.mem_cons.mp variant with folded | carried
  · exact folded.symm
  · -- A code point that is carried to another one is not kept.
    exfalso
    obtain ⟨code, image, same⟩ := List.mem_map.mp carried
    obtain ⟨run, member, moved, -⟩ := run_of_preimage image
    by_cases valid : code.isValidChar
    · have still := List.all_eq_true.mp stays run member
      rw [← same, of_nat_to_nat valid, moved] at still
      cases still
    · rw [Char.ofNat, dif_neg valid] at same
      subst same
      cases positive

/-- The case variants of a character that folding keeps are those that are carried to it. -/
theorem variant_of_kept {c d : Char} (keeps : kept c.toNat = true)
    (variant : c ∈ caseVariants d) : d = c ∨ d.toNat ∈ foldingShifts.preimages c.toNat := by
  have folded := fold_of_variant keeps variant
  rcases apply_cases foldingShifts d.toNat with same | carried
  · left
    rw [← folded, fold, same, Char.ofNat_toNat]
  · right
    rw [← folded, fold_to_nat]
    exact carried

/-! ## Tables -/

theorem contains_range {ranges : Ranges} {code : Nat} (member : ranges.contains code = true) :
    ∃ range ∈ ranges, range.1 ≤ code ∧ code ≤ range.2 := by
  induction ranges with
  | nil => cases member
  | cons range ranges ih =>
    rw [Ranges.contains] at member
    split at member
    · cases member
    · split at member
      · next lower upper => exact ⟨range, by simp, by omega, upper⟩
      · obtain ⟨other, listed, bounds⟩ := ih member
        exact ⟨other, by simp [listed], bounds⟩

theorem contains_of_mem {ranges : Ranges} {range : Nat × Nat} {code : Nat}
    (ascending : ranges.ascending = true) (member : range ∈ ranges) (lower : range.1 ≤ code)
    (upper : code ≤ range.2) : ranges.contains code = true := by
  induction ranges with
  | nil => cases member
  | cons head ranges ih =>
    rw [Ranges.contains]
    rcases List.mem_cons.mp member with rfl | later
    · rw [if_neg (by omega), if_pos upper]
    · cases ranges with
      | nil => cases later
      | cons next ranges =>
        rw [Ranges.ascending, Bool.and_eq_true, Bool.and_eq_true, decide_eq_true_eq,
          decide_eq_true_eq] at ascending
        obtain ⟨⟨filled, apart⟩, rest⟩ := ascending
        have inside := ih rest later
        have above : next.1 ≤ code := by
          rw [Ranges.contains] at inside
          split at inside
          · cases inside
          · omega
        rw [if_neg (by omega), if_neg (by omega)]
        exact inside

/-- Whether each of the ranges, which come in order, lies in one of the others. -/
def inside (inner : Ranges) : (outer : Ranges) → Bool
  | [] => inner.isEmpty
  | range :: outer =>
    inside (inner.dropWhile fun part => range.1 ≤ part.1 && part.2 ≤ range.2) outer

theorem inside_mem {inner outer : Ranges} (within : inside inner outer = true)
    {part : Nat × Nat} (member : part ∈ inner) :
    ∃ range ∈ outer, range.1 ≤ part.1 ∧ part.2 ≤ range.2 := by
  induction outer generalizing inner with
  | nil =>
    rw [List.isEmpty_iff.mp within] at member
    cases member
  | cons range outer ih =>
    rw [← List.takeWhile_append_dropWhile
      (p := fun part => range.1 ≤ part.1 && part.2 ≤ range.2) (l := inner)] at member
    rcases List.mem_append.mp member with taken | left
    · have bounds := List.all_eq_true.mp List.all_takeWhile part taken
      exact ⟨range, by simp, by simpa using bounds⟩
    · obtain ⟨other, listed, bounds⟩ := ih within left
      exact ⟨other, by simp [listed], bounds⟩

theorem contains_of_inside {inner outer : Ranges} (within : inside inner outer = true)
    (ascending : outer.ascending = true) {part : Nat × Nat} (member : part ∈ inner) {code : Nat}
    (lower : part.1 ≤ code) (upper : code ≤ part.2) : outer.contains code = true := by
  obtain ⟨range, listed, first, last⟩ := inside_mem within member
  exact contains_of_mem ascending listed (Nat.le_trans first lower) (Nat.le_trans upper last)

theorem words_ascend : wordRanges.ascending = true := by decide +kernel

/-- Digits are word characters. -/
theorem word_of_digit {c : Char} (digit : isDecimalDigit c = true) : isWord c = true := by
  obtain ⟨part, listed, lower, upper⟩ := contains_range digit
  have within : inside decimalDigitRanges wordRanges = true := by decide +kernel
  exact contains_of_inside within words_ascend listed lower upper

/-- Blanks are no word characters. -/
theorem not_word_of_blank {c : Char} (blank : isBlank c = true) : isWord c = false := by
  have table : blankRanges.all (fun range => (List.range' range.1 (range.2 + 1 - range.1)).all
      fun code => !wordRanges.contains code) = true := by
    decide +kernel
  obtain ⟨range, listed, lower, upper⟩ := contains_range blank
  have codes := List.all_eq_true.mp (List.all_eq_true.mp table range listed) c.toNat
    (List.mem_range'_1.mpr (by omega))
  simpa [isWord] using codes

/-! ## Words up to case -/

/-- The code points of a run, as one range where the run leaves out none. -/
def parts (first last stride : Nat) : Ranges :=
  if stride = 1 then [(first, last)]
  else (List.range' first ((last - first) / stride + 1) stride).map fun code => (code, code)

theorem mem_parts (first last : Nat) {stride distance : Nat} (bound : first + distance ≤ last)
    (steps : distance % stride = 0) :
    ∃ part ∈ parts first last stride, part.1 ≤ first + distance ∧ first + distance ≤ part.2 := by
  rw [parts]
  split
  · exact ⟨(first, last), by simp, by dsimp only; omega, bound⟩
  · refine ⟨_, List.mem_map_of_mem (List.mem_range'.mpr ⟨distance / stride, ?_, rfl⟩), ?_⟩
    · exact Nat.lt_succ_of_le (Nat.div_le_div_right (by omega))
    · rw [Nat.mul_div_cancel' (Nat.dvd_of_mod_eq_zero steps)]
      exact ⟨Nat.le_refl _, Nat.le_refl _⟩

/-- The code points that folding carries to others. -/
def foldingSources : Ranges :=
  foldingShifts.flatMap fun run => parts run.first run.last run.stride

/-- The code points to which folding carries others, in order. -/
def foldingTargets : Ranges :=
  (foldingShifts.flatMap fun run =>
    parts run.target (run.target + (run.last - run.first)) run.stride).insertionSort fun range next =>
      range.1 ≤ next.1

/-- Only word characters have case. -/
theorem word_of_moved {run : Shift} (listed : run ∈ foldingShifts) {code : Nat}
    (moves : run.moves code = true) :
    wordRanges.contains code = true ∧
      wordRanges.contains (run.target + (code - run.first)) = true := by
  have sources : inside foldingSources wordRanges = true := by decide +kernel
  have targets : inside foldingTargets wordRanges = true := by decide +kernel
  simp only [Shift.moves, Bool.and_eq_true, decide_eq_true_eq, beq_iff_eq] at moves
  obtain ⟨⟨first, last⟩, steps⟩ := moves
  constructor
  · obtain ⟨part, member, lower, upper⟩ := mem_parts run.first run.last (by omega) steps
    exact contains_of_inside sources words_ascend (List.mem_flatMap.mpr ⟨run, listed, member⟩)
      (by omega) (by omega)
  · obtain ⟨part, member, lower, upper⟩ :=
      mem_parts run.target (run.target + (run.last - run.first)) (by omega) steps
    exact contains_of_inside targets words_ascend
      ((List.mem_insertionSort _).mpr (List.mem_flatMap.mpr ⟨run, listed, member⟩)) lower upper

/-- A character outside of words is its only case variant. -/
theorem variant_of_no_word {c d : Char} (outside : isWord c = false) (variant : d ∈ caseVariants c) :
    d = c := by
  have same : fold c = c := by
    rcases apply_cases foldingShifts c.toNat with kept | carried
    · rw [fold, kept, Char.ofNat_toNat]
    · obtain ⟨run, listed, moves, -⟩ := run_of_preimage carried
      rw [isWord, (word_of_moved listed moves).1] at outside
      cases outside
  rcases List.mem_cons.mp variant with rfl | carried
  · exact same
  · obtain ⟨code, image, -⟩ := List.mem_map.mp carried
    rw [same] at image
    obtain ⟨run, listed, moves, reached⟩ := run_of_preimage image
    rw [isWord, ← reached, (word_of_moved listed moves).2] at outside
    cases outside

/-- Only a sign itself folds to it. -/
theorem sign_of_fold {c d : Char} (outside : isWord d = false) (folded : fold c = d) : c = d := by
  have kept : fold d = d := variant_of_no_word outside (show fold d ∈ caseVariants d from
    List.mem_cons_self)
  refine variant_of_no_word outside ?_
  rw [caseVariants, kept, ← folded]
  exact mem_case_variants c

/-- Folding keeps word characters and signs apart. -/
theorem fold_word (c : Char) : isWord (fold c) = isWord c := by
  cases outside : isWord (fold c) with
  | false => rw [sign_of_fold outside rfl, outside]
  | true =>
    cases sign : isWord c with
    | true => rfl
    | false =>
      rw [variant_of_no_word sign (show fold c ∈ caseVariants c from List.mem_cons_self),
        sign] at outside
      cases outside

/-! ## Listed sets -/

/-- The code points of a set, if its description is short enough to list them. Up to case, a
character that folding keeps has itself and what is carried to it. -/
def codes? : CharSet → Option (List Nat)
  | .range first last => some (List.range' first.toNat (last.toNat + 1 - first.toNat))
  | .union left right => (codes? left).bind fun front => (codes? right).map (front ++ ·)
  | .ignoringCase set => (codes? set).bind fun codes =>
    if codes.all kept then
      some (codes.flatMap fun code => code :: foldingShifts.preimages code)
    else none
  | _ => none

theorem codes_contains {set : CharSet} {codes : List Nat} (lists : codes? set = some codes) {c : Char}
    (member : set.contains c = true) : c.toNat ∈ codes := by
  induction set generalizing codes c with
  | range first last =>
    cases lists
    simp only [CharSet.contains, Bool.and_eq_true, decide_eq_true_eq] at member
    have lower : first.toNat ≤ c.toNat := member.1
    have upper : c.toNat ≤ last.toNat := member.2
    exact List.mem_range'_1.mpr (by omega)
  | union left right ihLeft ihRight =>
    obtain ⟨front, listsLeft, lists⟩ := Option.bind_eq_some_iff.mp lists
    obtain ⟨back, listsRight, rfl⟩ := Option.map_eq_some_iff.mp lists
    rcases Bool.or_eq_true_iff.mp member with member | member
    · exact List.mem_append_left back (ihLeft listsLeft member)
    · exact List.mem_append_right front (ihRight listsRight member)
  | ignoringCase set ih =>
    obtain ⟨inner, listsInner, lists⟩ := Option.bind_eq_some_iff.mp lists
    split at lists
    · next keeps =>
      cases lists
      obtain ⟨variant, listed, inside⟩ := List.any_eq_true.mp member
      have known := ih listsInner inside
      rcases variant_of_kept (List.all_eq_true.mp keeps _ known) listed with rfl | carried
      · exact List.mem_flatMap.mpr ⟨_, known, by simp⟩
      · exact List.mem_flatMap.mpr ⟨_, known, List.mem_cons_of_mem _ carried⟩
    · cases lists
  | _ => cases lists

/-- Whether the description of a set shows that it holds characters of words only. -/
def allWord : CharSet → Bool
  | .digit => true
  | .word => true
  | set => (codes? set).any fun codes => codes.all wordRanges.contains

/-- Whether the description of a set shows that it holds no character of words. -/
def noWord : CharSet → Bool
  | .blank => true
  | set => (codes? set).any fun codes => codes.all fun code => !wordRanges.contains code

theorem all_word_contains {set : CharSet} (words : allWord set = true) {c : Char}
    (member : set.contains c = true) : isWord c = true := by
  unfold allWord at words
  split at words
  · exact word_of_digit member
  · exact member
  · obtain ⟨codes, lists, all⟩ := (Option.any_eq_true _ _).mp words
    exact List.all_eq_true.mp all _ (codes_contains lists member)

theorem no_word_contains {set : CharSet} (words : noWord set = true) {c : Char}
    (member : set.contains c = true) : isWord c = false := by
  unfold noWord at words
  split at words
  · exact not_word_of_blank member
  · obtain ⟨codes, lists, all⟩ := (Option.any_eq_true _ _).mp words
    simpa [isWord] using List.all_eq_true.mp all _ (codes_contains lists member)

end FormulaLexer.Letters
