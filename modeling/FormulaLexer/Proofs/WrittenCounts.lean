import FormulaLexer.Proofs.Numerals
import FormulaLexer.Proofs.TextCuts
import FormulaLexer.Tokenizer.Basic

/-! The counts of the categories in the form in which they are logged. A quoted name ends at the
first quote that no backslash escapes, and a number at the first character that is no digit. The
names and their counts can therefore be read off, and metrics whose counts are written alike have
the same counts. -/
namespace FormulaLexer.WrittenCounts
open Text TextCuts Numerals

variable {front back : Text}

/-! ## Numbers -/

/-- The digits of a number write that number. -/
theorem digits_write {base : Nat} (more : 1 < base) (few : base ≤ 16) (n : Nat) :
    (∀ c ∈ Nat.toDigits base n, c ∈ hexadecimalDigits) ∧
      written base (Nat.toDigits base n) = n := by
  have digit : ∀ d < 16, Nat.digitChar d ∈ hexadecimalDigits ∧ digitOf (Nat.digitChar d) = d := by
    decide
  induction n using Nat.strong_induction_on with
  | _ n ih =>
    rw [Nat.toDigits_eq_if more]
    split
    · next small =>
      obtain ⟨member, worth⟩ := digit n (by omega)
      exact ⟨by simpa using member, by simp [written, worth]⟩
    · next large =>
      obtain ⟨members, writes⟩ := ih (n / base) (Nat.div_lt_self (by omega) more)
      have below := Nat.mod_lt n (show base > 0 by omega)
      obtain ⟨member, worth⟩ := digit (n % base) (by omega)
      constructor
      · intro c listed
        rcases List.mem_append.mp listed with inside | last
        · exact members c inside
        · exact List.mem_singleton.mp last ▸ member
      · rw [written, List.reverse_append, List.reverse_singleton, List.singleton_append,
          List.map_cons, Nat.ofDigits_cons, ← written, writes, worth]
        exact Nat.mod_add_div n base

theorem to_digits_injective {base m n : Nat} (more : 1 < base) (few : base ≤ 16)
    (same : Nat.toDigits base m = Nat.toDigits base n) : m = n := by
  rw [← (digits_write more few m).2, same, (digits_write more few n).2]

theorem of_nat_injective {m n : Nat} (same : ofNat m = ofNat n) : m = n :=
  to_digits_injective (by decide) (by decide) same

/-- A number ends where its digits do. -/
theorem digits_end {base m n : Nat} (more : 1 < base) (few : base ≤ 16)
    (stops : ∀ c ∈ front.head?, c ∉ hexadecimalDigits)
    (stops' : ∀ c ∈ back.head?, c ∉ hexadecimalDigits)
    (same : Nat.toDigits base m ++ front = Nat.toDigits base n ++ back) : m = n ∧ front = back := by
  have inside : ∀ n, ∀ c ∈ Nat.toDigits base n, decide (c ∈ hexadecimalDigits) = true :=
    fun n c member => decide_eq_true ((digits_write more few n).1 c member)
  obtain ⟨digits, rest⟩ := run_unique (inside m) (inside n)
    (fun c first => decide_eq_false (stops c first))
    (fun c first => decide_eq_false (stops' c first)) same
  exact ⟨to_digits_injective more few digits, rest⟩

/-! ## Quoted names -/

/-- Characters that are escaped by a letter or a sign, with that sign. -/
def marks : List (Char × Char) :=
  [('"', '"'), ('\\', '\\'), ('\n', 'n'), ('\r', 'r'), ('\t', 't'), ('\x00', '0')]

/-- What stands for a character inside a quoted name: the character, a backslash and a sign, or its
code. -/
inductive Escape (c : Char) : Text → Prop where
  | itself (quote : c ≠ '"') (backslash : c ≠ '\\') : Escape c [c]
  | mark {sign : Char} (listed : (c, sign) ∈ marks) : Escape c ['\\', sign]
  | code : Escape c ('\\' :: 'u' :: '{' :: (Nat.toDigits 16 c.toNat ++ ['}']))

theorem escape_of_quoted (c : Char) : Escape c (quotedChar c) := by
  have marked : ∀ {c sign : Char}, (c, sign) ∈ marks → Escape c ['\\', sign] := .mark
  rw [quotedChar]
  split_ifs with quote backslash line start tab null visible
  · exact quote ▸ marked (by decide)
  · exact backslash ▸ marked (by decide)
  · exact line ▸ marked (by decide)
  · exact start ▸ marked (by decide)
  · exact tab ▸ marked (by decide)
  · exact null ▸ marked (by decide)
  · exact .itself quote backslash
  · exact .code

/-- What stands for a character ends without a look at what comes behind it. -/
theorem escape_ends {c d : Char} {text other : Text} (escape : Escape c text)
    (escape' : Escape d other) (same : text ++ front = other ++ back) : c = d ∧ front = back := by
  have signs : ∀ a ∈ marks, a.2 ≠ 'u' ∧ ∀ b ∈ marks, a.2 = b.2 → a.1 = b.1 := by decide
  cases escape with
  | itself quote backslash =>
    cases escape' with
    | itself => exact List.cons.inj same
    | mark => exact absurd (List.cons.inj same).1 backslash
    | code => exact absurd (List.cons.inj same).1 backslash
  | @mark sign listed =>
    cases escape' with
    | itself quote backslash => exact absurd (List.cons.inj same).1.symm backslash
    | @mark sign' listed' =>
      obtain ⟨sign, rest⟩ := List.cons.inj (List.cons.inj same).2
      exact ⟨(signs _ listed).2 _ listed' sign, rest⟩
    | code => exact absurd (List.cons.inj (List.cons.inj same).2).1 (signs _ listed).1
  | code =>
    cases escape' with
    | itself quote backslash => exact absurd (List.cons.inj same).1.symm backslash
    | @mark sign listed =>
      exact absurd (List.cons.inj (List.cons.inj same).2).1.symm (signs _ listed).1
    | code =>
      have digits : Nat.toDigits 16 c.toNat ++ '}' :: front =
          Nat.toDigits 16 d.toNat ++ '}' :: back := by
        simpa using same
      have stops : ∀ rest : Text, ∀ c ∈ ('}' :: rest).head?, c ∉ hexadecimalDigits := by
        rintro rest _ ⟨⟩
        decide
      obtain ⟨code, rest⟩ := digits_end (by decide) (by decide) (stops _) (stops _) digits
      exact ⟨Char.toNat_inj.mp code, (List.cons.inj rest).2⟩

/-- No character is written with a quote first. -/
theorem escape_not_quote {c : Char} {text : Text} (escape : Escape c text) :
    text ++ front ≠ '"' :: back := by
  intro same
  cases escape with
  | itself quote backslash => exact quote (List.cons.inj same).1
  | mark listed => exact absurd (List.cons.inj same).1 (by decide)
  | code => exact absurd (List.cons.inj same).1 (by decide)

/-- A quoted name ends at its second quote. -/
theorem quoted_end {name other : Text} (same : quoted name ++ front = quoted other ++ back) :
    name = other ∧ front = back := by
  have inside : name.flatMap quotedChar ++ '"' :: front =
      other.flatMap quotedChar ++ '"' :: back := by
    simpa [quoted] using same
  clear same
  induction name generalizing other with
  | nil =>
    cases other with
    | nil => exact ⟨rfl, (List.cons.inj inside).2⟩
    | cons d other =>
      rw [List.flatMap_cons, List.append_assoc] at inside
      exact absurd inside.symm (escape_not_quote (escape_of_quoted d))
  | cons c name ih =>
    rw [List.flatMap_cons, List.append_assoc] at inside
    cases other with
    | nil => exact absurd inside (escape_not_quote (escape_of_quoted c))
    | cons d other =>
      rw [List.flatMap_cons, List.append_assoc] at inside
      obtain ⟨rfl, rest⟩ := escape_ends (escape_of_quoted c) (escape_of_quoted d) inside
      obtain ⟨rfl, behind⟩ := ih rest
      exact ⟨rfl, behind⟩

/-! ## Counts -/

/-- The name and the count of a category as they are written. -/
def writeCount (entry : Text × Nat) : Text :=
  quoted entry.1 ++ ": ".toList ++ ofNat entry.2

/-- What is written behind an entry. -/
def writeBehind (entries : KeyMap Nat) : Text :=
  match entries with
  | [] => ['}']
  | entry :: entries =>
    ',' :: ' ' :: (join ", ".toList ((entry :: entries).map writeCount) ++ ['}'])

theorem join_counts (entry : Text × Nat) (entries : KeyMap Nat) :
    join ", ".toList ((entry :: entries).map writeCount) ++ ['}'] =
      writeCount entry ++ writeBehind entries := by
  cases entries with
  | nil => rfl
  | cons next entries => simp [join, writeBehind]

theorem behind_stops (entries : KeyMap Nat) :
    ∀ c ∈ (writeBehind entries).head?, c ∉ hexadecimalDigits := by
  cases entries with
  | nil =>
    rintro _ ⟨⟩
    decide
  | cons entry entries =>
    rintro _ ⟨⟩
    decide

theorem counts_unique {entries others : KeyMap Nat}
    (same : join ", ".toList (entries.map writeCount) ++ ['}'] =
      join ", ".toList (others.map writeCount) ++ ['}']) : entries = others := by
  have opens : ∀ entry others, ['}'] ≠ writeCount entry ++ writeBehind others :=
    fun entry others same => absurd (List.cons.inj same).1 (by decide)
  induction entries generalizing others with
  | nil =>
    cases others with
    | nil => rfl
    | cons other others =>
      rw [join_counts] at same
      exact absurd same (opens other others)
  | cons entry entries ih =>
    cases others with
    | nil =>
      rw [join_counts] at same
      exact absurd same.symm (opens entry entries)
    | cons other others =>
      rw [join_counts, join_counts, writeCount, writeCount] at same
      simp only [List.append_assoc] at same
      obtain ⟨name, rest⟩ := quoted_end same
      obtain ⟨count, behind⟩ := digits_end (by decide) (by decide) (behind_stops entries)
        (behind_stops others) (List.append_cancel_left rest)
      obtain rfl : entry = other := Prod.ext name count
      cases entries with
      | nil =>
        cases others with
        | nil => rfl
        | cons next others => exact absurd (List.cons.inj behind).1 (by decide)
      | cons next entries =>
        cases others with
        | nil => exact absurd (List.cons.inj behind).1 (by decide)
        | cons next' others => rw [ih (List.cons.inj (List.cons.inj behind).2).2]

/-- The counts of the categories can be read off what is written about them. -/
theorem write_counts_injective {metrics other : Metrics}
    (same : metrics.writeCounts = other.writeCounts) :
    metrics.categoryCounts = other.categoryCounts := by
  have inside : '{' :: (join ", ".toList (metrics.categoryCounts.map writeCount) ++ ['}']) =
      '{' :: (join ", ".toList (other.categoryCounts.map writeCount) ++ ['}']) := same
  exact counts_unique (List.cons.inj inside).2

example : Metrics.writeCounts ⟨13, 0, [("a \"b\"".toList, 1), ("numeric".toList, 12)], 0, 70⟩ =
    "\x7b\"a \\\"b\\\"\": 1, \"numeric\": 12\x7d".toList := by decide

end FormulaLexer.WrittenCounts
