import FormulaLexer.Pattern.Reader
import FormulaLexer.Proofs.ElementExtension

/-! Patterns in parentheses behind the start of the text. A scanner puts its pattern there before
the pattern is read. Where the pattern can be read on its own, the parentheses do hold it together,
so that the whole begins with the start of the text; a pattern with a parenthesis too many closes
them early. The whole still begins with the start of the text then, unless a bar behind the early
parenthesis parts it. -/
namespace FormulaLexer.PatternNesting
open Pattern ReaderExtension ElementExtension

/-- The outermost level behind the start of the text. -/
def anchorLevel : Level :=
  (Level.ofFlags (Flags.initial true) none).add ⟨.anchor .textStart, 0⟩

/-- The same groups inside of the one behind the start of the text. -/
def nested (b : Builder) : Builder :=
  { b with outer := b.outer ++ [anchorLevel] }

/-- Whatever is taken in on its own is taken in alike inside of the parentheses. -/
theorem push_nested {b after : Builder} {element : Element} (pushed : b.push element = .ok after) :
    (nested b).push element = .ok (nested after) := by
  cases element with
  | piece pattern depth =>
    obtain ⟨piece, checked, same⟩ := bind_ok pushed
    cases same
    simp only [Builder.push, checked, bind, Except.bind]
    rfl
  | bar =>
    cases pushed
    rfl
  | opening flags kind =>
    cases kind with
    | plain =>
      cases pushed
      rfl
    | numbered =>
      cases pushed
      rfl
    | named name =>
      simp only [Builder.push] at pushed
      split at pushed
      · cases pushed
      · next fresh =>
        have unused : ¬ (nested b).names.contains name = true := fresh
        cases pushed
        simp only [Builder.push]
        rw [if_neg unused]
        rfl
  | closing =>
    obtain ⟨current, outer, groups, names⟩ := b
    cases outer with
    | nil => cases pushed
    | cons level outer =>
      obtain ⟨piece, checked, same⟩ := bind_ok pushed
      cases same
      simp only [Builder.push, nested, List.cons_append, checked, bind, Except.bind]
      rfl
  | quantifier least most greedy =>
    obtain ⟨⟨flags, number, branches, pieces⟩, outer, groups, names⟩ := b
    cases pieces with
    | nil => cases pushed
    | cons latest pieces =>
      cases latest with
      | none => cases pushed
      | some piece =>
        obtain ⟨piece, checked, same⟩ := bind_ok pushed
        cases same
        simp only [Builder.push, nested, checked, bind, Except.bind]
        rfl
  | settings flags =>
    cases pushed
    rfl
  | layout =>
    cases pushed
    rfl

/-- Nothing is left to read where an element reaches to the end. -/
theorem elements_owed {text : Text} {owed : Nat} (b : Builder) (short : text.length ≤ owed) :
    readElements text owed b = .ok b := by
  induction text generalizing owed with
  | nil => rfl
  | cons c text ih =>
    cases owed with
    | zero => cases short
    | succ owed => exact ih (Nat.le_of_succ_le_succ short)

/-- Inside of the parentheses a pattern is read as on its own. Either the closing parenthesis is
left to read behind it, or a comment at the end of the pattern has taken it in. -/
theorem elements_nested {text : Text} {owed : Nat} {b after : Builder}
    (read : readElements text owed b = .ok after) :
    readElements (text ++ [')']) owed (nested b) = readElements [')'] 0 (nested after) ∨
      readElements (text ++ [')']) owed (nested b) = .ok (nested after) := by
  induction text generalizing owed b with
  | nil =>
    cases read
    cases owed with
    | zero => exact .inl rfl
    | succ owed => exact .inr rfl
  | cons c text ih =>
    cases owed with
    | succ owed => exact ih read
    | zero =>
      obtain ⟨⟨element, left⟩, first, more⟩ := bind_ok read
      obtain ⟨middle, pushed, rest⟩ := bind_ok more
      obtain ⟨leftover, extended, further⟩ := extends_element _ _ (.snoc text) first
      have step : readElements (c :: text ++ [')']) 0 (nested b) =
          readElements (text ++ [')']) ((text ++ [')']).length - leftover.length) (nested middle) := by
        rw [List.cons_append, readElements]
        simp only [show (nested b).current = b.current from rfl, extended, push_nested pushed, bind,
          Except.bind]
      rw [step]
      rcases owed_longer text further with ⟨rfl, rfl⟩ | same
      · rw [elements_owed _ (by simp)] at rest
        cases rest
        exact .inr (elements_owed _ (by simp))
      · rw [same]
        exact ih rest

/-- The builder before the first element. -/
def beginning : Builder := ⟨Level.ofFlags (Flags.initial true) none, [], 0, []⟩

/-- The parentheses are opened behind the start of the text. -/
theorem elements_anchored (text : Text) :
    readElements (anchoredText text) 0 beginning =
      readElements (text ++ [')']) 0 (nested beginning) := by
  have escape : readElement (Flags.initial true) '\\' ('A' :: '(' :: '?' :: ':' :: (text ++ [')'])) =
      .ok (.piece (.anchor .textStart) 0, '(' :: '?' :: ':' :: (text ++ [')'])) := rfl
  have opening : readElement (Flags.initial true) '(' ('?' :: ':' :: (text ++ [')'])) =
      .ok (.opening (Flags.initial true) .plain, text ++ [')']) := rfl
  change readElements ('\\' :: 'A' :: '(' :: '?' :: ':' :: (text ++ [')'])) 0 beginning = _
  have one : ('A' :: '(' :: '?' :: ':' :: (text ++ [')'])).length
      - ('(' :: '?' :: ':' :: (text ++ [')'])).length = 1 := by simp
  have two : ('?' :: ':' :: (text ++ [')'])).length - (text ++ [')']).length = 2 := by simp
  rw [readElements]
  simp only [show beginning.current.flags = Flags.initial true from rfl, escape, bind, Except.bind, one]
  change readElements ('(' :: '?' :: ':' :: (text ++ [')'])) 0
    { beginning with current := anchorLevel } = _
  rw [readElements]
  simp only [show anchorLevel.flags = Flags.initial true from rfl, opening, bind, Except.bind, two]
  rfl

/-- What has been read when a pattern is accepted: no group is open, and the outermost level is the
pattern. -/
theorem read_builder {text : Text} {expression : Pattern}
    (read : Pattern.read true text = .ok expression) :
    ∃ b, readElements text 0 beginning = .ok b ∧ b.outer = [] ∧
      expression = b.current.close.pattern := by
  obtain ⟨b, elements, more⟩ := bind_ok read
  refine ⟨b, elements, ?_⟩
  cases outer : b.outer with
  | cons level levels => simp [outer, throw, throwThe, MonadExceptOf.throw, bind, Except.bind] at more
  | nil =>
    simp only [outer, List.isEmpty_nil, Bool.not_true] at more
    obtain ⟨piece, checked, more⟩ := bind_ok more
    cases more
    rw [Piece.checked] at checked
    split at checked
    · cases checked
      exact ⟨rfl, rfl⟩
    · cases checked

/-! ## The outermost level -/

/-- The start of the text as a piece. -/
def textStart : Option Piece := some ⟨.anchor .textStart, 0⟩

/-- Whether a level that no bar has parted begins with the start of the text. -/
def Begins (level : Level) : Prop :=
  level.branches = [] → ∃ front, level.pieces = front ++ [textStart]

/-- Whether moreover some piece stands behind that start, so that a quantifier cannot reach it. -/
def GoesOn (level : Level) : Prop :=
  level.branches = [] → ∃ last front, level.pieces = last :: (front ++ [textStart])

/-- What keeps a pattern at the start of the text while it is read: the outermost level begins there, and
goes on if it is the one being read. -/
inductive Kept (b : Builder) : Prop where
  | inside (inner : List Level) (level : Level) (stands : b.outer = inner ++ [level])
      (begins : Begins level)
  | outside (stands : b.outer = []) (goesOn : GoesOn b.current)

/-- A change of the level being read. -/
theorem Kept.changed {b : Builder} (kept : Kept b) {current : Level}
    (goesOn : GoesOn b.current → GoesOn current) : Kept { b with current } := by
  cases kept with
  | inside inner level stands begins => exact .inside inner level stands begins
  | outside stands behind => exact .outside stands (goesOn behind)

theorem Kept.opened {b : Builder} (kept : Kept b) (level : Level) (groups : Nat)
    (names : List Text) : Kept ⟨level, b.current :: b.outer, groups, names⟩ := by
  cases kept with
  | inside inner outermost stands begins =>
    exact .inside (b.current :: inner) outermost (by rw [stands, List.cons_append]) begins
  | outside stands goesOn =>
    refine .inside [] b.current (by rw [stands, List.nil_append]) fun single => ?_
    obtain ⟨last, front, pieces⟩ := goesOn single
    exact ⟨last :: front, pieces⟩

theorem Kept.closed {current level : Level} {outer : List Level} {groups : Nat}
    {names : List Text} (kept : Kept ⟨current, level :: outer, groups, names⟩) (piece : Piece) :
    Kept ⟨level.add piece, outer, groups, names⟩ := by
  cases kept with
  | outside stands => cases stands
  | inside inner outermost stands begins =>
    cases inner with
    | cons next inner =>
      obtain ⟨-, rest⟩ := List.cons.inj stands
      exact .inside inner outermost rest begins
    | nil =>
      obtain ⟨rfl, none⟩ := List.cons.inj stands
      refine .outside none fun single => ?_
      obtain ⟨front, pieces⟩ := begins single
      exact ⟨some piece, front, congrArg (some piece :: ·) pieces⟩

/-- A piece, or a gap, behind those of a level. -/
theorem goes_on_behind {level : Level} (goesOn : GoesOn level) (flags : Flags)
    (piece : Option Piece) :
    GoesOn ⟨flags, level.number, level.branches, piece :: level.pieces⟩ := by
  intro single
  obtain ⟨last, front, pieces⟩ := goesOn single
  exact ⟨piece, last :: front, congrArg (piece :: ·) pieces⟩

/-- Every element keeps a pattern at the start of the text. -/
theorem push_kept {b after : Builder} {element : Element} (kept : Kept b)
    (pushed : b.push element = .ok after) : Kept after := by
  cases element with
  | piece pattern depth =>
    obtain ⟨piece, -, same⟩ := bind_ok pushed
    cases same
    exact kept.changed fun goesOn => goes_on_behind goesOn b.current.flags (some piece)
  | bar =>
    cases pushed
    refine kept.changed fun _ single => ?_
    cases single
  | opening flags kind =>
    cases kind with
    | plain =>
      cases pushed
      exact kept.opened _ _ _
    | numbered =>
      cases pushed
      exact kept.opened _ _ _
    | named name =>
      simp only [Builder.push] at pushed
      split at pushed
      · cases pushed
      · cases pushed
        exact kept.opened _ _ _
  | closing =>
    obtain ⟨current, outer, groups, names⟩ := b
    cases outer with
    | nil => cases pushed
    | cons level outer =>
      obtain ⟨piece, -, same⟩ := bind_ok pushed
      cases same
      exact kept.closed piece
  | quantifier least most greedy =>
    obtain ⟨⟨flags, number, branches, pieces⟩, outer, groups, names⟩ := b
    cases pieces with
    | nil => cases pushed
    | cons latest pieces =>
      cases latest with
      | none => cases pushed
      | some piece =>
        obtain ⟨piece, -, same⟩ := bind_ok pushed
        cases same
        refine kept.changed fun goesOn single => ?_
        obtain ⟨last, front, stands⟩ := goesOn single
        obtain ⟨-, rest⟩ := List.cons.inj stands
        exact ⟨some piece, front, congrArg (some piece :: ·) rest⟩
  | settings flags =>
    cases pushed
    exact kept.changed fun goesOn => goes_on_behind goesOn flags none
  | layout =>
    cases pushed
    exact kept

theorem elements_kept {text : Text} {owed : Nat} {b after : Builder} (kept : Kept b)
    (read : readElements text owed b = .ok after) : Kept after := by
  induction text generalizing owed b with
  | nil =>
    cases read
    exact kept
  | cons c text ih =>
    cases owed with
    | succ owed => exact ih kept read
    | zero =>
      obtain ⟨⟨element, left⟩, -, more⟩ := bind_ok read
      obtain ⟨middle, pushed, rest⟩ := bind_ok more
      exact ih (push_kept kept pushed) rest

/-- Whether a bar stands outside of the parentheses, which the pattern has to close for that. -/
def parted (text : Text) : Bool :=
  match readElements (anchoredText text) 0 beginning with
  | .ok b => b.outer.isEmpty && !b.current.branches.isEmpty
  | .error _ => false

/-- A level with one branch that begins with the start of the text. -/
theorem close_begins {level : Level} (front : List (Option Piece)) (single : level.branches = [])
    (pieces : level.pieces = front ++ [textStart]) : level.close.pattern.route.isAnchored = true := by
  have inside : level.close.pattern = anyOf [followedBy (.anchor .textStart)
      (inSequence ((front.filterMap id).reverse.map Piece.pattern))] := by
    simp [Level.close, Level.allBranches, Level.branch, single, pieces, textStart, inSequence]
  rw [inside]
  generalize inSequence ((front.filterMap id).reverse.map Piece.pattern) = rest
  cases rest with
  | empty => rfl
  | _ => rfl

/-- A pattern that no bar parts is tried only at the start of a text. -/
theorem whole_anchored {text : Text} {expression : Pattern} (whole : parted text = false)
    (anchored : Pattern.readAnchored text = .ok expression) : expression.route.isAnchored = true := by
  obtain ⟨b, elements, closed, rfl⟩ := read_builder anchored
  rw [parted, elements] at whole
  have single : b.current.branches = [] := by simpa [closed] using whole
  rw [elements_anchored] at elements
  have begins : Kept (nested beginning) := .inside [] anchorLevel rfl fun _ => ⟨[], rfl⟩
  cases elements_kept begins elements with
  | inside inner level stands =>
    rw [closed] at stands
    cases inner <;> cases stands
  | outside _ goesOn =>
    obtain ⟨last, front, pieces⟩ := goesOn single
    exact close_begins (last :: front) single pieces

/-- A pattern that can be read on its own does not close the parentheses, so that no bar parts it. -/
theorem whole_of_alone {text : Text} {alone : Pattern} (reads : Pattern.read true text = .ok alone) :
    parted text = false := by
  obtain ⟨after, inside, closed, -⟩ := read_builder reads
  have stands : (nested after).outer = [anchorLevel] := by simp [nested, closed]
  rw [parted, elements_anchored]
  rcases elements_nested inside with left | swallowed
  · rw [left, readElements]
    change (match (nested after).push .closing >>= fun b => readElements [] 0 b with
      | .ok b => b.outer.isEmpty && !b.current.branches.isEmpty
      | .error _ => false) = false
    simp only [Builder.push, stands]
    cases (nested after).current.group.checked with
    | error e => rfl
    | ok piece => rfl
  · -- the parenthesis was taken in by a comment, so that the group is left open
    rw [swallowed]
    simp [stands]

/-- A pattern that can be read on its own is tried only at the start of a text. -/
theorem route_anchored {text : Text} {alone expression : Pattern}
    (reads : Pattern.read true text = .ok alone)
    (anchored : Pattern.readAnchored text = .ok expression) : expression.route.isAnchored = true :=
  whole_anchored (whole_of_alone reads) anchored

end FormulaLexer.PatternNesting
