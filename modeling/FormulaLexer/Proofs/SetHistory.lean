import FormulaLexer.Scanner.Set

/-! The history of a scanner set. A set changes by registrations, which add entries behind all others,
and by restrictions, which drop entries. Whatever the order of these changes is, an entry is in the set
in the end if its key is listed by every restriction that was made once the entry was there, and the
entries keep the order in which they arrived. -/
namespace FormulaLexer.SetHistory

/-- A change of a scanner set. -/
inductive Change where
  | register (key : Text) (scanner : Scanner)
  | restrict (keys : List Text)

/-- The set after one change. -/
def Change.apply (set : ScannerSet) : Change → ScannerSet
  | .register key scanner => set.register key scanner
  | .restrict keys => set.restrict keys

/-- The set after several changes, one after the other. -/
def changed (set : ScannerSet) (changes : List Change) : ScannerSet :=
  changes.foldl Change.apply set

/-- The lists of keys to which changes restrict a set. -/
def restrictions : List Change → List (List Text)
  | [] => []
  | .register _ _ :: changes => restrictions changes
  | .restrict keys :: changes => keys :: restrictions changes

/-- An entry with the changes that were made once it was in the set. -/
structure Arrival where
  entry : ScannerEntry
  later : List Change

/-- Whether every later restriction lists the key of the entry. -/
def Arrival.Survives (arrival : Arrival) : Prop :=
  ∀ keys ∈ restrictions arrival.later, arrival.entry.key ∈ keys

instance : DecidablePred Arrival.Survives := fun arrival =>
  inferInstanceAs (Decidable (∀ keys ∈ restrictions arrival.later, arrival.entry.key ∈ keys))

/-- The entries that changes register, in order. -/
def registered : List Change → List Arrival
  | [] => []
  | .register key scanner :: later => ⟨⟨key, scanner⟩, later⟩ :: registered later
  | .restrict _ :: later => registered later

/-- All entries that have ever been in a set: those from which it starts, and behind them those that are
registered, in order. -/
def arrivals (set : ScannerSet) (changes : List Change) : List Arrival :=
  (set.entries.map fun entry => ⟨entry, changes⟩) ++ registered changes

/-- The entries of the arrivals that survive, in order. -/
def survivors (arriving : List Arrival) : List ScannerEntry :=
  (arriving.filter fun arrival => arrival.Survives).map Arrival.entry

/-! ## One change -/

theorem survivors_append (front back : List Arrival) :
    survivors (front ++ back) = survivors front ++ survivors back := by
  simp [survivors]

/-- Of entries that arrive together, those survive whose keys all later restrictions list. -/
theorem survivors_together (entries : List ScannerEntry) (later : List Change) :
    survivors (entries.map fun entry => ⟨entry, later⟩) =
      entries.filter fun entry => (Arrival.mk entry later).Survives := by
  simp [survivors, List.filter_map, Function.comp_def]

theorem survives_register_iff (entry : ScannerEntry) (key : Text) (scanner : Scanner)
    (later : List Change) :
    (Arrival.mk entry (.register key scanner :: later)).Survives ↔
      (Arrival.mk entry later).Survives := Iff.rfl

theorem survives_restrict_iff (entry : ScannerEntry) (keys : List Text) (later : List Change) :
    (Arrival.mk entry (.restrict keys :: later)).Survives ↔
      entry.key ∈ keys ∧ (Arrival.mk entry later).Survives := by
  simp [Arrival.Survives, restrictions]

/-- A change that is made now instead of being kept for later does not change what survives. -/
theorem survivors_apply (set : ScannerSet) (change : Change) (later : List Change) :
    survivors (arrivals (change.apply set) later) = survivors (arrivals set (change :: later)) := by
  cases change with
  | register key scanner =>
    simp only [arrivals, Change.apply, ScannerSet.register, registered, List.map_append,
      List.map_cons, List.map_nil, List.append_assoc, List.singleton_append, survivors_append,
      survivors_together, survives_register_iff]
  | restrict keys =>
    simp only [arrivals, Change.apply, ScannerSet.restrict, registered, survivors_append,
      survivors_together, survives_restrict_iff, List.filter_filter]
    congr 1
    refine List.filter_congr fun entry _ => ?_
    simp [Bool.and_comm]

/-! ## The whole history -/

/-- A set holds the arrivals that survive. -/
theorem changed_entries (set : ScannerSet) (changes : List Change) :
    (changed set changes).entries = survivors (arrivals set changes) := by
  induction changes generalizing set with
  | nil =>
    rw [arrivals, registered, List.append_nil, survivors_together]
    exact (List.filter_eq_self.mpr fun entry _ => by simp [Arrival.Survives, restrictions]).symm
  | cons change later ih =>
    rw [← survivors_apply, ← ih]
    rfl

/-- The earliest arrival with a key that survives. -/
structure Earliest (arriving : List Arrival) (key : Text) (arrival : Arrival) : Prop where
  keyed : arrival.entry.key = key
  survives : arrival.Survives
  first : ∃ front back, arriving = front ++ arrival :: back ∧
    ∀ earlier ∈ front, earlier.entry.key = key → ¬ earlier.Survives

/-- Looking up a key finds the first arrival with that key that survives. -/
theorem changed_find (set : ScannerSet) (changes : List Change) (key : Text) :
    (changed set changes).find? key =
      ((arrivals set changes).find? fun arrival =>
        arrival.entry.key = key ∧ arrival.Survives).map fun arrival => arrival.entry.scanner := by
  rw [ScannerSet.find?, changed_entries, survivors, List.find?_map, List.find?_filter, Option.map_map]
  congr 2
  funext arrival
  simp [and_comm]

theorem changed_find_iff (set : ScannerSet) (changes : List Change) (key : Text)
    (scanner : Scanner) :
    (changed set changes).find? key = some scanner ↔
      ∃ arrival, Earliest (arrivals set changes) key arrival ∧ arrival.entry.scanner = scanner := by
  rw [changed_find, Option.map_eq_some_iff]
  constructor
  · rintro ⟨arrival, found, same⟩
    obtain ⟨matched, front, back, split, others⟩ := List.find?_eq_some_iff_append.mp found
    obtain ⟨keyed, survives⟩ := of_decide_eq_true matched
    refine ⟨arrival, ⟨keyed, survives, front, back, split, fun earlier member same lasts => ?_⟩, same⟩
    have passed := others earlier member
    simp [same, lasts] at passed
  · rintro ⟨arrival, ⟨keyed, survives, front, back, split, others⟩, same⟩
    refine ⟨arrival, List.find?_eq_some_iff_append.mpr
      ⟨decide_eq_true ⟨keyed, survives⟩, front, back, split, fun earlier member => ?_⟩, same⟩
    rw [Bool.not_eq_true', decide_eq_false_iff_not]
    exact fun both => others earlier member both.1 both.2

theorem changed_contains_iff (set : ScannerSet) (changes : List Change) (key : Text) :
    (changed set changes).contains key = true ↔
      ∃ arrival ∈ arrivals set changes, arrival.entry.key = key ∧ arrival.Survives := by
  rw [ScannerSet.contains, changed_find, Option.isSome_map, List.find?_isSome]
  simp

/-! ## Restrictions alone -/

/-- A second restriction keeps what both lists of keys name, whichever of them comes first. -/
theorem restrict_restrict (set : ScannerSet) (first second : List Text) :
    (set.restrict first).restrict second =
      ⟨set.entries.filter fun entry => entry.key ∈ first ∧ entry.key ∈ second⟩ := by
  rw [ScannerSet.restrict, ScannerSet.restrict, List.filter_filter]
  congr 1
  refine List.filter_congr fun entry _ => ?_
  simp [Bool.and_comm]

theorem restrict_common (set : ScannerSet) (first second : List Text) :
    set.restrict (first.filter fun key => key ∈ second) =
      ⟨set.entries.filter fun entry => entry.key ∈ first ∧ entry.key ∈ second⟩ := by
  rw [ScannerSet.restrict]
  congr 1
  refine List.filter_congr fun entry _ => ?_
  simp

theorem restrictions_only (lists : List (List Text)) :
    restrictions (lists.map .restrict) = lists ∧ registered (lists.map .restrict) = [] := by
  induction lists with
  | nil => exact ⟨rfl, rfl⟩
  | cons keys lists ih => exact ⟨congrArg (keys :: ·) ih.1, ih.2⟩

/-- Restrictions of the built-in scanners leave those that all of them list, in their canonical
order. -/
theorem built_in_restricted (keepCase : Bool) (zone : LocalZone) (lists : List (List Text)) :
    (changed (.builtIn keepCase zone) (lists.map .restrict)).entries =
      (BuiltIn.all.filter fun builtIn => ∀ keys ∈ lists, builtIn.key ∈ keys).map fun builtIn =>
        ⟨builtIn.key, builtIn.scanner keepCase zone⟩ := by
  obtain ⟨only, none⟩ := restrictions_only lists
  rw [changed_entries, arrivals, none, List.append_nil, survivors_together, ScannerSet.builtIn,
    List.filter_map]
  congr 1
  refine List.filter_congr fun builtIn _ => ?_
  simp only [Function.comp_apply, Arrival.Survives, only]

/-- After any history a set holds, in the order of their arrival, the entries whose keys are listed by all
restrictions that were made once they were there; a look-up finds the earliest of them with its key,
and a key is contained if there is one. Two restrictions may be exchanged and put together, and
restrictions of the built-in scanners keep their canonical order. -/
theorem history_settles (set : ScannerSet) (changes : List Change) :
    (changed set changes).entries = survivors (arrivals set changes) ∧
      (∀ key,
        (∀ scanner, (changed set changes).find? key = some scanner ↔
          ∃ arrival, Earliest (arrivals set changes) key arrival ∧
            arrival.entry.scanner = scanner) ∧
        ((changed set changes).contains key = true ↔
          ∃ arrival ∈ arrivals set changes, arrival.entry.key = key ∧ arrival.Survives)) ∧
      (∀ first second,
        (set.restrict first).restrict second = (set.restrict second).restrict first ∧
          (set.restrict first).restrict second =
            set.restrict (first.filter fun key => key ∈ second)) ∧
      ∀ (keepCase : Bool) (zone : LocalZone) (lists : List (List Text)),
        (changed (.builtIn keepCase zone) (lists.map .restrict)).entries =
          (BuiltIn.all.filter fun builtIn => ∀ keys ∈ lists, builtIn.key ∈ keys).map fun builtIn =>
            ⟨builtIn.key, builtIn.scanner keepCase zone⟩ := by
  refine ⟨changed_entries set changes, fun key => ?_, fun first second => ⟨?_, ?_⟩,
    built_in_restricted⟩
  · exact ⟨changed_find_iff set changes key, changed_contains_iff set changes key⟩
  · rw [restrict_restrict, restrict_restrict]
    simp [and_comm]
  · rw [restrict_restrict, restrict_common]

end FormulaLexer.SetHistory
