import Mathlib.Data.List.DropRight
import FormulaLexer.Log.Memory

/-! What a memory log holds behind its filter. An event that passes the filter is put last, and if the
log was full the first one goes; an event that does not pass changes nothing. After any calls the log
therefore holds the last of the events that passed since it was cleared, as many as there is room for. -/
namespace FormulaLexer.MemoryLog
open Log

/-- A call of a service with a memory log: an event is logged, or the log is cleared. -/
inductive Call where
  | log (event : Event)
  | clear

/-- The event that a call logs. -/
def Call.event? : Call → Option Event
  | .log event => some event
  | .clear => none

/-- The service behind a call. -/
def Call.perform (service : Service) : Call → Service
  | .log event => service.log event
  | .clear => service.clear

/-- The service behind calls in order. -/
def performAll (service : Service) (calls : List Call) : Service := calls.foldl Call.perform service

/-- The events logged by the calls behind the last one that clears the log. -/
def sinceClear (calls : List Call) : List Event :=
  (calls.rtakeWhile fun call => call.event?.isSome).filterMap Call.event?

/-- Those of the events logged since the log was cleared that are no less severe than a level. -/
def passed (least : Level) (calls : List Call) : List Event :=
  (sinceClear calls).filter fun event => event.level.rank ≤ least.rank

variable {least : Level} {service : Service} {memory : Memory} {calls : List Call}

/-! ## Severities -/

/-- Errors are the most severe events, in front of warnings, information and debugging. -/
theorem severities_descend :
    [Level.error, .warning, .info, .debug].Pairwise fun level other => level.rank < other.rank := by
  decide

/-- No less severe than a level are that level and those in front of it. -/
theorem rank_le_iff {level : Level} {front back : List Level}
    (order : [.error, .warning, .info, .debug] = front ++ least :: back) :
    level.rank ≤ least.rank ↔ level ∈ front ++ [least] := by
  have descend := severities_descend
  rw [order, List.pairwise_append, List.pairwise_cons] at descend
  obtain ⟨-, ⟨behind, -⟩, ahead⟩ := descend
  constructor
  · intro severe
    have listed : level ∈ front ++ least :: back := by
      rw [← order]
      cases level <;> decide
    rcases List.mem_append.mp listed with member | member
    · exact List.mem_append_left _ member
    · rcases List.mem_cons.mp member with rfl | member
      · simp
      · have later := behind level member
        omega
  · intro member
    rcases List.mem_append.mp member with member | member
    · exact (ahead level member least (by simp)).le
    · rw [List.mem_singleton.mp member]

theorem mem_passed_iff {event : Event} {front back : List Level}
    (order : [.error, .warning, .info, .debug] = front ++ least :: back) :
    event ∈ passed least calls ↔ event ∈ sinceClear calls ∧ event.level ∈ front ++ [least] := by
  rw [passed, List.mem_filter, decide_eq_true_eq, rank_le_iff order]

/-! ## Room for events -/

/-- What falls out of a list at its front may as well fall out before more is put behind it. -/
theorem rtake_append_rtake {α : Type} (n : Nat) (front back : List α) :
    (front.rtake n ++ back).rtake n = (front ++ back).rtake n := by
  rw [List.rtake_eq_reverse_take_reverse, List.rtake_eq_reverse_take_reverse,
    List.rtake_eq_reverse_take_reverse, List.reverse_append, List.reverse_append,
    List.reverse_reverse, List.take_append, List.take_append, List.take_take,
    Nat.min_eq_left (Nat.sub_le _ _)]

theorem rtake_of_length_le {α : Type} {n : Nat} {list : List α} (room : list.length ≤ n) :
    list.rtake n = list := by
  rw [List.rtake, Nat.sub_eq_zero_of_le room, List.drop_zero]

theorem length_rtake {α : Type} (n : Nat) (list : List α) :
    (list.rtake n).length = min list.length n := by
  rw [List.rtake, List.length_drop]
  omega

/-- One more event is put last; in a full log the first one goes. -/
theorem record_to_list (room : memory.toList.length ≤ memoryCapacity) (event : Event) :
    (memory.record event).toList = (memory.toList ++ [event]).rtake memoryCapacity := by
  have length : memory.toList.length = memory.events.size := Array.length_toList
  rw [Memory.record]
  split
  · next free =>
    have fits : (memory.toList ++ [event]).length ≤ memoryCapacity := by
      rw [List.length_append, List.length_singleton, length]
      exact free
    rw [rtake_of_length_le fits, Memory.toList, Array.toList_push]
    rfl
  · next full =>
    have excess : (memory.toList ++ [event]).length - memoryCapacity = 1 := by
      rw [List.length_append, List.length_singleton]
      omega
    have filled : 1 ≤ memory.toList.length := by
      have positive : 0 < memoryCapacity := by decide
      omega
    have later : (memory.events.extract 1 memory.events.size).toList = memory.toList.drop 1 := by
      rw [Array.toList_extract, List.extract_eq_take_drop]
      exact List.take_of_length_le (by rw [List.length_drop, Array.length_toList])
    rw [List.rtake, excess, List.drop_append_of_le_length filled, ← later, Memory.toList,
      Array.toList_push]

/-- Events recorded one by one push the first ones out as if they came at once. -/
theorem record_all_to_list (room : memory.toList.length ≤ memoryCapacity) (events : List Event) :
    (events.foldl Memory.record memory).toList =
      (memory.toList ++ events).rtake memoryCapacity := by
  induction events generalizing memory with
  | nil => rw [List.append_nil, List.foldl_nil, rtake_of_length_le room]
  | cons event events ih =>
    have recorded := record_to_list room event
    have kept : (memory.record event).toList.length ≤ memoryCapacity := by
      rw [recorded, length_rtake]
      exact Nat.min_le_right _ _
    rw [List.foldl_cons, ih kept, recorded, rtake_append_rtake, List.append_assoc,
      List.singleton_append]

/-! ## Calls -/

theorem since_clear_log (calls : List Call) (event : Event) :
    sinceClear (calls ++ [.log event]) = sinceClear calls ++ [event] := by
  rw [sinceClear, List.rtakeWhile_concat_pos _ _ _ rfl, List.filterMap_append]
  rfl

theorem since_clear_clear (calls : List Call) : sinceClear (calls ++ [.clear]) = [] := by
  rw [sinceClear, List.rtakeWhile_concat_neg _ _ _ (by simp [Call.event?])]
  rfl

/-- What a service holds after some calls. -/
structure Holds (least : Level) (calls : List Call) (service : Service) : Prop where
  filters : service.least = least
  events : service.memory.toList = (passed least calls).rtake memoryCapacity

theorem Holds.room (holds : Holds least calls service) :
    service.memory.toList.length ≤ memoryCapacity := by
  rw [holds.events, length_rtake]
  exact Nat.min_le_right _ _

theorem holds_start (least : Level) : Holds least [] (.ofLevel least) := by
  refine ⟨rfl, ?_⟩
  rw [passed, sinceClear, List.rtakeWhile_nil, List.filterMap_nil, List.filter_nil, List.rtake_nil]
  rfl

theorem Holds.clear (holds : Holds least calls service) :
    Holds least (calls ++ [.clear]) service.clear := by
  refine ⟨holds.filters, ?_⟩
  rw [passed, since_clear_clear, List.filter_nil, List.rtake_nil]
  rfl

theorem Holds.log (holds : Holds least calls service) (event : Event) :
    Holds least (calls ++ [.log event]) (service.log event) := by
  have passes : service.shouldLog event.level = decide (event.level.rank ≤ least.rank) := by
    rw [Service.shouldLog, Level.passes, holds.filters]
  rw [Service.log, passes]
  by_cases severe : event.level.rank ≤ least.rank
  · have more : passed least (calls ++ [.log event]) = passed least calls ++ [event] := by
      simp [passed, since_clear_log, severe]
    rw [if_pos (decide_eq_true severe)]
    refine ⟨holds.filters, ?_⟩
    rw [more, ← rtake_append_rtake, ← holds.events]
    exact record_to_list holds.room event
  · have same : passed least (calls ++ [.log event]) = passed least calls := by
      simp [passed, since_clear_log, severe]
    rw [if_neg (by simpa using severe)]
    exact ⟨holds.filters, by rw [same, holds.events]⟩

/-- Every call keeps what a service holds, and so do all calls in order. -/
theorem holds_after (least : Level) (calls : List Call) :
    Holds least calls (performAll (.ofLevel least) calls) := by
  induction calls using List.reverseRecOn with
  | nil => exact holds_start least
  | append_singleton calls call ih =>
    rw [performAll, List.foldl_concat]
    cases call with
    | log event => exact ih.log event
    | clear => exact ih.clear

/-- Whatever is logged and whenever the log is cleared, a service holds, in order, the last events that
passed its filter since then, no more of them than there is room for, and what it answers about errors
and successes is about these events. -/
theorem log_holds_last (least : Level) (calls : List Call) :
    let held := (passed least calls).rtake memoryCapacity
    let memory := (performAll (.ofLevel least) calls).memory
    memory.toList = held ∧
      memory.size = min (passed least calls).length memoryCapacity ∧
      memory.size ≤ memoryCapacity ∧
      memory.errors = held.filter (fun event => event.level = .error) ∧
      (∀ code, memory.hasError code = true ↔
        ∃ event ∈ held, event.level = .error ∧ event.code = code) ∧
      ∀ code, memory.hasSuccess code = true ↔
        ∃ event ∈ held, event.level = .info ∧ event.code = code := by
  intro held memory
  have events : memory.toList = held := (holds_after least calls).events
  have size : memory.size = min (passed least calls).length memoryCapacity := by
    rw [← length_rtake, ← (holds_after least calls).events]
    exact Array.length_toList.symm
  refine ⟨events, size, ?_, ?_, fun code => ?_, fun code => ?_⟩
  · rw [size]
    exact Nat.min_le_right _ _
  · rw [Memory.errors, events]
    rfl
  · rw [Memory.hasError, events]
    simp [Event.isError]
  · rw [Memory.hasSuccess, events]
    simp [Event.isInfo]

end FormulaLexer.MemoryLog
