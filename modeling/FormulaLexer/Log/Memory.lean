import FormulaLexer.Log.Event

/-!
A log that is kept in memory, and a service that lets only events of sufficient severity reach
it. The log holds a bounded number of events; when it is full, the oldest one makes room.
-/

namespace FormulaLexer.Log

/-- The most events that a memory log holds. -/
def memoryCapacity : Nat := 10000

/-- The events held, oldest first. -/
structure Memory where
  events : Array Event

namespace Memory

/-- A log that holds nothing. -/
def empty : Memory := ⟨#[]⟩

/-- Adds an event; a full log drops its oldest event first. -/
def record (memory : Memory) (event : Event) : Memory :=
  if memory.events.size < memoryCapacity then ⟨memory.events.push event⟩
  else ⟨(memory.events.extract 1 memory.events.size).push event⟩

/-- The events held, oldest first. -/
def toList (memory : Memory) : List Event :=
  memory.events.toList

/-- The number of events held. -/
def size (memory : Memory) : Nat :=
  memory.events.size

/-- The errors held. -/
def errors (memory : Memory) : List Event :=
  memory.toList.filter Event.isError

/-- Whether an error with this code is held. -/
def hasError (memory : Memory) (code : Code) : Bool :=
  memory.toList.any fun event => event.isError && event.code = code

/-- Whether information with this code is held. -/
def hasSuccess (memory : Memory) (code : Code) : Bool :=
  memory.toList.any fun event => event.isInfo && event.code = code

end Memory

/-- A filter by severity in front of a memory log. -/
structure Service where
  least : Level
  memory : Memory

namespace Service

/-- A service with an empty log. -/
def ofLevel (least : Level) : Service := ⟨least, .empty⟩

/-- Whether events of the level reach the log. -/
def shouldLog (service : Service) (level : Level) : Bool :=
  level.passes service.least

/-- Logs an event if its level is severe enough. -/
def log (service : Service) (event : Event) : Service :=
  if service.shouldLog event.level then { service with memory := service.memory.record event }
  else service

/-- Forgets all events held. -/
def clear (service : Service) : Service :=
  { service with memory := .empty }

/-- The error of a second attempt to set up the logging of a program. -/
def alreadyInitialized : Text :=
  "Global logger already initialized".toList

end Service

end FormulaLexer.Log
