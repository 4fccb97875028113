import PugScript.Journal.Event

/-!
# The journal in memory

It keeps the most recent events up to a fixed number; a new event pushes the oldest one out.
-/

namespace PugScript.Journal

/-- The kept events, oldest first. -/
structure Memory where
  events : Array Event := #[]

namespace Memory

def record (memory : Memory) (event : Event) : Memory :=
  let kept :=
    if Limits.logBufferSize ≤ memory.events.size then
      memory.events.extract (memory.events.size - Limits.logBufferSize + 1) memory.events.size
    else memory.events
  ⟨kept.push event⟩

/-- Keeps an event if its level is wanted. -/
def log (least : Level) (memory : Memory) (event : Event) : Memory :=
  if event.level.isWantedAt least then memory.record event else memory

def clear (_ : Memory) : Memory :=
  ⟨#[]⟩

def size (memory : Memory) : Nat :=
  memory.events.size

def errorCount (memory : Memory) : Nat :=
  memory.events.countP Event.isError

def hasError (memory : Memory) (code : Code) : Bool :=
  memory.events.any fun event => event.isError && event.code == code

def hasSuccess (memory : Memory) (code : Code) : Bool :=
  memory.events.any fun event => event.isInfo && event.code == code

end Memory

end PugScript.Journal
