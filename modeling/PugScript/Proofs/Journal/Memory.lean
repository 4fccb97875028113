import Mathlib.Data.List.DropRight
import PugScript.Journal.Memory

/-!
# What the journal remembers

The journal in memory holds the latest of the events that it accepted since it was last cleared, in
the order in which they were logged, and never more of them than there is room for. Questions about
its errors and milestones are questions about these events.
-/

namespace PugScript.Journal

/-- What can be done with a journal in memory. -/
inductive JournalOperation where
  | log (event : Event)
  | clear

namespace JournalOperation

def isClear : JournalOperation → Bool
  | clear => true
  | log _ => false

def event? : JournalOperation → Option Event
  | log event => some event
  | clear => none

end JournalOperation

/-- The events up to a level that were logged since the last clearing, in the order in which they
were logged. -/
def acceptedEvents (least : Level) (operations : List JournalOperation) : List Event :=
  ((operations.rtakeWhile fun operation => !operation.isClear).filterMap (·.event?)).filter
    fun event => event.level.rank ≤ least.rank

theorem acceptedEvents_clear (least : Level) (operations : List JournalOperation) :
    acceptedEvents least (operations ++ [.clear]) = [] := by
  rw [acceptedEvents, List.rtakeWhile_concat_neg _ _ _ (by decide)]
  rfl

/-- One more event is accepted if its level is wanted. -/
theorem acceptedEvents_log (least : Level) (operations : List JournalOperation) (event : Event) :
    acceptedEvents least (operations ++ [.log event]) =
      acceptedEvents least operations ++
        if event.level.rank ≤ least.rank then [event] else [] := by
  rw [acceptedEvents, List.rtakeWhile_concat_pos _ _ _ rfl, List.filterMap_append,
    List.filter_append, ← acceptedEvents]
  congr 1
  by_cases wanted : event.level.rank ≤ least.rank
  · simp [JournalOperation.event?, wanted]
  · simp [JournalOperation.event?, wanted]

theorem Level.isWantedAt_iff (level least : Level) :
    level.isWantedAt least = true ↔ level.rank ≤ least.rank :=
  decide_eq_true_iff

namespace Memory

def perform (least : Level) (memory : Memory) : JournalOperation → Memory
  | .log event => memory.log least event
  | .clear => memory.clear

/-- The journal for events up to a level after some operations on the empty one. -/
def after (least : Level) (operations : List JournalOperation) : Memory :=
  operations.foldl (perform least) {}

theorem after_concat
    (least : Level) (operations : List JournalOperation) (operation : JournalOperation) :
    after least (operations ++ [operation]) = (after least operations).perform least operation :=
  List.foldl_concat ..

/-- However many events are kept, room is made for exactly one more. -/
theorem toList_record (memory : Memory) (event : Event) :
    (memory.record event).events.toList =
      (memory.events.toList ++ [event]).rtake Limits.logBufferSize := by
  have positive : 0 < Limits.logBufferSize := by decide
  rw [record, List.rtake, List.length_append, Array.length_toList, Array.toList_push]
  by_cases full : Limits.logBufferSize ≤ memory.events.size
  · have dropped : memory.events.size + [event].length - Limits.logBufferSize =
        memory.events.size - Limits.logBufferSize + 1 := by
      rw [List.length_singleton]
      omega
    have within : memory.events.size - Limits.logBufferSize + 1 ≤ memory.events.toList.length := by
      rw [Array.length_toList]
      omega
    rw [if_pos full, dropped, List.drop_append_of_le_length within, Array.toList_extract,
      List.extract_eq_take_drop, List.take_of_length_le]
    rw [List.length_drop, Array.length_toList]
  · have dropped : memory.events.size + [event].length - Limits.logBufferSize = 0 := by
      rw [List.length_singleton]
      omega
    rw [if_neg full, dropped, List.drop_zero]

/-- Remembering the latest of the latest is remembering the latest of all. -/
theorem rtake_append_rtake (events : List Event) (event : Event) (room : Nat) :
    (events.rtake room ++ [event]).rtake room = (events ++ [event]).rtake room := by
  cases room with
  | zero => rw [List.rtake_zero, List.rtake_zero]
  | succ room =>
    rw [List.rtake_concat_succ, List.rtake_concat_succ, List.rtake_eq_reverse_take_reverse,
      List.rtake_eq_reverse_take_reverse, List.rtake_eq_reverse_take_reverse,
      List.reverse_reverse, List.take_take, Nat.min_eq_left (Nat.le_succ room)]

/-- Logging keeps the latest events, the new one among them if its level is wanted. -/
theorem toList_log (least : Level) (memory : Memory) (event : Event) :
    (memory.log least event).events.toList =
      if event.level.rank ≤ least.rank then
        (memory.events.toList ++ [event]).rtake Limits.logBufferSize
      else memory.events.toList := by
  by_cases wanted : event.level.rank ≤ least.rank
  · rw [if_pos wanted, log, if_pos ((Level.isWantedAt_iff _ _).mpr wanted), toList_record]
  · rw [if_neg wanted, log, if_neg (mt (Level.isWantedAt_iff _ _).mp wanted)]

/-- After any operations a journal holds the latest of the accepted events. -/
theorem toList_after (least : Level) (operations : List JournalOperation) :
    (after least operations).events.toList =
      (acceptedEvents least operations).rtake Limits.logBufferSize := by
  induction operations using List.reverseRecOn with
  | nil => exact (List.rtake_nil _).symm
  | append_singleton operations operation inductionHypothesis =>
    rw [after_concat]
    cases operation with
    | log event =>
      rw [perform, toList_log, acceptedEvents_log, inductionHypothesis]
      split
      · rw [rtake_append_rtake]
      · rw [List.append_nil]
    | clear =>
      rw [acceptedEvents_clear, List.rtake_nil]
      rfl

/-- The latest of some events, as many as there is room for. -/
def latest (accepted : List Event) : List Event :=
  accepted.rtake (min accepted.length Limits.logBufferSize)

theorem rtake_eq_latest (accepted : List Event) :
    accepted.rtake Limits.logBufferSize = latest accepted := by
  have dropped : accepted.length - min accepted.length Limits.logBufferSize =
      accepted.length - Limits.logBufferSize := by
    omega
  rw [latest, List.rtake, List.rtake, dropped]

theorem length_latest (accepted : List Event) :
    (latest accepted).length = min accepted.length Limits.logBufferSize := by
  rw [latest, List.rtake, List.length_drop]
  omega

theorem any_level_iff (memory : Memory) (level : Level) (code : Code) :
    (memory.events.any fun event => event.level = level && event.code == code) = true ↔
      ∃ event ∈ memory.events.toList, event.level = level ∧ event.code = code := by
  rw [← Array.any_toList, List.any_eq_true]
  simp

/-- The journal holds the latest of the accepted events and answers about them. -/
structure HoldsLatest (memory : Memory) (accepted : List Event) : Prop where
  events_eq : memory.events.toList = latest accepted
  size_eq : memory.size = (latest accepted).length
  size_le : memory.size ≤ Limits.logBufferSize
  hasError_iff : ∀ code, memory.hasError code = true ↔
    ∃ event ∈ latest accepted, event.level = .error ∧ event.code = code
  hasSuccess_iff : ∀ code, memory.hasSuccess code = true ↔
    ∃ event ∈ latest accepted, event.level = .info ∧ event.code = code

/-- However events are logged and the journal is cleared in between, it holds the latest of the
events that it accepted since it was last cleared. -/
theorem journal_holds_latest_events (least : Level) (operations : List JournalOperation) :
    (after least operations).HoldsLatest (acceptedEvents least operations) := by
  have held : (after least operations).events.toList =
      latest (acceptedEvents least operations) := by
    rw [toList_after, rtake_eq_latest]
  have size : (after least operations).size =
      (latest (acceptedEvents least operations)).length := by
    rw [← held, Array.length_toList, Memory.size]
  refine ⟨held, size, ?_, ?_, ?_⟩
  · rw [size, length_latest]
    exact Nat.min_le_right _ _
  · intro code
    rw [← held]
    exact any_level_iff _ .error code
  · intro code
    rw [← held]
    exact any_level_iff _ .info code

end Memory

end PugScript.Journal
