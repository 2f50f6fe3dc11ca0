import CssSelector.Limits
import CssSelector.Log.Event

/-!
# The memory log

A log that keeps the last events, `logBufferSize` of them, the oldest first. It never holds more:
when it is full, the oldest events are dropped before a new one is added. `MemoryLog.toList` is the
view of what is kept, and `MemoryLog.toList_record` says that it is a sliding window.
-/

set_option autoImplicit false

namespace CssSelector

structure MemoryLog where
  held : Array Event := #[]
  size_le : held.size ≤ logBufferSize := by exact Nat.zero_le _
  deriving Repr

structure EventSummary where
  total : Nat
  errors : Nat
  warnings : Nat
  infos : Nat
  debugs : Nat
  /-- The errors that require a halt. -/
  critical : Nat
  deriving DecidableEq, Repr

def EventSummary.toJson (summary : EventSummary) : Json :=
  .object [("total", .natural summary.total), ("error", .natural summary.errors),
    ("warning", .natural summary.warnings), ("info", .natural summary.infos),
    ("debug", .natural summary.debugs), ("critical", .natural summary.critical),
    ("has_errors", .bool (0 < summary.errors)), ("has_critical", .bool (0 < summary.critical))]

namespace MemoryLog

def toList (log : MemoryLog) : List Event := log.held.toList

def count (log : MemoryLog) : Nat := log.held.size

/-- Drops the oldest events of a full log, as many as it takes to make room for one. -/
def makeRoom (log : MemoryLog) : Array Event :=
  if logBufferSize ≤ log.held.size then
    log.held.extract (log.held.size - logBufferSize + 1) log.held.size
  else log.held

theorem size_makeRoom (log : MemoryLog) : log.makeRoom.size < logBufferSize := by
  have positive : 0 < logBufferSize := by decide
  have bounded := log.size_le
  unfold makeRoom
  split
  · rw [Array.size_extract]
    omega
  · omega

def record (log : MemoryLog) (event : Event) : MemoryLog where
  held := log.makeRoom.push event
  size_le := by
    rw [Array.size_push]
    exact log.size_makeRoom

def clear (_ : MemoryLog) : MemoryLog := {}

/-- The last errors, `maxErrorCollection` of them. -/
def errors (log : MemoryLog) : List Event :=
  let errors := log.toList.filter (·.isError)
  errors.drop (errors.length - maxErrorCollection)

def withCode (log : MemoryLog) (code : Code) : List Event := log.toList.filter (·.code = code)

def inCategory (log : MemoryLog) (category : String) : List Event :=
  log.toList.filter (·.code.category = category)

def hasError (log : MemoryLog) (code : Code) : Bool :=
  log.toList.any fun event => event.isError && event.code = code

def hasSuccess (log : MemoryLog) (code : Code) : Bool :=
  log.toList.any fun event => event.level = .info && event.code = code

def summary (log : MemoryLog) : EventSummary where
  total := log.count
  errors := log.toList.countP (·.isError)
  warnings := log.toList.countP (·.level = .warning)
  infos := log.toList.countP (·.level = .info)
  debugs := log.toList.countP (·.level = .debug)
  critical := log.toList.countP fun event => event.isError && event.code.requiresHalt

theorem length_toList (log : MemoryLog) : log.toList.length = log.count := Array.length_toList

/-- A new event comes last, and only the last events are kept. -/
theorem toList_record (log : MemoryLog) (event : Event) :
    (log.record event).toList =
      (log.toList ++ [event]).drop (log.toList.length + 1 - logBufferSize) := by
  rw [toList, toList, record, Array.toList_push, Array.length_toList, makeRoom]
  split
  · next full =>
      have dropped : log.held.size - logBufferSize + 1 = log.held.size + 1 - logBufferSize := by
        omega
      have within : log.held.size + 1 - logBufferSize ≤ log.held.toList.length := by
        have positive : 0 < logBufferSize := by decide
        rw [Array.length_toList]
        omega
      rw [dropped, Array.toList_extract, List.extract_eq_take_drop,
        List.drop_append_of_le_length within, List.take_of_length_le (by simp)]
  · next room =>
      have nothing : log.held.size + 1 - logBufferSize = 0 := by omega
      rw [nothing, List.drop_zero]

end MemoryLog

end CssSelector
