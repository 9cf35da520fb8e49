import SourceHost.Date.Timestamp
import SourceHost.Session.Basic

/-!
# Functions: buffers and dates

What a guest needs to read the resources kept for it, and to make sense of dates.
-/

set_option autoImplicit false

namespace SourceHost

/-- Why a buffer or a date is not to be had. -/
inductive BufferStatus where
  | invalidDescriptor
  | invalidBufferSize
  | failedMemoryWrite
  | invalidString
  | invalidDateString
deriving DecidableEq, Repr

/-- The number for a reason. -/
def BufferStatus.code : BufferStatus → Int
  | invalidDescriptor => -1
  | invalidBufferSize => -2
  | failedMemoryWrite => -3
  | invalidString => -4
  | invalidDateString => -5

namespace Session

/-- The session after a resource has been given up. -/
def destroy (s : Session) (h : Handle) : Session := { s with arena := s.arena.remove h }

/-- The length of data, if a guest can be told it. -/
def lengthOr (failure : Int) (data : Bytes) : Int :=
  if data.length < capacity 31 then data.length else failure

/-- The length of a buffer. -/
def bufferLength (s : Session) (h : Handle) : Int :=
  match s.arena.bytes h with
  | .ok data => lengthOr BufferStatus.invalidBufferSize.code data
  | .error _ => BufferStatus.invalidDescriptor.code

/-- The first bytes of data, if there are so many. -/
def chunk (data : Bytes) (size : Int) : Option Bytes :=
  if 0 ≤ size ∧ size ≤ data.length then some (data.take size.toNat) else none

/-- The first bytes of a buffer are put into the memory of the guest. -/
def readBuffer (s : Session) (h : Handle) (ptr size : Int) : Int × Session :=
  match s.arena.bytes h with
  | .error _ => (BufferStatus.invalidDescriptor.code, s)
  | .ok data => match chunk data size with
    | none => (BufferStatus.invalidBufferSize.code, s)
    | some data => match s.writeAt ptr data with
      | .ok s => (0, s)
      | .error _ => (BufferStatus.failedMemoryWrite.code, s)

/-- A text that may be left out. -/
def optionalTextAt (s : Session) (ptr length : Int) : Option String :=
  if 0 < length then (s.textAt ptr length).toOption else none

/-- The moment that a text names when it is read along a pattern, in thousandths of a second. -/
def parseDate (env : Environment) (s : Session)
    (text textLength pattern patternLength zone zoneLength : Int) : Int :=
  match s.textAt text textLength, s.textAt pattern patternLength with
  | .ok text, .ok pattern =>
    (Timestamp.parse? env.zones text pattern (s.optionalTextAt zone zoneLength)).getD
      (BufferStatus.invalidDateString.code * 1000)
  | _, _ => BufferStatus.invalidString.code * 1000

end Session

end SourceHost
