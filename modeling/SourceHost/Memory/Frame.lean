import SourceHost.Memory.Basic

/-!
# Result frames

What a guest hands over stands in a frame: a number of four bytes that counts the whole frame,
four bytes that mean nothing, and the payload.  A frame whose first number is the largest there is
holds a message instead: at its eighth byte stands a number that counts the frame, and behind that
the text.
-/

set_option autoImplicit false

namespace SourceHost

/-- What a frame holds. -/
inductive FrameContent where
  /-- The wire form of a value. -/
  | payload (data : Bytes)
  /-- Why there is no value, in the words of the guest. -/
  | message (text : String)
deriving DecidableEq

namespace Memory

/-- The length of what stands before a payload. -/
def headerLength : Nat := 8

/-- The length of what stands before a message. -/
def messageHeaderLength : Nat := 12

/-- The number that marks a message. -/
def messageMarker : Nat := capacity 32 - 1

/-- The frame of a payload. -/
def payloadFrame (data : Bytes) : Bytes :=
  Bytes.littleEndian 4 (data.length + headerLength) ++ Bytes.littleEndian 4 0 ++ data

/-- The frame of a message. -/
def messageFrame (text : String) : Bytes :=
  let content := Utf8.encode text
  Bytes.littleEndian 4 messageMarker ++ Bytes.littleEndian 4 0
    ++ Bytes.littleEndian 4 (content.length + messageHeaderLength) ++ content

/-- The content of a frame of a given length whose header has a given length. -/
def readContent (m : Memory) (ptr header length : Nat) : Except HostError Bytes :=
  if length < header then .error (.outOfBounds ptr length m.size)
  else m.read (ptr + header) (length - header)

/-- The payload of the frame at a place. -/
def readFramed (m : Memory) (ptr : Nat) : Except HostError Bytes := do
  let length ← m.readWord ptr
  m.readContent ptr headerLength length

/-- What the frame at a place holds. -/
def readFrame (m : Memory) (ptr : Nat) : Except HostError FrameContent := do
  let length ← m.readWord ptr
  if length = messageMarker then
    let total ← m.readWord (ptr + headerLength)
    let text ← m.readContent ptr messageHeaderLength total
    return .message (Utf8.lossy text)
  else
    let data ← m.readContent ptr headerLength length
    return .payload data

end Memory

end SourceHost
