import Std.Data.ExtTreeMap
import SourceHost.Source.Error
import SourceHost.Text.Utf8

/-!
# Guest memory

A guest has one stretch of bytes, and the host reads and writes it at places the guest names.  A
place is in range when all of it is; nothing is ever read or written in part.

Only bytes that have been written are kept; all others are zero.
-/

set_option autoImplicit false

namespace SourceHost

/-- The memory of a guest. -/
structure Memory where
  /-- How many bytes there are. -/
  size : Nat
  /-- The bytes that have been written. -/
  cells : Std.ExtTreeMap Nat UInt8 := ∅
deriving DecidableEq

namespace Memory

/-- The size of the pieces in which memory grows. -/
def pageSize : Nat := 65536

/-- How many pages a memory can have at most. -/
def pageLimit : Nat := 65536

/-- A fresh memory. -/
def ofPages (pages : Nat) : Memory := ⟨pages * pageSize, ∅⟩

/-- The byte at an address. -/
def byte (m : Memory) (address : Nat) : UInt8 := m.cells[address]?.getD 0

/-- A place or a length as a guest gives it: a negative number is none. -/
def offset (i : Int) : Except HostError Nat :=
  if 0 ≤ i then .ok i.toNat else .error (.outOfBounds 0 0 0)

/-- A place is in range. -/
def check (m : Memory) (offset length : Nat) : Except HostError Unit :=
  if offset + length ≤ m.size then .ok () else .error (.outOfBounds offset length m.size)

/-- The bytes at a place. -/
def read (m : Memory) (offset length : Nat) : Except HostError Bytes := do
  m.check offset length
  return (List.range length).map fun i ↦ m.byte (offset + i)

/-- The text at a place. -/
def readText (m : Memory) (offset length : Nat) : Except HostError String := do
  let b ← m.read offset length
  match Utf8.decode b with
  | some t => return t
  | none => .error (.decode .invalidUtf8)

/-- The number of four bytes at a place. -/
def readWord (m : Memory) (offset : Nat) : Except HostError Nat := do
  let b ← m.read offset 4
  return Bytes.ofLittleEndian b

/-- The integers that bytes are when each takes four of them; what is left over is none. -/
def integers : Bytes → List Int
  | a :: b :: c :: d :: rest =>
    (Bytes.ofLittleEndian [a, b, c, d] : Int).bmod (capacity 32) :: integers rest
  | _ => []

/-- The bytes of an integer. -/
def integerBytes (i : Int) : Bytes := Bytes.littleEndian 4 (i % capacity 32).toNat

/-- The integers at a place. -/
def readIntegers (m : Memory) (offset count : Nat) : Except HostError (List Int) :=
  if capacity 32 ≤ count * 4 then .error (.outOfBounds offset (count * 4) m.size)
  else return integers (← m.read offset (count * 4))

/-- The memory with bytes put at an address on. -/
def put (m : Memory) : (address : Nat) → Bytes → Memory
  | _, [] => m
  | address, a :: rest => put { m with cells := m.cells.insert address a } (address + 1) rest

/-- The memory after bytes have been written at a place. -/
def write (m : Memory) (offset : Nat) (b : Bytes) : Except HostError Memory := do
  m.check offset b.length
  return m.put offset b

/-- The memory after integers have been written at a place. -/
def writeIntegers (m : Memory) (offset : Nat) (l : List Int) : Except HostError Memory :=
  m.write offset (l.flatMap integerBytes)

end Memory

end SourceHost
