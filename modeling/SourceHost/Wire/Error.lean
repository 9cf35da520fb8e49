/-!
# Why wire bytes are refused

One constructor for each cause, with the numbers its wording quotes.  `WireError.message` is the
only place where the wording lives.
-/

set_option autoImplicit false

namespace SourceHost

/-- What the wire format has no form for. -/
inductive Unsupported where
  /-- A value that says itself what it is: nothing on the wire does. -/
  | selfDescribing
  /-- A field or variant called by its name: names are not on the wire. -/
  | identifier
  /-- A value to be skipped: without its shape its end cannot be found. -/
  | ignored
  /-- A sequence whose length is not known before its elements. -/
  | unsizedSequence
  /-- A map whose size is not known before its entries. -/
  | unsizedMap
deriving DecidableEq, Repr

/-- The words for what is not supported. -/
def Unsupported.name : Unsupported → String
  | selfDescribing => "self-describing value"
  | identifier => "identifier"
  | ignored => "ignored value"
  | unsizedSequence => "sequence of unknown length"
  | unsizedMap => "map of unknown length"

/-- A fault in wire bytes, or in a value that should become wire bytes. -/
inductive WireError where
  /-- The bytes end inside a value. -/
  | unexpectedEnd
  /-- A varint does not fit in the width of the number expected. -/
  | varintOverflow (bits : Nat)
  /-- A variant index that the type does not have, or that one byte cannot hold. -/
  | invalidDiscriminant (index : Nat)
  /-- A length that the rest of the bytes cannot back. -/
  | lengthOutOfRange (length : Nat)
  /-- A text that is not UTF-8. -/
  | invalidUtf8
  /-- A text of no character, or of several, where one is expected. -/
  | invalidChar
  /-- Bytes are left after the value. -/
  | trailingBytes (count : Nat)
  /-- The shape has no form on the wire. -/
  | unsupported (what : Unsupported)
  /-- A moment outside the calendar. -/
  | timestampOutOfRange (seconds : Int)
deriving DecidableEq, Repr

/-- The wording of each fault. -/
def WireError.message : WireError → String
  | unexpectedEnd => "unexpected end of buffer"
  | varintOverflow bits => s!"varint exceeds {bits}-bit range"
  | invalidDiscriminant index => s!"invalid discriminant {index}"
  | lengthOutOfRange length => s!"length {length} out of range"
  | invalidUtf8 => "invalid UTF-8 in string"
  | invalidChar => "invalid char"
  | trailingBytes count => s!"{count} trailing bytes after value"
  | unsupported what => s!"unsupported type: {what.name}"
  | timestampOutOfRange seconds => s!"timestamp {seconds} out of range"

end SourceHost
