import SourceHost.Bytes

/-!
# Pictures

A picture is kept in the encoded form it came in.  What makes some bytes a picture is the
signature they begin with.
-/

set_option autoImplicit false

namespace SourceHost

/-- The picture formats that are recognised. -/
inductive ImageFormat where
  | png
  | jpeg
  | gif
  | webp
  | bmp
deriving DecidableEq, Repr

/-- The format whose signature the bytes begin with. -/
def ImageFormat.detect : Bytes → Option ImageFormat
  | 0x89 :: 0x50 :: 0x4E :: 0x47 :: 0x0D :: 0x0A :: 0x1A :: 0x0A :: _ => some png
  | 0xFF :: 0xD8 :: 0xFF :: _ => some jpeg
  | 0x47 :: 0x49 :: 0x46 :: 0x38 :: 0x37 :: 0x61 :: _ => some gif
  | 0x47 :: 0x49 :: 0x46 :: 0x38 :: 0x39 :: 0x61 :: _ => some gif
  | 0x52 :: 0x49 :: 0x46 :: 0x46 :: _ :: _ :: _ :: _ :: 0x57 :: 0x45 :: 0x42 :: 0x50 :: _ =>
    some webp
  | 0x42 :: 0x4D :: _ => some bmp
  | _ => none

/-- A picture in its encoded form. -/
structure Image where
  /-- The format of the data. -/
  format : ImageFormat
  /-- The encoded data. -/
  data : Bytes
deriving DecidableEq

/-- The picture that the bytes are, if they begin like one. -/
def Image.ofBytes (data : Bytes) : Option Image :=
  (ImageFormat.detect data).map (⟨·, data⟩)

end SourceHost
