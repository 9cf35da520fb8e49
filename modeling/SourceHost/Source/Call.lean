import SourceHost.Guest.Run
import SourceHost.Memory.Frame

/-!
# Calling a guest

A call of an entry point runs the guest.  What a call returns is a place in its memory where a
frame stands: the host reads the frame and then gives it back, once, whatever is in it.
-/

set_option autoImplicit false

namespace SourceHost.Session

/-- An entry point of a guest is called, if it has it and the entry point takes what it should. -/
def call (env : Environment) (guest : Guest) (name : String) (parameters : List Int)
    (script : Script) (s : Session) : Except HostError Int × Session :=
  if !guest.features.supports name then (.error .unimplemented, s)
  else match guest.entryPoints.lookup name with
    | some .function =>
      let (ending, s) := script.run env parameters [] (s.log (.enter name parameters))
      (ending.result env, s)
    | some .otherFunction => (.error (.link name .wrongSignature), s)
    | _ => (.error .unimplemented, s)

/-- A frame is given back to the guest. -/
def release (env : Environment) (script : Script) (ptr : Int) (s : Session) :
    Except HostError Unit × Session :=
  let (ending, s) := script.run env [ptr] [] { s with freed := s.freed ++ [ptr] }
  ((ending.result env).map fun _ ↦ (), s)

/-- The payload of the frame that a call returned.  The frame is read before it is given back. -/
def takeResult (env : Environment) (script : Script) (ret : Int) (s : Session) :
    Except HostError Bytes × Session :=
  if ret < 0 then (.error (.ofSentinel ret), s)
  else
    let content := s.memory.readFrame ret.toNat
    match s.release env script ret with
    | (.error e, s) => (.error e, s)
    | (.ok (), s) => match content with
      | .error e => (.error e, s)
      | .ok (.message text) => (.error (.message text), s)
      | .ok (.payload data) => (.ok data, s)

/-- The value in the frame that a call returned. -/
def decodeResult {α : Type} [Wired α] (env : Environment) (script : Script) (ret : Int)
    (s : Session) : Except HostError α × Session :=
  let (payload, s) := s.takeResult env script ret
  (payload.bind fun data ↦ (Wired.decode data).mapError .decode, s)

end SourceHost.Session
