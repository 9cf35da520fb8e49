import SourceHost.Http.Exchange
import SourceHost.Image

/-!
# Resources

The things that the host keeps and a guest knows by a number only.
-/

set_option autoImplicit false

namespace SourceHost

/-- A document, to be taken apart elsewhere. -/
structure Document where
  /-- The text of it. -/
  html : String
  /-- Where it came from; its links start there. -/
  baseUrl : Option String
deriving DecidableEq, Repr

/-- Something the host keeps for a guest. -/
inductive Resource where
  | bytes (data : Bytes)
  | text (text : String)
  | request (request : Request)
  | document (document : Document)
  | image (image : Image)
deriving DecidableEq

/-- The kinds of resources. -/
inductive ResourceKind where
  | bytes
  | text
  | request
  | document
  | image
deriving DecidableEq, Repr

/-- The word for a kind. -/
def ResourceKind.name : ResourceKind → String
  | bytes => "bytes"
  | text => "text"
  | request => "request"
  | document => "document"
  | image => "image"

namespace Resource

/-- The kind of a resource. -/
def kind : Resource → ResourceKind
  | bytes _ => .bytes
  | text _ => .text
  | request _ => .request
  | document _ => .document
  | image _ => .image

/-- The bytes of a resource that can be read as bytes. -/
def bytes? : Resource → Option Bytes
  | bytes data => some data
  | text t => some (Utf8.encode t)
  | _ => none

/-- The request that a resource is. -/
def request? : Resource → Option Request
  | request r => some r
  | _ => none

/-- The document that a resource is. -/
def document? : Resource → Option Document
  | document d => some d
  | _ => none

/-- The picture that a resource is. -/
def image? : Resource → Option Image
  | image i => some i
  | _ => none

end Resource

end SourceHost
