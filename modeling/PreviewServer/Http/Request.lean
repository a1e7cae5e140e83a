import PreviewServer.Http.Headers
import PreviewServer.Http.Method
import PreviewServer.Text.Utf8

/-!
# Requests

A request as it came from a client, and a draft from which one can be put together field by field.
The target is kept as it stood on the request line; decoding it is the file handler's work.
-/

namespace PreviewServer

/-- A request. -/
structure Request where
  /-- The method. -/
  method : Method
  /-- The request target, not decoded, with its query. -/
  target : String
  /-- The protocol version, such as `HTTP/1.1`. -/
  version : String
  /-- The header fields. -/
  headers : Headers
  /-- The body, which is read so that the next request is found, and not used otherwise. -/
  body : Bytes

namespace Request

/-- Whether the connection stays open after the answer.  A `Connection` field that says `close` or
`keep-alive` decides; otherwise every version but `HTTP/1.0` keeps the connection. -/
def keepAlive (order : FieldOrder) (r : Request) : Bool :=
  match Headers.find? order r.headers "Connection" with
  | some v =>
    if sameIgnoringCase v "close" then false
    else if sameIgnoringCase v "keep-alive" then true
    else r.version ≠ "HTTP/1.0"
  | none => r.version ≠ "HTTP/1.0"

end Request

/-! ### Drafts -/

/-- What a draft can lack when it is built. -/
inductive DraftError where
  /-- No method was set. -/
  | methodMissing
  /-- No target was set. -/
  | targetMissing
  deriving DecidableEq, Repr

/-- The wording of a draft error. -/
def DraftError.message : DraftError → String
  | .methodMissing => "method missing"
  | .targetMissing => "path missing"

/-- A request under construction. -/
structure RequestDraft where
  /-- The method, once set. -/
  method : Option Method := none
  /-- The target, once set. -/
  target : Option String := none
  /-- The version, once set. -/
  version : Option String := none
  /-- The header fields set so far. -/
  headers : Headers := Dict.empty
  /-- The body. -/
  body : Bytes := []

namespace RequestDraft

/-- The draft with a header field set. -/
def withHeader (d : RequestDraft) (name value : String) : RequestDraft :=
  { d with headers := d.headers.insert name value }

/-- The finished request.  A missing method is reported before a missing target; the version
defaults to `HTTP/1.1`. -/
def build (d : RequestDraft) : Except DraftError Request :=
  match d.method, d.target with
  | none, _ => .error .methodMissing
  | some _, none => .error .targetMissing
  | some m, some t =>
    .ok { method := m, target := t, version := d.version.getD "HTTP/1.1", headers := d.headers,
          body := d.body }

end RequestDraft

end PreviewServer
