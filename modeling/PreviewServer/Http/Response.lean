import PreviewServer.Http.Headers
import PreviewServer.Text.Utf8

/-!
# Responses

A response has one of seven statuses, header fields and a body.  `ResponseDraft.build` adds the
`Content-Length` field unless the draft already has one of exactly that name.  Every response that
is not a success is the fixed page of its status (`Response.page`).
-/

namespace PreviewServer

/-! ### Statuses -/

/-- The status of a response. -/
inductive Status where
  /-- The request was served. -/
  | ok
  /-- The resource is at another place. -/
  | movedPermanently
  /-- The request could not be understood. -/
  | badRequest
  /-- There is no such resource. -/
  | notFound
  /-- The method is not served. -/
  | methodNotAllowed
  /-- The body is too large. -/
  | payloadTooLarge
  /-- The resource exists and could not be read. -/
  | internalServerError
  deriving DecidableEq, Repr

namespace Status

/-- Every status. -/
def all : List Status :=
  [.ok, .movedPermanently, .badRequest, .notFound, .methodNotAllowed, .payloadTooLarge,
    .internalServerError]

/-- The three digits of a status. -/
def code : Status → Nat
  | .ok => 200
  | .movedPermanently => 301
  | .badRequest => 400
  | .notFound => 404
  | .methodNotAllowed => 405
  | .payloadTooLarge => 413
  | .internalServerError => 500

/-- The phrase that goes with a status. -/
def reason : Status → String
  | .ok => "OK"
  | .movedPermanently => "Moved Permanently"
  | .badRequest => "Bad Request"
  | .notFound => "Not Found"
  | .methodNotAllowed => "Method Not Allowed"
  | .payloadTooLarge => "Payload Too Large"
  | .internalServerError => "Internal Server Error"

/-- The status with these digits. -/
def ofCode? (n : Nat) : Option Status := all.find? fun s => s.code = n

/-- Code and phrase, as on the status line. -/
def text (s : Status) : String := toString s.code ++ " " ++ s.reason

end Status

/-! ### Responses and drafts -/

/-- A response. -/
structure Response where
  /-- The status. -/
  status : Status
  /-- The header fields. -/
  headers : Headers
  /-- The body. -/
  body : Bytes

/-- A response under construction. -/
structure ResponseDraft where
  /-- The status. -/
  status : Status
  /-- The header fields set so far. -/
  headers : Headers := Dict.empty
  /-- The body. -/
  body : Bytes := []

namespace ResponseDraft

/-- The draft with a header field set. -/
def withHeader (d : ResponseDraft) (name value : String) : ResponseDraft :=
  { d with headers := d.headers.insert name value }

/-- The draft with this body. -/
def withBody (d : ResponseDraft) (body : Bytes) : ResponseDraft := { d with body := body }

/-- The finished response.  It declares the length of its body, unless a field named exactly
`Content-Length` was set. -/
def build (d : ResponseDraft) : Response :=
  let headers :=
    match d.headers.get? "Content-Length" with
    | some _ => d.headers
    | none => d.headers.insert "Content-Length" (toString d.body.length)
  { status := d.status, headers := headers, body := d.body }

end ResponseDraft

namespace Response

/-- The response with a header field set. -/
def withHeader (r : Response) (name value : String) : Response :=
  { r with headers := r.headers.insert name value }

/-- The response that delivers `body`. -/
def ok (mediaType : String) (body : Bytes) : Response :=
  (({ status := .ok } : ResponseDraft).withHeader "Content-Type" mediaType |>.withBody body).build

/-- The fixed page of a status: its code and phrase on a line of plain text. -/
def page (s : Status) : Response :=
  (({ status := s } : ResponseDraft).withHeader "Content-Type" "text/plain; charset=utf-8"
    |>.withBody (Utf8.encode (s.text ++ "\n"))).build

/-- The page that sends the client to another place. -/
def movedPermanently (location : String) : Response :=
  (page .movedPermanently).withHeader "Location" location

/-- The page for a request that could not be understood. -/
def badRequest : Response := page .badRequest

/-- The page for a resource that does not exist. -/
def notFound : Response := page .notFound

/-- The page for a method that is not served; it names the methods that are. -/
def methodNotAllowed : Response := (page .methodNotAllowed).withHeader "Allow" "GET, HEAD"

/-- The page for a body over the limit. -/
def payloadTooLarge : Response := page .payloadTooLarge

/-- The page for a resource that could not be read. -/
def internalError : Response := page .internalServerError

end Response

end PreviewServer
