import PreviewServer.Http.Response

/-!
# Responses as bytes

A response is sent as its head lines, an empty line and, unless only the head was asked for, its
body.  The head begins with the status line and the server's name; then come the header fields, one
line each.  They have no order of their own, so the bytes depend on the one in which they come.
-/

namespace PreviewServer

namespace Response

/-- The name the server gives itself. -/
def serverName : String := "docpreview/0.1.0"

/-- The end of a line of the head. -/
def crlf : String := "\r\n"

/-- The first line of the head. -/
def statusLine (r : Response) : String := "HTTP/1.1 " ++ r.status.text

/-- The line that names the server, left out when a field of that name was set. -/
def serverLine (r : Response) : List String :=
  if Headers.has r.headers "Server" then [] else ["Server: " ++ serverName]

/-- The line of a header field. -/
def headerLine (field : String × String) : String := field.1 ++ ": " ++ field.2

/-- The lines of the head, when the fields come in this order. -/
def headLines (order : FieldOrder) (r : Response) : List String :=
  r.statusLine :: (r.serverLine ++ (order.arrange r.headers.entries).map headerLine)

/-- The head with the empty line that ends it. -/
def headText (order : FieldOrder) (r : Response) : String :=
  String.join ((r.headLines order).map (· ++ crlf)) ++ crlf

/-- The bytes to send, with or without the body. -/
def serialize (order : FieldOrder) (r : Response) (withBody : Bool) : Bytes :=
  Utf8.encode (r.headText order) ++ if withBody then r.body else []

end Response

end PreviewServer
