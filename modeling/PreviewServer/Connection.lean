import PreviewServer.Http.RequestReader
import PreviewServer.Http.Wire

/-!
# Connections

A connection keeps a buffer of bytes that have arrived and not been used.  Requests are taken off
its front as soon as they are complete; each is answered in turn.  The connection ends after a
request that does not keep it alive, after bytes that cannot become a request, and when no more
bytes arrive.  It also ends, without a word, at a request to which there is no answer.

What is read from bytes and what is sent may depend on the order in which header fields come
(`FieldOrder`).  One order is given for the fields of requests, and one for the fields of each
response.
-/

namespace PreviewServer

/-! ### Taking requests off a buffer -/

/-- What reading a buffer until no further request can be read comes to. -/
structure Intake where
  /-- The requests, in order. -/
  requests : List Request
  /-- Why there is no further request. -/
  stop : ReadError
  /-- The bytes that belong to none of the requests. -/
  pending : Bytes

/-- Takes requests off the front of a buffer for as long as one can be read. -/
def intake (order : FieldOrder) (buffer : Bytes) : Intake :=
  match _h : Request.read order buffer with
  | .error e => { requests := [], stop := e, pending := buffer }
  | .ok (r, n) =>
    let rest := intake order (buffer.drop n)
    { rest with requests := r :: rest.requests }
termination_by buffer.length
decreasing_by
  have := Request.read_consumed _h
  simp only [List.length_drop]
  omega

/-- Lets chunks arrive one after another and takes requests off the buffer after each.  Nothing is
read any more once the buffer cannot become a request. -/
def feed (order : FieldOrder) (buffer : Bytes) : List Bytes → List Intake
  | [] => []
  | chunk :: chunks =>
    -- Only an incomplete buffer can still become a request.
    let i := intake order (buffer ++ chunk)
    i :: if i.stop = .incomplete then feed order i.pending chunks else []

/-! ### Answering -/

/-- An answer on its way to the client. -/
structure Reply where
  /-- The response. -/
  response : Response
  /-- Whether the body is sent with it. -/
  withBody : Bool

namespace Reply

/-- The bytes of an answer, when the fields of the response come in this order. -/
def bytes (order : FieldOrder) (r : Reply) : Bytes := r.response.serialize order r.withBody

/-- Marks a response as the last one of its connection. -/
def closing (r : Response) : Response := r.withHeader "Connection" "close"

/-- The answer to a request with this response: without the body when only the head was asked for,
and marked when it is the last one. -/
def toRequest (order : FieldOrder) (r : Request) (response : Response) : Reply :=
  { response := if r.keepAlive order then response else closing response
    withBody := r.method ≠ .head }

/-- The response to bytes that are no request. -/
def rejectionPage : ReadError → Response
  | .unknownMethod => .methodNotAllowed
  | .bodyTooLarge => .payloadTooLarge
  | _ => .badRequest

/-- The answer to bytes that are no request; it is always the last one. -/
def rejection (e : ReadError) : Reply :=
  { response := closing (rejectionPage e), withBody := true }

end Reply

/-! ### Taking turns -/

/-- What a connection does next. -/
inductive Turn where
  /-- It waits for more bytes. -/
  | wait
  /-- It answers a request, and goes on with the rest of its buffer. -/
  | answer (reply : Reply) (rest : Bytes)
  /-- It answers for the last time. -/
  | close (reply : Reply)
  /-- It breaks down, because there is no answer. -/
  | breakDown

/-- The next turn of a connection with these bytes in its buffer. -/
def Turn.next (order : FieldOrder) (respond : Request → Option Response) (buffer : Bytes) : Turn :=
  match Request.read order buffer with
  | .ok (r, n) =>
    match respond r with
    | none => .breakDown
    | some response =>
      if r.keepAlive order then .answer (.toRequest order r response) (buffer.drop n)
      else .close (.toRequest order r response)
  | .error .incomplete => .wait
  | .error e => .close (.rejection e)

/-- An answer takes at least its request off the buffer. -/
theorem Turn.length_rest {order : FieldOrder} {respond : Request → Option Response}
    {buffer rest : Bytes} {reply : Reply}
    (h : Turn.next order respond buffer = .answer reply rest) : rest.length < buffer.length := by
  unfold Turn.next at h
  split at h
  · rename_i r n hr
    have := Request.read_consumed hr
    split at h
    · simp at h
    · split at h
      · obtain ⟨-, rfl⟩ := Turn.answer.inj h
        simp only [List.length_drop]
        omega
      · simp at h
  · simp at h
  · simp at h

/-- The answers that a connection gives, from the bytes it has buffered and the chunks still to
arrive, up to the point where it closes or breaks down. -/
def converse (order : FieldOrder) (respond : Request → Option Response) (buffer : Bytes)
    (chunks : List Bytes) : List Reply :=
  match _h : Turn.next order respond buffer with
  -- Requests that are buffered already are answered before more bytes are awaited.
  | .answer reply rest => reply :: converse order respond rest chunks
  | .close reply => [reply]
  | .breakDown => []
  | .wait =>
    match chunks with
    | [] => []
    | chunk :: chunks => converse order respond (buffer ++ chunk) chunks
termination_by (chunks.length, buffer.length)
decreasing_by
  · exact Prod.Lex.right _ (Turn.length_rest _h)
  · apply Prod.Lex.left
    simp

/-- The bytes of answers one after another, when the fields of each response come in an order of
their own. -/
def Reply.stream (written : Nat → FieldOrder) (replies : List Reply) : Bytes :=
  (replies.mapIdx fun i reply => reply.bytes (written i)).flatten

/-- The orders from this number on. -/
def FieldOrder.after (k : Nat) (written : Nat → FieldOrder) : Nat → FieldOrder :=
  fun i => written (i + k)

theorem Reply.stream_cons (written : Nat → FieldOrder) (reply : Reply) (replies : List Reply) :
    stream written (reply :: replies) =
      reply.bytes (written 0) ++ stream (FieldOrder.after 1 written) replies := by
  rw [stream, List.mapIdx_cons, List.flatten_cons]
  rfl

theorem Reply.stream_append (written : Nat → FieldOrder) (before after : List Reply) :
    stream written (before ++ after) =
      stream written before ++ stream (FieldOrder.after before.length written) after := by
  rw [stream, List.mapIdx_append, List.flatten_append]
  rfl

/-- The bytes that a connection sends, when the fields of requests come in one order and those of
the responses in the orders of `written`. -/
def transcript (order : FieldOrder) (written : Nat → FieldOrder)
    (respond : Request → Option Response) (chunks : List Bytes) : Bytes :=
  Reply.stream written (converse order respond [] chunks)

end PreviewServer
