import PreviewServer.Http.Request
import PreviewServer.Text.Blank
import PreviewServer.Text.Digits
import PreviewServer.Text.Split

/-!
# Reading requests

A request is a head, an empty line and a body.  The head is a request line of three words and one
line for each header field; the body is as long as the `Content-Length` field says.
`Request.read` reads the request at the start of a buffer and tells how many bytes it took; as
long as the buffer might still become a request the answer is `incomplete`.

The order in which faults are found is part of the format: the size of the head first, then the
request line, the header lines from top to bottom, the body's encoding, its declared length, the
size limit, and last whether the body is there (`Request.read`).
-/

namespace PreviewServer

/-! ### Limits and faults -/

/-- The longest head that is read, in bytes. -/
def maxHeadSize : Nat := 16 * 1024

/-- The longest body that is read, in bytes. -/
def maxBodySize : Nat := 1024 * 1024

/-- Why no request was read from a buffer. -/
inductive ReadError where
  /-- The head is not text, or its first line is not a method, a target and a version. -/
  | badRequestLine
  /-- The method is not one of the recognised ones. -/
  | unknownMethod
  /-- A header line has no colon, or its name is empty or contains a blank. -/
  | badHeader
  /-- The declared length is not a number. -/
  | badLength
  /-- The body is sent in an encoding that is not decoded. -/
  | unsupportedEncoding
  /-- The head is over its limit. -/
  | headTooLarge
  /-- The declared length is over its limit. -/
  | bodyTooLarge
  /-- The request has not arrived completely. -/
  | incomplete
  deriving DecidableEq, Repr

/-! ### The head -/

/-- Where the first empty line begins, counted from `n`: the offset of the first two line breaks
in a row. -/
def headEndFrom : Nat → Bytes → Option Nat
  | n, 13 :: 10 :: 13 :: 10 :: _ => some n
  | n, _ :: bs => headEndFrom (n + 1) bs
  | _, [] => none

/-- The length of the head at the start of a buffer, if its end is there. -/
def headLength? (buffer : Bytes) : Option Nat := headEndFrom 0 buffer

/-- The words of the request line, understood. -/
structure RequestLine where
  /-- The method. -/
  method : Method
  /-- The target as written. -/
  target : String
  /-- The version as written. -/
  version : String

/-- How a supported version begins. -/
def versionStart : List Char := "HTTP/1.".toList

/-- Reads a request line: three words, of which the last is a supported version and the first a
recognised method. -/
def RequestLine.read (line : List Char) : Except ReadError RequestLine :=
  match words line with
  | [m, t, v] =>
    if versionStart.isPrefixOf v then
      match Method.ofToken? (String.ofList m) with
      | some method =>
        .ok { method := method, target := String.ofList t, version := String.ofList v }
      | none => .error .unknownMethod
    else .error .badRequestLine
  | _ => .error .badRequestLine

/-- Reads a header line: a name before the first colon and a value after it, both trimmed. -/
def readHeaderLine (line : List Char) : Except ReadError (String × String) :=
  match cut? ':' line with
  | none => .error .badHeader
  | some (name, value) =>
    let name := trimBlanks name
    if name = [] ∨ name.any isBlank then .error .badHeader
    else .ok (String.ofList name, String.ofList (trimBlanks value))

/-- Reads header lines from top to bottom; empty lines are skipped. -/
def readHeaderLines : List (List Char) → Except ReadError (List (String × String))
  | [] => .ok []
  | [] :: lines => readHeaderLines lines
  | line :: lines =>
    match readHeaderLine line with
    | .error e => .error e
    | .ok field =>
      match readHeaderLines lines with
      | .error e => .error e
      | .ok fields => .ok (field :: fields)

/-! ### The length of the body -/

/-- The numbers that a length must stay below: those of eight bytes. -/
def lengthLimit : Nat := 18446744073709551616

/-- The declared length of the body: that of the `Content-Length` field, and zero without one.
A body in a transfer encoding is refused, since its end could not be found.  Of several fields with
that name, in different letter case, the one that comes first declares the length. -/
def bodyLength (order : FieldOrder) (headers : Headers) : Except ReadError Nat :=
  if Headers.has headers "Transfer-Encoding" then .error .unsupportedEncoding
  else
    match Headers.find? order headers "Content-Length" with
    | none => .ok 0
    | some v =>
      match readDecimal? lengthLimit v.toList with
      | some n => if n ≤ maxBodySize then .ok n else .error .bodyTooLarge
      | none => .error .badLength

/-! ### Whole requests -/

/-- A head, read. -/
structure RequestHead where
  /-- The request line. -/
  line : RequestLine
  /-- The header fields. -/
  headers : Headers
  /-- The length of the body that follows. -/
  bodyLength : Nat

/-- Reads the bytes before the empty line. -/
def RequestHead.read (order : FieldOrder) (head : Bytes) : Except ReadError RequestHead :=
  match Utf8.decode? head with
  | none => .error .badRequestLine
  | some text =>
    match crlfLines text.toList with
    | [] => .error .badRequestLine
    | first :: rest =>
      match RequestLine.read first with
      | .error e => .error e
      | .ok line =>
        match readHeaderLines rest with
        | .error e => .error e
        | .ok fields =>
          match PreviewServer.bodyLength order (Dict.ofList fields) with
          | .error e => .error e
          | .ok n => .ok { line := line, headers := Dict.ofList fields, bodyLength := n }

/-- Reads the request at the start of a buffer, together with the number of bytes it takes, when its
fields come in this order. -/
def Request.read (order : FieldOrder) (buffer : Bytes) : Except ReadError (Request × Nat) :=
  match headLength? buffer with
  | none => if maxHeadSize < buffer.length then .error .headTooLarge else .error .incomplete
  | some n =>
    if maxHeadSize < n then .error .headTooLarge
    else
      -- The head is judged as a whole before the body is waited for.
      match RequestHead.read order (buffer.take n) with
      | .error e => .error e
      | .ok head =>
        let rest := buffer.drop (n + 4)
        if rest.length < head.bodyLength then .error .incomplete
        else
          .ok ({ method := head.line.method, target := head.line.target,
                 version := head.line.version, headers := head.headers,
                 body := rest.take head.bodyLength }, n + 4 + head.bodyLength)

/-! ### What was consumed -/

theorem headEndFrom_le {n m : Nat} {bs : Bytes} (h : headEndFrom n bs = some m) :
    n ≤ m ∧ m + 4 ≤ n + bs.length := by
  fun_induction headEndFrom n bs with
  | case1 n bs => simp at h; subst h; simp
  | case2 n b bs _ ih => have := ih h; simp only [List.length_cons]; omega
  | case3 => simp at h

/-- The head and the empty line after it lie within the buffer. -/
theorem headLength?_le {n : Nat} {buffer : Bytes} (h : headLength? buffer = some n) :
    n + 4 ≤ buffer.length := by
  have := headEndFrom_le h
  omega

/-- A request takes at least one byte, and none beyond the buffer. -/
theorem Request.read_consumed {order : FieldOrder} {buffer : Bytes} {r : Request} {n : Nat}
    (h : Request.read order buffer = .ok (r, n)) : 0 < n ∧ n ≤ buffer.length := by
  unfold Request.read at h
  split at h
  · split at h <;> simp at h
  · rename_i m hm
    have hle := headLength?_le hm
    split at h
    · simp at h
    · split at h
      · simp at h
      · rename_i head _
        dsimp only at h
        split at h
        · simp at h
        · rename_i hlen
          simp only [Except.ok.injEq, Prod.mk.injEq] at h
          obtain ⟨-, rfl⟩ := h
          simp only [List.length_drop] at hlen
          omega

end PreviewServer
