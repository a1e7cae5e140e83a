import PreviewServer.Proofs.Chunking
import PreviewServer.Proofs.RequestFormat
import PreviewServer.Proofs.Sessions

/-!
# Bounds on what is buffered

A buffer is waited for only as long as it can still become a request within the limits, so it has
at most `maxAwaited` bytes (`Request.length_le_of_incomplete`).  Three limits work together there:
one on the buffer while the end of the head is not in sight, one on the head when it is, and one on
the length that the head declares, before the body has arrived.

A request that was read took at least `minRequestSize` bytes, since its head holds three words
(`Request.minRequestSize_le_of_read`), and so a buffer holds only so many requests
(`length_requests_intake_le`).

For a whole connection `Session.Bounded` is carried through the steps of the machine
(`Session.Bounded.step`) and from there to all runs (`Session.Bounded.run`).
-/

namespace PreviewServer

/-- The longest buffer that is waited for: a head at its limit, the empty line, and a body at its
limit that lacks a byte. -/
def maxAwaited : Nat := maxHeadSize + 3 + maxBodySize

/-- The size of the shortest request, which is `GET / HTTP/1.` with an empty line behind it. -/
def minRequestSize : Nat := 17

/-! ### The length of a text -/

theorem length_le_textSize (cs : List Char) : cs.length ≤ textSize cs := by
  induction cs with
  | nil => exact Nat.zero_le _
  | cons c cs ih =>
    have hc := Char.utf8Size_pos c
    rw [textSize_cons, List.length_cons]
    omega

/-- The length that a head declares is within its limit as soon as the head was read. -/
theorem RequestHead.bodyLength_le_of_read {order : FieldOrder} {bytes : Bytes} {head : RequestHead}
    (h : RequestHead.read order bytes = .ok head) : head.bodyLength ≤ maxBodySize := by
  obtain ⟨-, -, -, -, -, -, -, -, -, hbody⟩ := RequestHead.of_read h
  exact (Request.declares_of_bodyLength hbody).2.1

namespace Request

variable {order : FieldOrder} {b : Bytes} {r : Request} {n : Nat}

theorem three_le_length_token (m : Method) : 3 ≤ m.token.toList.length := by
  cases m <;> decide

/-! ### What is waited for -/

/-- **When more bytes are waited for.**  The end of the head is not in sight and the buffer is
within the limit of a head, or a head within its limit was read and its body is not there. -/
theorem read_eq_incomplete_iff :
    read order b = .error .incomplete ↔
      (headLength? b = none ∧ b.length ≤ maxHeadSize) ∨
      ∃ m head, headLength? b = some m ∧ m ≤ maxHeadSize ∧
        RequestHead.read order (b.take m) = .ok head ∧ b.length < m + 4 + head.bodyLength := by
  cases hm : headLength? b with
  | none =>
    rw [read_of_headLength?_eq_none order hm]
    split
    · rename_i hlen
      simp only [reduceCtorEq, false_and, exists_false, or_false, true_and, Except.error.injEq,
        false_iff]
      omega
    · rename_i hlen
      simp only [reduceCtorEq, false_and, exists_false, or_false, true_and, true_iff]
      omega
  | some m =>
    have hle := headLength?_le hm
    constructor
    · intro h
      refine .inr ⟨m, ?_⟩
      unfold read at h
      rw [hm] at h
      dsimp only at h
      split at h
      · cases h
      · rename_i hsize
        split at h
        · -- A fault in the text of the head is never that more is awaited.
          rename_i e he
          cases h
          exact absurd rfl (RequestHead.isTextual_of_read he).2
        · rename_i head hhead
          split at h
          · rename_i hlen
            rw [List.length_drop] at hlen
            exact ⟨head, rfl, by omega, hhead, by omega⟩
          · cases h
    · rintro (⟨hnone, -⟩ | ⟨m', head, hm', hsize, hhead, hlen⟩)
      · cases hnone
      · obtain rfl := Option.some.inj hm'
        unfold read
        rw [hm]
        dsimp only
        rw [if_neg (by omega), hhead]
        dsimp only
        rw [if_pos (by rw [List.length_drop]; omega)]

/-- **A buffer that is waited for is bounded.** -/
theorem length_le_of_incomplete (h : read order b = .error .incomplete) :
    b.length ≤ maxAwaited := by
  unfold maxAwaited
  rcases read_eq_incomplete_iff.mp h with ⟨-, hlen⟩ | ⟨m, head, -, hsize, hhead, hlen⟩
  · omega
  · have hbody := RequestHead.bodyLength_le_of_read hhead
    omega

/-! ### What is taken -/

/-- A request line has three words, of which none is empty. -/
theorem textSize_writtenLine_ge (h : read order b = .ok (r, n)) : 13 ≤ textSize r.writtenLine := by
  obtain ⟨line, hwords, hversion⟩ := exists_words_of_read h
  have htoken := three_le_length_token r.method
  have htarget : r.target.toList ≠ [] :=
    (mem_words (hwords ▸ List.mem_cons_of_mem _ List.mem_cons_self)).1
  have hpos := List.length_pos_iff.mpr htarget
  have hstart : versionStart.length = 7 := rfl
  have hlen := hversion.length_le
  have hline := length_le_textSize r.writtenLine
  rw [writtenLine, List.length_append, List.length_cons, List.length_append, List.length_cons]
    at hline
  unfold writtenLine
  omega

/-- **Where the bytes of a request lie.**  They are its head, the empty line and its body, which is
as long as the fields declare; nothing of it lies behind the buffer, and all limits are kept. -/
theorem bounds_of_read (h : read order b = .ok (r, n)) :
    (∃ head, b.take n = head ++ emptyLine ++ r.body ∧ head.length ≤ maxHeadSize ∧
      n = head.length + 4 + r.body.length) ∧
    bodyLength order r.headers = .ok r.body.length ∧ r.body.length ≤ maxBodySize ∧
    minRequestSize ≤ n ∧ n ≤ b.length := by
  have hdeclared := bodyLength_headers_of_read h
  have hline := textSize_writtenLine_ge h
  obtain ⟨m', -, hn', -, -, hsize⟩ := exists_textSize_le_of_read h
  obtain ⟨m, head, hm, hmax, -, hlen, hn, hr⟩ := of_read h
  have hbody : r.body = (b.drop (m + 4)).take head.bodyLength := by rw [hr]
  have hlength : r.body.length = head.bodyLength := by
    rw [hbody, List.length_take, List.length_drop]
    omega
  obtain rfl : m' = m := by omega
  have hempty : (b.drop m').take 4 = emptyLine :=
    (List.prefix_iff_eq_take.mp (headLength?_eq_some_iff.mp hm).1).symm
  have hhead : (b.take m').length = m' := by
    rw [List.length_take]
    omega
  refine ⟨⟨b.take m', ?_, by omega, by omega⟩, hdeclared, (declares_of_bodyLength hdeclared).2.1,
    ?_, by omega⟩
  · rw [hn, hbody, List.take_add, List.take_add, hempty]
  · unfold minRequestSize
    omega

/-- The number of bytes that a request took is far below the greatest one of eight bytes. -/
theorem lt_lengthLimit_of_le (h : n ≤ maxHeadSize + 4 + maxBodySize) : n < lengthLimit :=
  Nat.lt_of_le_of_lt h (by decide)

end Request

/-! ### Requests in a buffer -/

/-- The requests that are taken off a buffer and the bytes that are left have room in it. -/
theorem length_requests_add_length_pending_le (order : FieldOrder) (b : Bytes) :
    minRequestSize * (intake order b).requests.length + (intake order b).pending.length ≤
      b.length := by
  fun_induction intake order b with
  | case1 b e h => rw [List.length_nil, Nat.mul_zero, Nat.zero_add]
  | case2 b r n h rest ih =>
    obtain ⟨-, -, -, hmin, hle⟩ := Request.bounds_of_read h
    have hrest : rest = intake order (b.drop n) := rfl
    rw [← hrest, List.length_drop] at ih
    dsimp only
    rw [List.length_cons, Nat.mul_succ]
    omega

/-- **A buffer holds only so many requests.** -/
theorem length_requests_intake_le (order : FieldOrder) (b : Bytes) :
    (intake order b).requests.length ≤ b.length / minRequestSize := by
  have hroom := length_requests_add_length_pending_le order b
  rw [Nat.le_div_iff_mul_le (by decide), Nat.mul_comm]
  omega

/-! ### Whole connections -/

namespace Session

/-- Whether a connection holds no more than what is waited for and one chunk, when the chunks have
at most `size` bytes. -/
structure Bounded (size : Nat) (s : Session) : Prop where
  /-- The buffer is within the bound. -/
  buffer_le : s.buffer.length ≤ maxAwaited + size
  /-- The chunks still to arrive have at most that size. -/
  incoming_le : ∀ chunk ∈ s.incoming, chunk.length ≤ size

variable {order : FieldOrder} {respond : Request → Option Response} {size : Nat} {s : Session}

theorem bounded_opened {chunks : List Bytes} (h : ∀ chunk ∈ chunks, chunk.length ≤ size) :
    (opened chunks).Bounded size :=
  { buffer_le := Nat.zero_le _
    incoming_le := h }

/-- **A step keeps the bounds.**  The buffer grows only when the bytes in it were not yet a
request, and then by one chunk. -/
theorem Bounded.step (h : s.Bounded size) : (s.step order respond).Bounded size := by
  obtain ⟨activity, buffer, incoming, sent⟩ := s
  obtain ⟨hbuffer, hincoming⟩ := h
  dsimp only at hbuffer hincoming
  cases activity with
  | reading =>
    unfold Session.step
    dsimp only
    split
    · refine ⟨?_, hincoming⟩
      rw [List.length_drop]
      omega
    · rename_i hwait
      split
      · exact ⟨hbuffer, hincoming⟩
      · rename_i chunk chunks
        have hawaited := Request.length_le_of_incomplete hwait
        have hchunk := hincoming chunk List.mem_cons_self
        refine ⟨?_, fun c hc => hincoming c (List.mem_cons_of_mem _ hc)⟩
        rw [List.length_append]
        omega
    · exact ⟨hbuffer, hincoming⟩
  | processing r =>
    unfold Session.step
    dsimp only
    split
    · exact ⟨hbuffer, hincoming⟩
    · exact ⟨hbuffer, hincoming⟩
  | writing reply keepAlive => exact ⟨hbuffer, hincoming⟩
  | closed => exact ⟨hbuffer, hincoming⟩
  | broken => exact ⟨hbuffer, hincoming⟩

/-- Nothing that a client sends lets a connection hold more. -/
theorem Bounded.run (h : s.Bounded size) (k : Nat) : (run order respond k s).Bounded size := by
  induction k with
  | zero => exact h
  | succ k ih =>
    rw [Session.run, Function.iterate_succ_apply']
    exact ih.step

end Session

/-- **Buffers stay bounded, and every request is progress.**  What is waited for is within the
limits of a head and a body.  The end of a head lies within the buffer, and so does all of a request
that was read: its head, the empty line and a body as long as it was declared; the limits are kept,
and no number of bytes comes near the greatest one of eight bytes.  A request takes at least
`minRequestSize` bytes, so there are only so many in a buffer; and whatever arrives on a connection,
it never holds more than what is waited for and one chunk. -/
theorem buffer_bounds :
    (∀ (order : FieldOrder) (b : Bytes), Request.read order b = .error .incomplete →
      b.length ≤ maxAwaited) ∧
    (∀ (b : Bytes) (m : Nat), headLength? b = some m → m + 4 ≤ b.length) ∧
    (∀ (order : FieldOrder) (b : Bytes) (r : Request) (n : Nat),
      Request.read order b = .ok (r, n) →
        minRequestSize ≤ n ∧ n ≤ b.length ∧ n ≤ maxHeadSize + 4 + maxBodySize ∧ n < lengthLimit ∧
        r.body.length ≤ maxBodySize ∧ bodyLength order r.headers = .ok r.body.length ∧
        ∃ head, b.take n = head ++ emptyLine ++ r.body ∧ n = head.length + 4 + r.body.length) ∧
    (∀ (order : FieldOrder) (b : Bytes),
      (intake order b).requests.length ≤ b.length / minRequestSize) ∧
    ∀ (order : FieldOrder) (respond : Request → Option Response) (chunks : List Bytes)
      (size k : Nat), (∀ chunk ∈ chunks, chunk.length ≤ size) →
        (Session.run order respond k (.opened chunks)).buffer.length ≤ maxAwaited + size := by
  refine ⟨fun order b h => Request.length_le_of_incomplete h, fun b m h => headLength?_le h, ?_,
    length_requests_intake_le, ?_⟩
  · intro order b r n h
    obtain ⟨⟨head, htake, hhead, hn⟩, hdeclared, hbody, hmin, hle⟩ := Request.bounds_of_read h
    have hmax : n ≤ maxHeadSize + 4 + maxBodySize := by omega
    exact ⟨hmin, hle, hmax, Request.lt_lengthLimit_of_le hmax, hbody, hdeclared, head, htake, hn⟩
  · intro order respond chunks size k h
    exact ((Session.bounded_opened h).run k).buffer_le

/-- The shortest request. -/
def shortestBytes : Bytes := Utf8.encode "GET / HTTP/1.\r\n\r\n"

/-- The shortest request takes `minRequestSize` bytes, none fewer are enough, and a connection on
which it arrives in two pieces stays within the bounds. -/
theorem buffer_bounds_shortestBytes :
    Request.read .asSet (shortestBytes.take 16) = .error .incomplete ∧
    (shortestBytes.take 16).length ≤ maxAwaited ∧ 13 + 4 ≤ shortestBytes.length ∧
    (∃ r, Request.read .asSet shortestBytes = .ok (r, minRequestSize) ∧
      minRequestSize < lengthLimit ∧ bodyLength .asSet r.headers = .ok r.body.length) ∧
    (intake .asSet shortestBytes).requests.length ≤ 1 ∧
    (Session.run .asSet (fun _ => some .notFound) 2
      (.opened [shortestBytes.take 16, shortestBytes.drop 16])).buffer.length ≤ maxAwaited + 16 := by
  obtain ⟨hwait, hhead, hok, hcount, hrun⟩ := buffer_bounds
  have hread : Request.read .asSet shortestBytes =
      .ok ({ method := .get, target := "/", version := "HTTP/1.", headers := Dict.empty,
             body := [] }, 17) := rfl
  obtain ⟨-, -, -, hlt, -, hdeclared, -⟩ := hok _ _ _ _ hread
  exact ⟨rfl, hwait .asSet _ rfl, hhead _ 13 rfl, ⟨_, hread, hlt, hdeclared⟩,
    hcount .asSet shortestBytes, hrun _ _ _ 16 2 (by decide)⟩

end PreviewServer
