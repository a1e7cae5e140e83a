import PreviewServer.Proofs.FieldOrders
import PreviewServer.Proofs.HeadEnd

/-!
# Verdicts are final, with one gap

A verdict on a buffer other than `incomplete` should stand whatever arrives behind the buffer: a
request stays the same request (`Request.read_append_ok`), and a fault stays the same fault.  All
verdicts on a head whose end is in sight are final (`Request.read_append`).

The size limit leaves a gap.  It is applied to the length of the head when its end is there, and to
the length of the whole buffer when it is not.  A buffer that is cut inside the empty line behind a
head of at most `maxHeadSize` bytes, and is itself longer than that, is refused although its head
is within the limit (`CutAtLimit`).  `read_append_eq_iff` says that nothing else goes wrong.
-/

namespace PreviewServer

/-! ### The faults of a head -/

/-- Faults found in the text of a head: the size limits of the head and of the buffer are judged
elsewhere. -/
def ReadError.IsTextual (e : ReadError) : Prop := e ≠ .headTooLarge ∧ e ≠ .incomplete

theorem RequestLine.isTextual_of_read {line : List Char} {e : ReadError}
    (h : RequestLine.read line = .error e) : e.IsTextual := by
  unfold RequestLine.read at h
  (repeat' split at h) <;> cases h <;> exact ⟨nofun, nofun⟩

theorem isTextual_of_readHeaderLine {line : List Char} {e : ReadError}
    (h : readHeaderLine line = .error e) : e.IsTextual := by
  unfold readHeaderLine at h
  dsimp only at h
  (repeat' split at h) <;> cases h <;> exact ⟨nofun, nofun⟩

theorem isTextual_of_readHeaderLines {lines : List (List Char)} {e : ReadError}
    (h : readHeaderLines lines = .error e) : e.IsTextual := by
  fun_induction readHeaderLines lines with
  | case1 => cases h
  | case2 lines ih => exact ih h
  | case3 line lines _ e' he => cases h; exact isTextual_of_readHeaderLine he
  | case4 line lines _ field _ e' he ih => cases h; exact ih he
  | case5 => cases h

theorem isTextual_of_bodyLength {order : FieldOrder} {headers : Headers} {e : ReadError}
    (h : bodyLength order headers = .error e) : e.IsTextual := by
  unfold bodyLength at h
  (repeat' split at h) <;> cases h <;> exact ⟨nofun, nofun⟩

/-- Reading a head never comes to a verdict on its size, and never waits for more. -/
theorem RequestHead.isTextual_of_read {order : FieldOrder} {head : Bytes} {e : ReadError}
    (h : RequestHead.read order head = .error e) : e.IsTextual := by
  unfold RequestHead.read at h
  split at h
  · cases h; exact ⟨nofun, nofun⟩
  · split at h
    · cases h; exact ⟨nofun, nofun⟩
    · split at h
      · rename_i hl; cases h; exact RequestLine.isTextual_of_read hl
      · split at h
        · rename_i hf; cases h; exact isTextual_of_readHeaderLines hf
        · split at h
          · rename_i hb; cases h; exact isTextual_of_bodyLength hb
          · cases h

/-! ### The size of the head -/

namespace Request

variable (order : FieldOrder)

/-- Without an end in sight a buffer is refused as soon as it is over the limit. -/
theorem read_of_headLength?_eq_none {b : Bytes} (h : headLength? b = none) :
    read order b = .error (if maxHeadSize < b.length then .headTooLarge else .incomplete) := by
  unfold read
  rw [h]
  exact (apply_ite Except.error _ _ _).symm

/-- A head over the limit is refused. -/
theorem read_of_maxHeadSize_lt {b : Bytes} {n : Nat} (h : headLength? b = some n)
    (hn : maxHeadSize < n) : read order b = .error .headTooLarge := by
  unfold read
  rw [h]
  exact if_pos hn

/-- A head within the limit whose end is in sight is not refused for its size. -/
theorem read_ne_headTooLarge {b : Bytes} {n : Nat} (h : headLength? b = some n)
    (hn : n ≤ maxHeadSize) : read order b ≠ .error .headTooLarge := by
  intro hr
  unfold read at hr
  rw [h] at hr
  dsimp only at hr
  rw [if_neg (by omega)] at hr
  split at hr
  · rename_i e he
    cases hr
    exact (RequestHead.isTextual_of_read he).1 rfl
  · split at hr <;> cases hr

/-! ### More bytes -/

variable {order}

/-- **Once the end of the head is in sight a verdict is final.** -/
theorem read_append {b : Bytes} {n : Nat} (h : headLength? b = some n)
    (hr : read order b ≠ .error .incomplete) (x : Bytes) :
    read order (b ++ x) = read order b := by
  have hle := headLength?_le h
  have hx := headLength?_append h x
  unfold read at hr ⊢
  rw [h] at hr
  rw [h, hx]
  dsimp only at hr ⊢
  -- The head is the same bytes, and what follows it has only grown.
  rw [List.take_append_of_le_length (by omega), List.drop_append_of_le_length hle]
  by_cases hn : maxHeadSize < n
  · rw [if_pos hn, if_pos hn]
  · rw [if_neg hn] at hr ⊢
    rw [if_neg hn]
    cases hh : RequestHead.read order (b.take n) with
    | error e => rfl
    | ok head =>
      rw [hh] at hr
      dsimp only at hr ⊢
      by_cases hlen : (b.drop (n + 4)).length < head.bodyLength
      · rw [if_pos hlen] at hr
        exact absurd rfl hr
      · rw [if_neg hlen, if_neg (by rw [List.length_append]; omega),
          List.take_append_of_le_length (by omega)]

/-- **A request that was read stays the same request.** -/
theorem read_append_ok {b : Bytes} {r : Request} {n : Nat} (h : read order b = .ok (r, n))
    (x : Bytes) : read order (b ++ x) = .ok (r, n) := by
  cases hm : headLength? b with
  | none =>
    rw [read_of_headLength?_eq_none order hm] at h
    cases h
  | some m =>
    rw [read_append hm (by rw [h]; nofun), h]

end Request

/-! ### The gap at the limit -/

/-- The bytes `b`, before which nothing is missing and behind which `x` is to come, are over the
limit of a head, but the head that they begin is not: they end inside the empty line behind it. -/
def CutAtLimit (b x : Bytes) : Prop :=
  maxHeadSize < b.length ∧ ∃ n ≤ maxHeadSize, headLength? (b ++ x) = some n ∧ b.length < n + 4

/-- A buffer that is cut at the limit is refused. -/
theorem CutAtLimit.read {b x : Bytes} (h : CutAtLimit b x) (order : FieldOrder) :
    Request.read order b = .error .headTooLarge := by
  obtain ⟨hlen, n, -, hx, hlt⟩ := h
  rw [Request.read_of_headLength?_eq_none order ((headLength?_eq_none_iff_of_append hx).mpr hlt),
    if_pos hlen]

/-- With the rest of the empty line it is not. -/
theorem CutAtLimit.read_append_ne {b x : Bytes} (h : CutAtLimit b x) (order : FieldOrder) :
    Request.read order (b ++ x) ≠ .error .headTooLarge := by
  obtain ⟨-, n, hn, hx, -⟩ := h
  exact Request.read_ne_headTooLarge order hx hn

/-- A verdict other than `incomplete` is final unless the buffer is cut at the limit. -/
theorem read_append_of_not_cutAtLimit {order : FieldOrder} {b x : Bytes} (h : ¬ CutAtLimit b x)
    (hr : Request.read order b ≠ .error .incomplete) :
    Request.read order (b ++ x) = Request.read order b := by
  cases hb : headLength? b with
  | some n => exact Request.read_append hb hr x
  | none =>
    -- Without an end in sight the verdict can only be that the head is too large.
    have hread := Request.read_of_headLength?_eq_none order hb
    have hlen : maxHeadSize < b.length := by
      by_contra hle
      rw [if_neg hle] at hread
      exact hr hread
    rw [hread, if_pos hlen]
    cases hx : headLength? (b ++ x) with
    | none =>
      rw [Request.read_of_headLength?_eq_none order hx,
        if_pos (by rw [List.length_append]; omega)]
    | some n =>
      apply Request.read_of_maxHeadSize_lt order hx
      by_contra hn
      exact h ⟨hlen, n, by omega, hx, (headLength?_eq_none_iff_of_append hx).mp hb⟩

/-- A verdict on a buffer that is cut at the limit is not final, in whatever orders it is read. -/
theorem CutAtLimit.not_final {b x : Bytes} (h : CutAtLimit b x) (order order' : FieldOrder) :
    ¬ (Request.read order b ≠ .error .incomplete →
      Request.read order' (b ++ x) = Request.read order b) := by
  intro hfinal
  have hb := h.read order
  have hx := hfinal (by rw [hb]; nofun)
  rw [hb] at hx
  exact h.read_append_ne order' hx

/-- **When verdicts are final.**  A request stays the same request and a fault the same fault,
whatever arrives, exactly when the buffer is not cut at the limit; if different names on its header
lines differ in more than the case of letters, also when the fields come in another order the next
time.  And that is the only way in which a head within the limit is refused for its size. -/
theorem read_append_eq_iff (b x : Bytes) :
    (∀ order, (Request.read order b ≠ .error .incomplete →
        Request.read order (b ++ x) = Request.read order b) ↔ ¬ CutAtLimit b x) ∧
    (Request.NamesDiffer b → ∀ order order', (Request.read order b ≠ .error .incomplete →
        Request.read order' (b ++ x) = Request.read order b) ↔ ¬ CutAtLimit b x) ∧
    ∀ order, ∀ n ≤ maxHeadSize, headLength? (b ++ x) = some n →
      (Request.read order b = .error .headTooLarge ↔ CutAtLimit b x) := by
  refine ⟨fun order => ⟨?_, ?_⟩, fun hnames order order' => ⟨?_, ?_⟩, fun order n hn hx => ⟨?_, ?_⟩⟩
  · exact fun hfinal hcut => hcut.not_final order order hfinal
  · exact fun hcut hr => read_append_of_not_cutAtLimit hcut hr
  · exact fun hfinal hcut => hcut.not_final order order' hfinal
  · intro hcut hr
    rw [Request.read_eq_read hnames order order'] at hr ⊢
    exact read_append_of_not_cutAtLimit hcut hr
  · intro hb
    by_contra hcut
    have hfinal := read_append_of_not_cutAtLimit hcut (by rw [hb]; nofun)
    rw [hb] at hfinal
    exact Request.read_ne_headTooLarge order hx hn hfinal
  · exact fun hcut => hcut.read order

/-! ### A request at the limit -/

/-- The request line that asks for `target`. -/
def getLine (target : List Char) : List Char :=
  "GET".toList ++ ' ' :: (target ++ ' ' :: "HTTP/1.1".toList)

/-- The request that consists of `getLine target`. -/
def getRequest (target : List Char) : Request :=
  { method := .get, target := String.ofList target, version := "HTTP/1.1", headers := Dict.empty,
    body := [] }

/-- A path of `n + 1` characters. -/
def longPath (n : Nat) : List Char := '/' :: List.replicate n 'a'

theorem isBlank_of_mem_longPath {n : Nat} : ∀ c ∈ longPath n, isBlank c = false := by
  intro c hc
  rcases List.mem_cons.mp hc with rfl | hc
  · decide
  · rw [List.eq_of_mem_replicate hc]
    decide

theorem RequestHead.read_getLine (order : FieldOrder) {target : List Char} (hne : target ≠ [])
    (hblank : ∀ c ∈ target, isBlank c = false) :
    RequestHead.read order (Utf8.encode (String.ofList (getLine target))) =
      .ok { line := { method := .get, target := String.ofList target, version := "HTTP/1.1" },
            headers := Dict.empty, bodyLength := 0 } := by
  have hget : ∀ c ∈ "GET".toList, isBlank c = false := isBlank_eq_false_of_any (by decide)
  have hversion : ∀ c ∈ "HTTP/1.1".toList, isBlank c = false := isBlank_eq_false_of_any (by decide)
  have hwords : words (getLine target) = ["GET".toList, target, "HTTP/1.1".toList] := by
    rw [getLine, words_append_cons (by decide) hget (by decide),
      words_append_cons hne hblank (by decide), words_of_isBlank_eq_false (by decide) hversion]
  have hr : '\r' ∉ getLine target := by
    rw [getLine, List.mem_append, List.mem_cons, List.mem_append, List.mem_cons]
    rintro (h | h | h | h | h)
    · revert h; decide
    · revert h; decide
    · exact absurd (hblank _ h) (by decide)
    · revert h; decide
    · revert h; decide
  have hlines : crlfLines (String.ofList (getLine target)).toList = [getLine target] := by
    rw [String.toList_ofList, crlfLines_of_not_mem hr]
  have hline : RequestLine.read (getLine target) =
      .ok { method := .get, target := String.ofList target, version := "HTTP/1.1" } := by
    rw [RequestLine.read, hwords]
    rfl
  exact RequestHead.read_of_lines hlines hline rfl (Headers.bodyLength_empty order)

/-- The bytes of the request line for a long path. -/
def longHead (n : Nat) : Bytes := Utf8.encode (String.ofList (getLine (longPath n)))

theorem longHead_eq (n : Nat) :
    longHead n = Utf8.encode "GET /" ++ List.replicate n 97 ++ Utf8.encode " HTTP/1.1" := by
  have hline : getLine (longPath n) =
      "GET /".toList ++ (List.replicate n 'a' ++ " HTTP/1.1".toList) := rfl
  have ha : (List.replicate n 'a').flatMap String.utf8EncodeChar = List.replicate n 97 := by
    rw [List.flatMap_replicate, show String.utf8EncodeChar 'a' = [97] by decide,
      List.flatten_replicate_singleton]
  rw [longHead, hline, String.ofList_append, String.ofList_append, Utf8.encode_append,
    Utf8.encode_append, String.ofList_toList, String.ofList_toList,
    Utf8.encode_ofList (List.replicate n 'a'), ha, List.append_assoc]

theorem length_longHead (n : Nat) : (longHead n).length = n + 14 := by
  rw [longHead_eq, List.length_append, List.length_append, List.length_replicate,
    show (Utf8.encode "GET /").length = 5 by decide,
    show (Utf8.encode " HTTP/1.1").length = 9 by decide]
  omega

theorem not_mem_longHead (n : Nat) : (13 : UInt8) ∉ longHead n := by
  rw [longHead_eq, List.mem_append, List.mem_append, List.mem_replicate]
  rintro ((h | ⟨-, h⟩) | h)
  all_goals revert h; decide

theorem headLength?_longHead (n : Nat) :
    headLength? (longHead n ++ [13] ++ [10, 13, 10]) = some (n + 14) := by
  have h := headLength?_of_not_mem (not_mem_longHead n) []
  rw [length_longHead, List.append_nil] at h
  rw [List.append_assoc]
  exact h

/-- A request line within the limit, with the empty line behind it, is read. -/
theorem Request.read_longHead (order : FieldOrder) {n : Nat} (hn : n + 14 ≤ maxHeadSize) :
    Request.read order (longHead n ++ [13] ++ [10, 13, 10]) =
      .ok (getRequest (longPath n), n + 14 + 4) := by
  have htake : (longHead n ++ [13] ++ [10, 13, 10]).take (n + 14) = longHead n := by
    rw [List.append_assoc, ← length_longHead, List.take_left]
  have hdrop : (longHead n ++ [13] ++ [10, 13, 10]).drop (n + 14 + 4) = [] := by
    rw [List.drop_eq_nil_iff, List.length_append, List.length_append, length_longHead]
    exact Nat.le_refl _
  have hread : RequestHead.read order (longHead n) =
      .ok { line := { method := .get, target := String.ofList (longPath n), version := "HTTP/1.1" },
            headers := Dict.empty, bodyLength := 0 } :=
    RequestHead.read_getLine order (List.cons_ne_nil _ _) isBlank_of_mem_longPath
  unfold Request.read
  rw [headLength?_longHead]
  dsimp only
  rw [if_neg (by omega), htake, hread, hdrop]
  rfl

/-- **A verdict that is not final.**  A request whose head is as long as the limit allows is refused
when one byte of the empty line behind it has arrived, and read when the other three are there. -/
theorem read_longHead_cut :
    (∀ order, Request.read order (longHead 16370 ++ [13]) = .error .headTooLarge) ∧
    ∀ order, Request.read order (longHead 16370 ++ [13] ++ [10, 13, 10]) =
      .ok (getRequest (longPath 16370), 16388) := by
  constructor
  · apply CutAtLimit.read (x := [10, 13, 10])
    refine ⟨?_, 16384, Nat.le_refl _, headLength?_longHead 16370, ?_⟩
    all_goals
      rw [List.length_append, length_longHead]
      decide
  · exact fun order => Request.read_longHead order (Nat.le_refl _)

end PreviewServer
