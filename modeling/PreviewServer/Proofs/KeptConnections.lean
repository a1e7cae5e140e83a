import PreviewServer.Proofs.ConnectionRun
import PreviewServer.Proofs.Outcome
import PreviewServer.Proofs.ResponseFraming

/-!
# Connections that are kept

Requests that are answered and keep a connection leave no trace on it.  When they have used up all
bytes that have arrived, the connection goes on like one that has just been opened: what it sends
for further bytes is what a fresh connection sends for them.  If one of them has no answer, nothing
is sent behind it (`transcript_append_of_keepAlive`).

The step is that an intake which uses up its buffer is followed by the intake of what comes behind
it (`intake_append_of_pending`).  The run is `Intake.total_feed_append`, by induction on the chunks;
what it carries is that the bytes left over are awaited to become a request, and that at the end
there are none.  The last chunk of the first bytes may go on with bytes of the others, since chunks
need not end where requests do.
-/

namespace PreviewServer

/-! ### Taking off what is behind -/

section Feeding

variable {order : FieldOrder}

/-- Only more bytes are awaited of a buffer that was used up. -/
theorem stop_of_pending_eq_nil {b : Bytes} (h : (intake order b).pending = []) :
    (intake order b).stop = .incomplete := by
  have hread := read_pending order b
  rw [h, read_nil] at hread
  exact (Except.error.inj hread).symm

/-- **One step.**  Behind a buffer that was used up the requests are taken off as if there had been
nothing. -/
theorem intake_append_of_pending {b : Bytes} (h : (intake order b).pending = []) (x : Bytes) :
    intake order (b ++ x) = (intake order x).after (intake order b).requests := by
  rw [intake_append, h, List.nil_append]

/-- Feeding one chunk comes to the intake with it. -/
theorem Intake.total_feed_singleton (start chunk : Bytes) :
    total start (feed order start [chunk]) = intake order (start ++ chunk) := by
  rw [feed, feed, ite_self]
  rfl

/-- **A run.**  When the bytes up to some place within a chunk are used up, feeding comes to their
requests, and behind them to what feeding the rest comes to by itself. -/
theorem Intake.total_feed_append (before : List Bytes) {start x : Bytes}
    (h : (total start (feed order start (before ++ [x]))).pending = []) (y : Bytes)
    (after : List Bytes) :
    total start (feed order start (before ++ (x ++ y) :: after)) =
      (ofChunks order (y :: after)).after
        (total start (feed order start (before ++ [x]))).requests := by
  induction before generalizing start with
  | nil =>
    rw [List.nil_append, total_feed_singleton] at h
    rw [List.nil_append, List.nil_append, total_feed_singleton, ofChunks]
    -- The first intake of the rest tells whether feeding goes on.
    have hchunk : intake order (start ++ (x ++ y)) =
        (intake order y).after (intake order (start ++ x)).requests := by
      rw [← List.append_assoc, intake_append_of_pending h]
    have hstop : (intake order (start ++ (x ++ y))).stop = (intake order ([] ++ y)).stop := by
      rw [hchunk]
      rfl
    by_cases hwait : (intake order ([] ++ y)).stop = .incomplete
    · rw [feed_cons_of_incomplete (hstop.trans hwait), total_cons (hstop.trans hwait),
        feed_cons_of_incomplete hwait, total_cons hwait, after_after, hchunk]
      rfl
    · have hfault : (intake order (start ++ (x ++ y))).stop ≠ .incomplete := by
        rw [hstop]
        exact hwait
      rw [feed_cons_of_ne hfault, feed_cons_of_ne hwait, hchunk]
      rfl
  | cons chunk before ih =>
    rw [List.cons_append] at h ⊢
    by_cases hwait : (intake order (start ++ chunk)).stop = .incomplete
    · rw [feed_cons_of_incomplete hwait, total_cons hwait] at h ⊢
      rw [List.cons_append, feed_cons_of_incomplete hwait, total_cons hwait, ih h, after_after]
      rfl
    · -- Bytes with a fault are not used up.
      rw [feed_cons_of_ne hwait] at h
      exact absurd (stop_of_pending_eq_nil h) hwait

/-- Chunks are used up if their bytes are, unless the size of a head is found too large. -/
theorem ofChunks_eq_intake_of_used {chunks : List Bytes}
    (hused : (intake order chunks.flatten).pending = [])
    (hstop : (Intake.ofChunks order chunks).stop ≠ .headTooLarge) :
    (Intake.ofChunks order chunks).requests = (intake order chunks.flatten).requests ∧
      (Intake.ofChunks order chunks).pending = [] := by
  have hcut : ¬ CutAtLimit (Intake.ofChunks order chunks).pending (unread order [] chunks) := by
    intro h
    have hread := read_pending_ofChunks order chunks
    rw [h.read] at hread
    exact hstop (Except.error.inj hread).symm
  obtain ⟨hrequests, -, hpending⟩ := ofChunks_eq_whole order chunks hcut
  rw [hpending, List.append_eq_nil_iff] at hused
  exact ⟨hrequests.symm, hused.1⟩

end Feeding

/-! ### Answers -/

section Answers

variable {order : FieldOrder} {rs : List Request} (respond : Request → Option Response)

/-- If requests keep the connection, what stands behind them comes behind their answers, unless one
of them has none. -/
theorem answers_of_keepAlive (h : rs.all (Request.keepAlive order)) (last : List Reply) :
    answers order respond rs last =
      answers order respond rs [] ++ if breaksDown order respond rs then [] else last := by
  induction rs with
  | nil => rfl
  | cons r rs ih =>
    rw [List.all_cons, Bool.and_eq_true] at h
    cases hr : respond r with
    | none => rw [answers_cons_of_none hr, answers_cons_of_none hr, breaksDown_cons_of_none hr]; rfl
    | some response =>
      rw [answers_cons_of_some hr, answers_cons_of_some hr, breaksDown_cons_of_some hr,
        if_pos h.1, if_pos h.1, h.1, Bool.true_and, ih h.2, List.cons_append]

/-- There are as many answers as requests that keep the connection, if none is without answer. -/
theorem length_answers_of_keepAlive (h : rs.all (Request.keepAlive order))
    (hanswered : breaksDown order respond rs = false) :
    (answers order respond rs []).length = rs.length := by
  induction rs with
  | nil => rfl
  | cons r rs ih =>
    rw [List.all_cons, Bool.and_eq_true] at h
    cases hr : respond r with
    | none =>
      rw [breaksDown_cons_of_none hr] at hanswered
      cases hanswered
    | some response =>
      rw [breaksDown_cons_of_some hr, h.1, Bool.true_and] at hanswered
      rw [answers_cons_of_some hr, if_pos h.1, List.length_cons, List.length_cons,
        ih h.2 hanswered]

/-- What is sent for chunks that are used up are the answers to their requests. -/
theorem converse_of_used {chunks : List Bytes}
    (hused : (Intake.ofChunks order chunks).pending = []) :
    converse order respond [] chunks =
      answers order respond (Intake.ofChunks order chunks).requests [] := by
  have hread := read_pending_ofChunks order chunks
  rw [hused, read_nil] at hread
  rw [converse_eq_replies_ofChunks, Intake.replies, ← Except.error.inj hread]
  rfl

/-- **What comes behind requests that keep the connection is answered by itself**, unless one of
them has no answer. -/
theorem converse_append_of_used (before : List Bytes) {x : Bytes}
    (hused : (Intake.ofChunks order (before ++ [x])).pending = [])
    (hkeep : (Intake.ofChunks order (before ++ [x])).requests.all (Request.keepAlive order))
    (y : Bytes) (after : List Bytes) :
    converse order respond [] (before ++ (x ++ y) :: after) =
      converse order respond [] (before ++ [x]) ++
        if breaksDown order respond (Intake.ofChunks order (before ++ [x])).requests then []
        else converse order respond [] (y :: after) := by
  have hfed : Intake.ofChunks order (before ++ (x ++ y) :: after) =
      (Intake.ofChunks order (y :: after)).after
        (Intake.ofChunks order (before ++ [x])).requests :=
    Intake.total_feed_append before hused y after
  rw [converse_of_used respond hused, converse_eq_replies_ofChunks, converse_eq_replies_ofChunks,
    hfed, Intake.replies_after, answers_of_keepAlive respond hkeep]

/-- **The bytes that are sent**, when the responses are written with their fields in these orders.
The answers to the requests behind are the later ones. -/
theorem transcript_append_of_used (before : List Bytes) {x : Bytes}
    (hused : (Intake.ofChunks order (before ++ [x])).pending = [])
    (hkeep : (Intake.ofChunks order (before ++ [x])).requests.all (Request.keepAlive order))
    (written : Nat → FieldOrder) (y : Bytes) (after : List Bytes) :
    transcript order written respond (before ++ (x ++ y) :: after) =
      transcript order written respond (before ++ [x]) ++
        if breaksDown order respond (Intake.ofChunks order (before ++ [x])).requests then []
        else transcript order
          (.after (Intake.ofChunks order (before ++ [x])).requests.length written) respond
          (y :: after) := by
  unfold transcript
  rw [converse_append_of_used respond before hused hkeep, Reply.stream_append]
  cases hanswered : breaksDown order respond (Intake.ofChunks order (before ++ [x])).requests with
  | true => rfl
  | false =>
    have hlength := length_answers_of_keepAlive respond hkeep hanswered
    rw [← converse_of_used respond hused] at hlength
    rw [hlength]
    rfl

end Answers

variable (order : FieldOrder) (respond : Request → Option Response)

/-- **Requests on a kept connection do not influence each other if they are answered.**  If requests
that keep the connection use up some bytes, then what is sent for these bytes with others behind
them is what is sent for them alone, followed by what a fresh connection sends for the others, and
by nothing if one of the requests has no answer.  So the answers to all are those to the first ones
and those to the others exactly if each of the first requests has one, or if nothing is sent for the
others.  It is the same if the bytes arrive in chunks, wherever these are cut, as long as no head is
found too large among the first bytes.  If the names in each head differ in more than the case of
letters, the responses are the same in whatever orders the three streams are read. -/
theorem transcript_append_of_keepAlive :
    (∀ (written : Nat → FieldOrder) (data others : Bytes), (intake order data).pending = [] →
      (intake order data).requests.all (Request.keepAlive order) →
        (transcript order written respond [data ++ others] =
          transcript order written respond [data] ++
            if breaksDown order respond (intake order data).requests then []
            else transcript order (.after (intake order data).requests.length written) respond
              [others]) ∧
        (transcript order written respond [data ++ others] =
            transcript order written respond [data] ++
              transcript order (.after (intake order data).requests.length written) respond
                [others] ↔
          breaksDown order respond (intake order data).requests = false ∨
            transcript order (.after (intake order data).requests.length written) respond
              [others] = []) ∧
        (breaksDown order respond (intake order data).requests = false →
          (converse order respond [] [data]).length = (intake order data).requests.length)) ∧
    (∀ (written : Nat → FieldOrder) (before : List Bytes) (x y : Bytes) (after : List Bytes),
      (intake order (before ++ [x]).flatten).pending = [] →
      (intake order (before ++ [x]).flatten).requests.all (Request.keepAlive order) →
      (Intake.ofChunks order (before ++ [x])).stop ≠ .headTooLarge →
        transcript order written respond (before ++ (x ++ y) :: after) =
          transcript order written respond (before ++ [x]) ++
            if breaksDown order respond (intake order (before ++ [x]).flatten).requests then []
            else transcript order
              (.after (intake order (before ++ [x]).flatten).requests.length written) respond
              (y :: after)) ∧
    ∀ data others : Bytes, (intake order data).pending = [] →
      (intake order data).requests.all (Request.keepAlive order) →
      NamesDifferThroughout (data ++ others) → ∀ order₁ order₂ order₃,
        converse order₁ respond [] [data ++ others] =
          converse order₂ respond [] [data] ++
            if breaksDown order respond (intake order data).requests then []
            else converse order₃ respond [] [others] := by
  refine ⟨fun written data others hused hkeep => ?_, ?_, ?_⟩
  · rw [← Intake.ofChunks_singleton] at hused hkeep ⊢
    have happend := transcript_append_of_used respond [] hused hkeep written others []
    refine ⟨happend, ?_, fun hanswered => ?_⟩
    · rw [← List.nil_append [data ++ others], happend, List.nil_append, List.append_cancel_left_eq]
      cases breaksDown order respond (Intake.ofChunks order [data]).requests with
      | true =>
        rw [if_pos rfl]
        exact ⟨fun h => .inr h.symm, fun h => (h.resolve_left nofun).symm⟩
      | false => exact ⟨fun _ => .inl rfl, fun _ => rfl⟩
    · rw [converse_of_used respond hused, length_answers_of_keepAlive respond hkeep hanswered]
  · intro written before x y after hused hkeep hstop
    obtain ⟨hrequests, hpending⟩ := ofChunks_eq_intake_of_used hused hstop
    rw [← hrequests] at hkeep ⊢
    exact transcript_append_of_used respond before hpending hkeep written y after
  · intro data others hused hkeep hnames order₁ order₂ order₃
    -- The bytes of the others are what is left of the stream.
    have hremains := (takes_intake (Set.mem_univ order) data).remains.append others
    rw [hused, List.nil_append] at hremains
    have hflat : ∀ b : Bytes, NamesDifferThroughout b → NamesDifferThroughout [b].flatten := by
      intro b hb
      rw [List.flatten_singleton]
      exact hb
    rw [← Intake.ofChunks_singleton] at hused hkeep ⊢
    rw [converse_eq_converse (hflat _ hnames) order₁ order,
      converse_eq_converse (hflat _ hnames.of_append) order₂ order,
      converse_eq_converse (hflat _ (hnames.of_remains hremains)) order₃ order]
    exact converse_append_of_used respond [] hused hkeep others []

/-- A request with a body that looks like a request, and a request for a file. -/
def twoKept : Bytes :=
  Utf8.encode ("POST / HTTP/1.1\r\nContent-Length:18\r\n\r\nGET / HTTP/1.0\r\n\r\n" ++
    "GET /x HTTP/1.1\r\n\r\n")

/-- They are the requests of a connection on which they arrive, and nothing is left. -/
theorem intake_twoKept : intake .asSet twoKept =
    { requests :=
        [{ method := .post, target := "/", version := "HTTP/1.1"
           headers := Dict.ofList [("Content-Length", "18")]
           body := Utf8.encode "GET / HTTP/1.0\r\n\r\n" },
         { method := .get, target := "/x", version := "HTTP/1.1", headers := .empty, body := [] }]
      stop := .incomplete
      pending := [] } := by
  have hpost : Request.read .asSet twoKept = .ok
      ({ method := .post, target := "/", version := "HTTP/1.1"
         headers := Dict.ofList [("Content-Length", "18")]
         body := Utf8.encode "GET / HTTP/1.0\r\n\r\n" }, 56) := rfl
  have hget : Request.read .asSet (twoKept.drop 56) = .ok
      ({ method := .get, target := "/x", version := "HTTP/1.1", headers := .empty, body := [] },
        19) := rfl
  have hend : Request.read .asSet ((twoKept.drop 56).drop 19) = .error .incomplete := rfl
  rw [intake_of_ok hpost, intake_of_ok hget, intake_of_error hend]
  rfl

/-- Two requests on a connection, of which the first has a body, do not change what is sent for
those that come behind them. -/
theorem transcript_twoKept :
    (intake .asSet twoKept).pending = [] ∧ (intake .asSet twoKept).requests.length = 2 ∧
      (intake .asSet twoKept).requests.all (Request.keepAlive .asSet) ∧
      breaksDown .asSet (Site.ofTop.handle .empty) (intake .asSet twoKept).requests = false ∧
      ∀ (written : Nat → FieldOrder) (others : Bytes),
        transcript .asSet written (Site.ofTop.handle .empty) [twoKept ++ others] =
          transcript .asSet written (Site.ofTop.handle .empty) [twoKept] ++
            transcript .asSet (.after 2 written) (Site.ofTop.handle .empty) [others] := by
  have hused : (intake .asSet twoKept).pending = [] := by rw [intake_twoKept]
  have hkeep : (intake .asSet twoKept).requests.all (Request.keepAlive .asSet) := by
    rw [intake_twoKept]
    decide
  have hlength : (intake .asSet twoKept).requests.length = 2 := by
    rw [intake_twoKept]
    rfl
  have hanswered : breaksDown .asSet (Site.ofTop.handle .empty)
      (intake .asSet twoKept).requests = false := by
    have hpost : Site.ofTop.handle .empty
        { method := .post, target := "/", version := "HTTP/1.1"
          headers := Dict.ofList [("Content-Length", "18")]
          body := Utf8.encode "GET / HTTP/1.0\r\n\r\n" } = some .methodNotAllowed := rfl
    have hget : Site.ofTop.handle .empty
        { method := .get, target := "/x", version := "HTTP/1.1", headers := .empty, body := [] } =
          some .notFound := by cbv
    rw [intake_twoKept, breaksDown_cons_of_some hpost, breaksDown_cons_of_some hget]
    rfl
  refine ⟨hused, hlength, hkeep, hanswered, ?_⟩
  intro written others
  have happend := ((transcript_append_of_keepAlive .asSet (Site.ofTop.handle .empty)).1 written
    twoKept others hused hkeep).1
  rw [hanswered, hlength] at happend
  exact happend

/-- A request for a file without an answer, and one that is refused. -/
def oldAndPost : Bytes × Bytes :=
  (Utf8.encode "GET /a.txt HTTP/1.1\r\n\r\n", Utf8.encode "POST / HTTP/1.1\r\n\r\n")

/-- **A request without answer ends its connection.**  A fresh connection would send something for
the request behind it. -/
theorem Site.transcript_oldFile :
    (intake .asSet oldAndPost.1).pending = [] ∧
      (intake .asSet oldAndPost.1).requests.all (Request.keepAlive .asSet) ∧
      ∀ written : Nat → FieldOrder,
        transcript .asSet written (ofOldFile.handle oldFile) [oldAndPost.1 ++ oldAndPost.2] = [] ∧
        transcript .asSet written (ofOldFile.handle oldFile) [oldAndPost.1] ++
          transcript .asSet (.after 1 written) (ofOldFile.handle oldFile) [oldAndPost.2] ≠ [] := by
  have hget : Request.read .asSet oldAndPost.1 = .ok (.forOldFile, 23) := rfl
  have hpost : Request.read .asSet oldAndPost.2 = .ok
      ({ method := .post, target := "/", version := "HTTP/1.1", headers := .empty, body := [] },
        19) := rfl
  have hintake : intake .asSet oldAndPost.1 =
      { requests := [.forOldFile], stop := .incomplete, pending := [] } := by
    rw [intake_of_ok hget, intake_of_error (show Request.read .asSet (oldAndPost.1.drop 23) =
      .error .incomplete from rfl)]
    rfl
  refine ⟨by rw [hintake], by rw [hintake]; decide, fun written => ⟨?_, ?_⟩⟩
  · -- The first request has no answer, so the second one is not come to.
    rw [transcript, converse_of_incomplete (read_nil .asSet), List.nil_append,
      converse_of_unanswered (Request.read_append_ok hget _) handle_forOldFile]
    rfl
  · -- A fresh connection refuses the second request, which takes some bytes.
    intro hnil
    rw [List.append_eq_nil_iff, transcript, transcript, converse_of_incomplete (read_nil .asSet),
      converse_of_incomplete (read_nil .asSet), List.nil_append, List.nil_append,
      converse_of_answer hpost (show ofOldFile.handle oldFile _ = some .methodNotAllowed from rfl),
      Reply.stream_cons, List.append_eq_nil_iff] at hnil
    exact Response.bytes_ne_nil _ _ hnil.2.1

end PreviewServer
