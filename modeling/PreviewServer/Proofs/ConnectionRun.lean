import PreviewServer.Proofs.Chunking
import PreviewServer.Proofs.ConnectionField
import PreviewServer.Proofs.Sessions

/-!
# Whole runs of a connection

What a connection sends is said by `answers`: requests are answered in order up to the first one
that does not keep the connection or has no answer, and if there is none, what comes last is a
rejection or nothing.  `converse_eq_replies` shows that these are the answers to the requests as
they arrived, however the bytes were cut, and `Session.ends_feed` that the machine sends them and
then is closed, or has broken down at a request without answer (`breaksDown`).  By
`Intake.replies_ofChunks_iff` they are also the answers to the requests of the whole stream, unless
the connection was still open when its buffer was cut at the limit of a head, and would have gone on
otherwise (`RefusesEarly`).

The client learns from the `Connection` field which answer is the last one
(`connectionFields_answers`).  `Site.converse_eq_iff_not_refusesEarly` puts the law of a run
together.
-/

namespace PreviewServer

/-! ### Answers to requests -/

/-- The answers to requests in their order, up to the first one that does not keep the connection or
has no answer; behind the answers to all of them stands `last`. -/
def answers (order : FieldOrder) (respond : Request → Option Response) :
    List Request → List Reply → List Reply
  | [], last => last
  | r :: rs, last =>
    match respond r with
    | none => []
    | some response =>
      .toRequest order r response ::
        if r.keepAlive order then answers order respond rs last else []

/-- Whether the turn comes to a request without answer. -/
def breaksDown (order : FieldOrder) (respond : Request → Option Response) : List Request → Bool
  | [] => false
  | r :: rs =>
    match respond r with
    | none => true
    | some _ => r.keepAlive order && breaksDown order respond rs

/-- What a connection sends last when no request can be read any more: nothing if there might have
been one, and otherwise a rejection. -/
def lastWord (stop : ReadError) : List Reply :=
  if stop = .incomplete then [] else [.rejection stop]

/-- The answers to the requests of an intake and to what stopped it. -/
def Intake.replies (order : FieldOrder) (respond : Request → Option Response) (i : Intake) :
    List Reply :=
  answers order respond i.requests (lastWord i.stop)

section Answers

variable {order : FieldOrder} {respond : Request → Option Response} {r : Request}
  {response : Response}

theorem answers_cons_of_none (h : respond r = none) (rs : List Request) (last : List Reply) :
    answers order respond (r :: rs) last = [] := by
  rw [answers, h]

theorem answers_cons_of_some (h : respond r = some response) (rs : List Request)
    (last : List Reply) :
    answers order respond (r :: rs) last =
      .toRequest order r response ::
        if r.keepAlive order then answers order respond rs last else [] := by
  rw [answers, h]

theorem breaksDown_cons_of_none (h : respond r = none) (rs : List Request) :
    breaksDown order respond (r :: rs) = true := by
  rw [breaksDown, h]

theorem breaksDown_cons_of_some (h : respond r = some response) (rs : List Request) :
    breaksDown order respond (r :: rs) = (r.keepAlive order && breaksDown order respond rs) := by
  rw [breaksDown, h]

variable (order : FieldOrder) (respond : Request → Option Response)

theorem answers_append (rs ss : List Request) (last : List Reply) :
    answers order respond (rs ++ ss) last =
      answers order respond rs (answers order respond ss last) := by
  induction rs with
  | nil => rfl
  | cons r rs ih =>
    cases hr : respond r with
    | none => rw [List.cons_append, answers_cons_of_none hr, answers_cons_of_none hr]
    | some response =>
      rw [List.cons_append, answers_cons_of_some hr, answers_cons_of_some hr, ih]

/-- The turn comes to the requests behind others if these are all answered and keep the
connection. -/
theorem breaksDown_append (rs ss : List Request) :
    breaksDown order respond (rs ++ ss) = (breaksDown order respond rs ||
      (rs.all (Request.keepAlive order) && breaksDown order respond ss)) := by
  induction rs with
  | nil => rfl
  | cons r rs ih =>
    cases hr : respond r with
    | none =>
      rw [List.cons_append, breaksDown_cons_of_none hr, breaksDown_cons_of_none hr, Bool.true_or]
    | some response =>
      rw [List.cons_append, breaksDown_cons_of_some hr, breaksDown_cons_of_some hr, ih,
        List.all_cons, Bool.and_or_distrib_left, Bool.and_assoc]

theorem Intake.replies_after (rs : List Request) (i : Intake) :
    (i.after rs).replies order respond = answers order respond rs (i.replies order respond) :=
  answers_append order respond rs i.requests (lastWord i.stop)

/-- What stands behind the answers to requests matters if all of them are answered and keep the
connection. -/
theorem answers_eq_iff (rs : List Request) (last last' : List Reply) :
    answers order respond rs last = answers order respond rs last' ↔
      (breaksDown order respond rs = false → rs.all (Request.keepAlive order) → last = last') := by
  induction rs with
  | nil => simp [answers, breaksDown]
  | cons r rs ih =>
    cases hr : respond r with
    | none =>
      rw [answers_cons_of_none hr, answers_cons_of_none hr, breaksDown_cons_of_none hr]
      simp
    | some response =>
      rw [answers_cons_of_some hr, answers_cons_of_some hr, breaksDown_cons_of_some hr,
        List.all_cons, List.cons_inj_right]
      cases hk : r.keepAlive order with
      | true => simpa using ih
      | false => simp

/-- The answers of a connection to the requests that it has buffered come first. -/
theorem converse_intake (b : Bytes) (chunks : List Bytes) :
    converse order respond b chunks =
      answers order respond (intake order b).requests
        (converse order respond (intake order b).pending chunks) := by
  fun_induction intake order b with
  | case1 b e h => rfl
  | case2 b r n h rest ih =>
    cases hr : respond r with
    | none => rw [converse_of_unanswered h hr, answers_cons_of_none hr]
    | some response => rw [converse_of_answer h hr, answers_cons_of_some hr, ih]

/-- **The answers of a connection** are those to the requests and to the verdict that feeding its
chunks comes to. -/
theorem converse_eq_replies (chunks : List Bytes) {start : Bytes}
    (hstart : Request.read order start = .error .incomplete) :
    converse order respond start chunks =
      (Intake.total start (feed order start chunks)).replies order respond := by
  induction chunks generalizing start with
  | nil => exact converse_of_end hstart
  | cons chunk chunks ih =>
    rw [converse_of_incomplete hstart, converse_intake]
    have hread := read_pending order (start ++ chunk)
    by_cases hstop : (intake order (start ++ chunk)).stop = .incomplete
    · rw [hstop] at hread
      rw [feed_cons_of_incomplete hstop, Intake.total_cons hstop, Intake.replies_after, ih hread]
    · rw [feed_cons_of_ne hstop, converse_of_read_error hread hstop]
      show _ = answers order respond (intake order (start ++ chunk)).requests
        (lastWord (intake order (start ++ chunk)).stop)
      rw [lastWord, if_neg hstop]

theorem converse_eq_replies_ofChunks (chunks : List Bytes) :
    converse order respond [] chunks = (Intake.ofChunks order chunks).replies order respond :=
  converse_eq_replies order respond chunks (read_nil order)

end Answers

/-! ### The machine -/

namespace Session

variable {order : FieldOrder} (respond : Request → Option Response)

/-- **The requests of a buffer.**  The machine answers them up to the end that it comes to behind
them, or to the one before that. -/
theorem ends_intake {b : Bytes} {chunks : List Bytes} {broken : Bool} {last : List Reply}
    (hpending : ∀ sent, Ends order respond (awaiting (intake order b).pending chunks sent) broken
      (sent ++ last)) (sent : List Reply) :
    Ends order respond (awaiting b chunks sent)
      (breaksDown order respond (intake order b).requests ||
        ((intake order b).requests.all (Request.keepAlive order) && broken))
      (sent ++ answers order respond (intake order b).requests last) := by
  fun_induction intake order b generalizing sent with
  | case1 b e h => exact hpending sent
  | case2 b r n h rest ih =>
    dsimp only at hpending ⊢
    cases hr : respond r with
    | none =>
      rw [answers_cons_of_none hr, breaksDown_cons_of_none hr, Bool.true_or, List.append_nil]
      apply Ends.of_run 2
      rw [run_of_unanswered h hr]
      exact ⟨0, rfl, rfl⟩
    | some response =>
      rw [answers_cons_of_some hr, breaksDown_cons_of_some hr, List.all_cons]
      apply Ends.of_run 3
      rw [run_of_answer h hr]
      cases hk : r.keepAlive order with
      | true =>
        have hrest := ih hpending (sent ++ [.toRequest order r response])
        rw [List.append_assoc, List.singleton_append] at hrest
        exact hrest
      | false => exact ⟨0, rfl, rfl⟩

/-- **The machine sends the answers of the conversation.**  It comes to its end whatever arrives,
and breaks down if the turn comes to a request without answer. -/
theorem ends_feed (chunks : List Bytes) {start : Bytes}
    (hstart : Request.read order start = .error .incomplete) (sent : List Reply) :
    Ends order respond (awaiting start chunks sent)
      (breaksDown order respond (Intake.total start (feed order start chunks)).requests)
      (sent ++ (Intake.total start (feed order start chunks)).replies order respond) := by
  induction chunks generalizing start sent with
  | nil =>
    apply Ends.of_run 1
    rw [run_of_end hstart]
    exact ⟨0, rfl, (List.append_nil sent).symm⟩
  | cons chunk chunks ih =>
    apply Ends.of_run 1
    rw [run_of_incomplete hstart]
    have hread := read_pending order (start ++ chunk)
    by_cases hstop : (intake order (start ++ chunk)).stop = .incomplete
    · rw [hstop] at hread
      rw [feed_cons_of_incomplete hstop, Intake.total_cons hstop, Intake.replies_after,
        Intake.requests_after, breaksDown_append]
      exact ends_intake respond (ih hread) sent
    · -- Behind the answers comes the rejection, and then the connection is closed.
      have hlast : ∀ sent, Ends order respond
          (awaiting (intake order (start ++ chunk)).pending chunks sent) false
          (sent ++ lastWord (intake order (start ++ chunk)).stop) := by
        intro sent
        apply Ends.of_run 2
        rw [run_of_read_error hread hstop, lastWord, if_neg hstop]
        exact ⟨0, rfl, rfl⟩
      have hends := ends_intake respond hlast sent
      rw [Bool.and_false, Bool.or_false] at hends
      rw [feed_cons_of_ne hstop]
      exact hends

end Session

/-! ### The stream as a whole -/

/-- A connection on which every request is answered and keeps it alive is cut at the limit of a
head, and with the bytes behind the cut it would have been answered otherwise. -/
def RefusesEarly (order : FieldOrder) (respond : Request → Option Response) (chunks : List Bytes) :
    Prop :=
  breaksDown order respond (Intake.ofChunks order chunks).requests = false ∧
  (Intake.ofChunks order chunks).requests.all (Request.keepAlive order) ∧
  CutAtLimit (Intake.ofChunks order chunks).pending (unread order [] chunks) ∧
  (intake order ((Intake.ofChunks order chunks).pending ++ unread order [] chunks)).replies order
    respond ≠ [.rejection .headTooLarge]

section Whole

variable (order : FieldOrder) (respond : Request → Option Response) (chunks : List Bytes)

/-- **Chunks are answered like the whole stream** unless they are refused early. -/
theorem Intake.replies_ofChunks_iff :
    (Intake.ofChunks order chunks).replies order respond =
        (intake order chunks.flatten).replies order respond ↔
      ¬ RefusesEarly order respond chunks := by
  rw [intake_flatten, Intake.replies_after, replies, answers_eq_iff]
  by_cases hcut : CutAtLimit (Intake.ofChunks order chunks).pending (unread order [] chunks)
  · -- What is said behind the requests is the refusal.
    have hread := read_pending_ofChunks order chunks
    rw [hcut.read] at hread
    have hlast : lastWord (Intake.ofChunks order chunks).stop = [.rejection .headTooLarge] := by
      rw [← Except.error.inj hread]
      rfl
    rw [hlast]
    constructor
    · rintro h ⟨hanswered, hall, -, hne⟩
      exact hne (h hanswered hall).symm
    · intro h hanswered hall
      by_contra hne
      exact h ⟨hanswered, hall, hcut, Ne.symm hne⟩
  · constructor
    · rintro - ⟨-, -, h, -⟩
      exact hcut h
    · rintro - - -
      obtain ⟨hrequests, hstop, -⟩ := ofChunks_eq_whole order chunks hcut
      rw [intake_flatten] at hrequests hstop
      have hnil := List.append_right_eq_self.mp hrequests
      rw [replies, hnil]
      exact congrArg lastWord hstop.symm

/-- **The end of a run.**  A connection comes to its end whatever arrives, and has then sent the
answers of its conversation and nothing else.  It is closed then, or has broken down at a request
without answer. -/
theorem ends_iff (broken : Bool) (replies : List Reply) :
    Session.Ends order respond (.opened chunks) broken replies ↔
      broken = breaksDown order respond (Intake.ofChunks order chunks).requests ∧
        replies = converse order respond [] chunks := by
  have h := Session.ends_feed respond chunks (read_nil order) []
  rw [List.nil_append, ← converse_eq_replies order respond chunks (read_nil order)] at h
  constructor
  · exact fun h' => h'.unique h
  · rintro ⟨rfl, rfl⟩
    exact h

end Whole

/-! ### Orders that do not matter -/

section Orders

variable {order order' : FieldOrder} {respond : Request → Option Response}

theorem answers_congr {rs : List Request}
    (h : ∀ r ∈ rs, r.keepAlive order = r.keepAlive order') (last : List Reply) :
    answers order respond rs last = answers order' respond rs last := by
  induction rs with
  | nil => rfl
  | cons r rs ih =>
    rw [List.forall_mem_cons] at h
    cases hr : respond r with
    | none => rw [answers_cons_of_none hr, answers_cons_of_none hr]
    | some response =>
      rw [answers_cons_of_some hr, answers_cons_of_some hr, ih h.2, Reply.toRequest,
        Reply.toRequest, h.1]

/-- The requests of an intake were read from what was left of the buffer. -/
theorem Takes.exists_read {orders : Set FieldOrder} {b : Bytes} {i : Intake}
    (h : Takes orders b i) {r : Request} (hr : r ∈ i.requests) :
    ∃ rest order n, Remains b rest ∧ Request.read order rest = .ok (r, n) := by
  induction h with
  | stop => cases hr
  | next _ h _ ih =>
    rcases List.mem_cons.mp hr with rfl | hr
    · exact ⟨_, _, _, .refl _, h⟩
    · obtain ⟨rest, order, n, hrest, hread⟩ := ih hr
      exact ⟨rest, order, n, .cut h hrest, hread⟩

/-- The requests of chunks are among those of the whole stream. -/
theorem exists_read_of_mem_ofChunks {chunks : List Bytes} {r : Request}
    (hr : r ∈ (Intake.ofChunks order chunks).requests) :
    ∃ rest order n, Remains chunks.flatten rest ∧ Request.read order rest = .ok (r, n) := by
  apply (takes_intake (Set.mem_singleton order) chunks.flatten).exists_read
  rw [intake_flatten]
  exact List.mem_append_left _ hr

/-- **A connection is answered alike in every order**, if the names in each head differ in more than
the case of letters. -/
theorem converse_eq_converse {chunks : List Bytes} (hnames : NamesDifferThroughout chunks.flatten)
    (order order' : FieldOrder) (respond : Request → Option Response) :
    converse order respond [] chunks = converse order' respond [] chunks := by
  have hfeed : feed order [] chunks = feed order' [] chunks :=
    feeds_singleton_iff.mp ((feeds_feed (Set.mem_univ order) [] chunks).inOrder hnames order')
  rw [converse_eq_replies_ofChunks, converse_eq_replies_ofChunks, Intake.ofChunks,
    Intake.ofChunks, ← hfeed]
  -- The requests are the same, and each of them keeps the connection in both orders or in none.
  apply answers_congr
  intro r hr
  obtain ⟨rest, _, n, hrest, hread⟩ := exists_read_of_mem_ofChunks hr
  exact Request.keepAlive_eq_keepAlive
    (Request.names_pairwise_of_read (hnames rest hrest) hread) order order'

end Orders

/-! ### The mark of the last answer -/

/-- Whether the server closes the connection itself: a request does not keep it, or the bytes
behind the requests cannot become one. -/
def serverCloses (order : FieldOrder) (requests : List Request) (stop : ReadError) : Bool :=
  requests.any (fun r => !r.keepAlive order) || stop ≠ .incomplete

section Mark

variable {order : FieldOrder} {respond : Request → Option Response} {stop : ReadError}

theorem answers_lastWord_ne_nil {rs : List Request} (h : serverCloses order rs stop)
    (hanswered : breaksDown order respond rs = false) :
    answers order respond rs (lastWord stop) ≠ [] := by
  cases rs with
  | nil =>
    rw [answers, lastWord, if_neg (by simpa [serverCloses] using h)]
    exact List.cons_ne_nil _ _
  | cons r rs =>
    cases hr : respond r with
    | none =>
      rw [breaksDown_cons_of_none hr] at hanswered
      cases hanswered
    | some response =>
      rw [answers_cons_of_some hr]
      exact List.cons_ne_nil _ _

/-- **The mark is on the last answer**, if the server closes the connection behind it. -/
theorem connectionFields_answers
    (hrespond : ∀ r response, respond r = some response → response.connectionFields = [])
    (rs : List Request) {i : Nat} {reply : Reply}
    (hi : (answers order respond rs (lastWord stop))[i]? = some reply) :
    reply.response.connectionFields =
      if i + 1 = (answers order respond rs (lastWord stop)).length ∧ serverCloses order rs stop ∧
          breaksDown order respond rs = false
      then [("Connection", "close")] else [] := by
  induction rs generalizing i with
  | nil =>
    rw [answers, lastWord] at hi ⊢
    by_cases hstop : stop = .incomplete
    · rw [if_pos hstop] at hi
      cases hi
    · rw [if_neg hstop] at hi ⊢
      cases i with
      | zero =>
        cases hi
        rw [if_pos ⟨rfl, by simpa [serverCloses] using hstop, rfl⟩]
        exact Response.connectionFields_closing (Reply.connectionFields_rejectionPage stop)
      | succ i => cases hi
  | cons r rs ih =>
    cases hr : respond r with
    | none =>
      rw [answers_cons_of_none hr] at hi
      cases hi
    | some response =>
      rw [answers_cons_of_some hr] at hi ⊢
      rw [breaksDown_cons_of_some hr]
      cases hk : r.keepAlive order with
      | true =>
        rw [hk, if_pos rfl] at hi
        have hcloses : serverCloses order (r :: rs) stop = serverCloses order rs stop := by
          rw [serverCloses, List.any_cons, hk, Bool.not_true, Bool.false_or, serverCloses]
        rw [if_pos rfl, hcloses, Bool.true_and, List.length_cons]
        cases i with
        | zero =>
          cases hi
          -- Behind the first answer there is another one if the server closes the connection.
          rw [if_neg]
          · rw [Reply.toRequest, if_pos hk]
            exact hrespond r response hr
          · rintro ⟨hlen, hlast, hanswered⟩
            have hne : answers order respond rs (lastWord stop) ≠ [] :=
              answers_lastWord_ne_nil hlast hanswered
            have := List.length_pos_iff.mpr hne
            omega
        | succ i => simpa only [Nat.add_right_cancel_iff] using ih hi
      | false =>
        rw [hk, if_neg Bool.false_ne_true] at hi
        cases i with
        | zero =>
          cases hi
          have hcloses : serverCloses order (r :: rs) stop := by
            rw [serverCloses, List.any_cons, hk]
            rfl
          rw [if_neg Bool.false_ne_true, if_pos ⟨rfl, hcloses, Bool.false_and _⟩, Reply.toRequest,
            hk, if_neg Bool.false_ne_true]
          exact Response.connectionFields_closing (hrespond r response hr)
        | succ i => cases hi

end Mark

/-- The status of a refusal. -/
def ReadError.status : ReadError → Status
  | .unknownMethod => .methodNotAllowed
  | .bodyTooLarge => .payloadTooLarge
  | _ => .badRequest

/-- A refusal has the status of its fault, and names the methods that are served if the fault is
the method. -/
theorem Reply.status_rejection (e : ReadError) :
    (Reply.rejection e).response.status = e.status ∧
    ((Reply.rejection e).response.headers.get? "Allow" =
      if e = .unknownMethod then some "GET, HEAD" else none) := by
  cases e <;> exact ⟨rfl, by decide⟩

/-- **The law of a run.**  A connection comes to its end whatever arrives, and has then sent the
answers to what feeding the chunks comes to; it is closed, or has broken down if the turn came to a
request without answer.  These are the answers to the whole stream exactly when it is not refused
early.  The last answer is marked if the server closes the connection behind it, and no other answer
has a `Connection` field.  A refusal has the status of its fault.  If the names in each head differ
in more than the case of letters, all this is the same in every order of the fields. -/
theorem Site.converse_eq_iff_not_refusesEarly (s : Site) (t : FileTree) (order : FieldOrder)
    (chunks : List Bytes) :
    (∀ broken replies, Session.Ends order (s.handle t) (.opened chunks) broken replies ↔
      broken = breaksDown order (s.handle t) (Intake.ofChunks order chunks).requests ∧
        replies = converse order (s.handle t) [] chunks) ∧
    converse order (s.handle t) [] chunks =
      (Intake.ofChunks order chunks).replies order (s.handle t) ∧
    (converse order (s.handle t) [] chunks =
        (intake order chunks.flatten).replies order (s.handle t) ↔
      ¬ RefusesEarly order (s.handle t) chunks) ∧
    (∀ i reply, (converse order (s.handle t) [] chunks)[i]? = some reply →
      reply.response.connectionFields =
        if i + 1 = (converse order (s.handle t) [] chunks).length ∧
            serverCloses order (Intake.ofChunks order chunks).requests
              (Intake.ofChunks order chunks).stop ∧
            breaksDown order (s.handle t) (Intake.ofChunks order chunks).requests = false
        then [("Connection", "close")] else []) ∧
    (∀ e : ReadError, (Reply.rejection e).response.status = e.status ∧
      (Reply.rejection e).response.headers.get? "Allow" =
        if e = .unknownMethod then some "GET, HEAD" else none) ∧
    (NamesDifferThroughout chunks.flatten → ∀ order',
      converse order' (s.handle t) [] chunks = converse order (s.handle t) [] chunks) := by
  have hreplies : converse order (s.handle t) [] chunks =
      (Intake.ofChunks order chunks).replies order (s.handle t) :=
    converse_eq_replies order (s.handle t) chunks (read_nil order)
  refine ⟨ends_iff order (s.handle t) chunks, hreplies, ?_, ?_, Reply.status_rejection,
    fun hnames order' => converse_eq_converse hnames order' order (s.handle t)⟩
  · rw [hreplies]
    exact Intake.replies_ofChunks_iff order (s.handle t) chunks
  · intro i reply hi
    rw [hreplies] at hi ⊢
    exact connectionFields_answers (fun _ _ h => Site.connectionFields_handle h) _ hi

/-! ### A connection that is refused early -/

/-- The answers to a stream that consists of a request line within the limit. -/
theorem replies_longHead (order : FieldOrder) (respond : Request → Option Response) {n : Nat}
    (hn : n + 14 ≤ maxHeadSize) :
    (intake order (longHead n ++ [13] ++ [10, 13, 10])).replies order respond =
      answers order respond [getRequest (longPath n)] [] := by
  have hdrop : (longHead n ++ [13] ++ [10, 13, 10]).drop (n + 14 + 4) = [] := by
    rw [List.drop_eq_nil_iff, List.length_append, List.length_append, length_longHead]
    exact Nat.le_refl _
  rw [intake_of_ok (Request.read_longHead order hn), hdrop, intake_of_error (read_nil order)]
  rfl

/-- The site that serves a whole tree. -/
def Site.ofTop : Site := { root := [], indexFiles := [], listing := true, types := .builtinOnly }

/-- **A run that depends on the cut.**  A request at the limit of a head is refused if one byte of
the empty line behind it arrives before the other three. -/
theorem Site.converse_longHead_cut :
    (∀ order, converse order (Site.ofTop.handle .empty) []
      [longHead 16370 ++ [13], [10, 13, 10]] = [.rejection .headTooLarge]) ∧
    ∀ order, converse order (Site.ofTop.handle .empty) [] [longHead 16370 ++ [13], [10, 13, 10]] ≠
      (intake order (longHead 16370 ++ [13] ++ [10, 13, 10])).replies order
        (Site.ofTop.handle .empty) := by
  have hcut : CutAtLimit (longHead 16370 ++ [13]) [10, 13, 10] := by
    refine ⟨?_, 16384, Nat.le_refl _, headLength?_longHead 16370, ?_⟩
    all_goals
      rw [List.length_append, length_longHead]
      decide
  have hsent : ∀ order, converse order (Site.ofTop.handle .empty) []
      [longHead 16370 ++ [13], [10, 13, 10]] = [.rejection .headTooLarge] := by
    intro order
    rw [converse_of_incomplete (read_nil order), List.nil_append,
      converse_of_read_error (hcut.read order) (by decide)]
  refine ⟨hsent, fun order => ?_⟩
  rw [hsent, replies_longHead order _ (Nat.le_refl 16384)]
  cases hr : Site.ofTop.handle .empty (getRequest (longPath 16370)) with
  | none =>
    rw [answers_cons_of_none hr]
    exact List.cons_ne_nil _ _
  | some response =>
    -- The refusal is marked, and the answer to a request without fields is not.
    have hkeep : (getRequest (longPath 16370)).keepAlive order = true :=
      Request.keepAlive_eq_keepAlive List.Pairwise.nil order .asSet
    rw [answers_cons_of_some hr]
    intro heq
    have hmark := congrArg (fun reply => reply.response.connectionFields) (List.cons.inj heq).1
    dsimp only [Reply.toRequest] at hmark
    rw [if_pos hkeep, Site.connectionFields_handle hr, Reply.rejection,
      Response.connectionFields_closing (Reply.connectionFields_rejectionPage _)] at hmark
    cases hmark

end PreviewServer
