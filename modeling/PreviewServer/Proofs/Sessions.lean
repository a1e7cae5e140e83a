import PreviewServer.Connection
import Mathlib.Logic.Function.Iterate

/-!
# Sessions

A connection is a machine (`Session.step`): it reads a request off its buffer or waits for bytes,
works out the answer, sends it, and then reads on or is closed.  It breaks down when there is no
answer to a request.

A turn is one, two or three steps of the machine (`run_of_answer`, `run_of_unanswered`,
`run_of_read_error`, `run_of_incomplete`, `run_of_end`), and each of them has its equation for the
answers of the conversation (`converse_of_answer`, `converse_of_unanswered`,
`converse_of_read_error`, `converse_of_incomplete`, `converse_of_end`).
-/

namespace PreviewServer

/-! ### The machine -/

/-- What a connection is doing. -/
inductive Activity where
  /-- It reads a request off its buffer, or waits for bytes. -/
  | reading
  /-- It works out the answer to a request. -/
  | processing (r : Request)
  /-- It sends an answer, after which it reads on or not. -/
  | writing (reply : Reply) (keepAlive : Bool)
  /-- It has come to its end. -/
  | closed
  /-- It has broken down, because there was no answer. -/
  | broken

/-- What a connection is doing at its end, broken down or not. -/
def Activity.last (broken : Bool) : Activity := if broken then .broken else .closed

theorem Activity.last_injective {broken broken' : Bool} (h : last broken = last broken') :
    broken = broken' := by
  cases broken with
  | true =>
    cases broken' with
    | true => rfl
    | false => cases h
  | false =>
    cases broken' with
    | true => cases h
    | false => rfl

/-- A connection at a moment. -/
structure Session where
  /-- What it is doing. -/
  activity : Activity
  /-- The bytes that have arrived and were not used. -/
  buffer : Bytes
  /-- The chunks that are still to arrive, after which the input ends. -/
  incoming : List Bytes
  /-- The answers that were sent. -/
  sent : List Reply

namespace Session

/-- A connection on which these chunks are going to arrive. -/
def opened (chunks : List Bytes) : Session :=
  { activity := .reading, buffer := [], incoming := chunks, sent := [] }

/-- What a connection does next. -/
def step (order : FieldOrder) (respond : Request → Option Response) (s : Session) : Session :=
  match s.activity with
  | .reading =>
    match Request.read order s.buffer with
    | .ok (r, n) => { s with activity := .processing r, buffer := s.buffer.drop n }
    | .error .incomplete =>
      match s.incoming with
      | [] => { s with activity := .closed }
      | chunk :: chunks => { s with buffer := s.buffer ++ chunk, incoming := chunks }
    | .error e => { s with activity := .writing (.rejection e) false }
  | .processing r =>
    match respond r with
    | none => { s with activity := .broken }
    | some response =>
      { s with activity := .writing (.toRequest order r response) (r.keepAlive order) }
  | .writing reply keepAlive =>
    { s with activity := if keepAlive then .reading else .closed, sent := s.sent ++ [reply] }
  | .closed => s
  | .broken => s

/-- A connection after some steps. -/
abbrev run (order : FieldOrder) (respond : Request → Option Response) (k : Nat) (s : Session) :
    Session :=
  (step order respond)^[k] s

/-- Whether a connection comes to its end, broken down or closed, with these answers sent. -/
def Ends (order : FieldOrder) (respond : Request → Option Response) (s : Session) (broken : Bool)
    (replies : List Reply) : Prop :=
  ∃ k, (run order respond k s).activity = .last broken ∧ (run order respond k s).sent = replies

variable {order : FieldOrder} {respond : Request → Option Response}

/-- A connection at its end stays as it is. -/
theorem run_of_last {s : Session} {broken : Bool} (h : s.activity = .last broken) (k : Nat) :
    run order respond k s = s := by
  have hstep : step order respond s = s := by
    unfold step
    rw [h]
    cases broken with
    | true => rfl
    | false => rfl
  exact Function.iterate_fixed hstep k

/-- A connection comes to one end only. -/
theorem Ends.unique {s : Session} {broken broken' : Bool} {rs ss : List Reply}
    (h : Ends order respond s broken rs) (h' : Ends order respond s broken' ss) :
    broken = broken' ∧ rs = ss := by
  -- Both ends are the machine after the larger number of steps.
  have hend : ∀ {j k : Nat} {b : Bool}, j ≤ k → (run order respond j s).activity = .last b →
      run order respond k s = run order respond j s := by
    intro j k b hjk hj
    obtain ⟨d, rfl⟩ := Nat.exists_eq_add_of_le' hjk
    rw [run, Function.iterate_add_apply, ← run, ← run, run_of_last hj]
  obtain ⟨j, hj, rfl⟩ := h
  obtain ⟨k, hk, rfl⟩ := h'
  rcases Nat.le_total j k with hjk | hkj
  · rw [hend hjk hj] at hk ⊢
    exact ⟨Activity.last_injective (hj.symm.trans hk), rfl⟩
  · rw [hend hkj hk] at hj ⊢
    exact ⟨Activity.last_injective (hj.symm.trans hk), rfl⟩

/-- A connection comes to the end that it comes to after some steps. -/
theorem Ends.of_run {s : Session} {broken : Bool} {rs : List Reply} (j : Nat)
    (h : Ends order respond (run order respond j s) broken rs) :
    Ends order respond s broken rs := by
  obtain ⟨k, hlast, hsent⟩ := h
  refine ⟨k + j, ?_, ?_⟩
  · rw [run, Function.iterate_add_apply]
    exact hlast
  · rw [run, Function.iterate_add_apply]
    exact hsent

/-! ### One turn -/

/-- The connection that reads next, with these bytes, chunks and answers. -/
abbrev awaiting (buffer : Bytes) (incoming : List Bytes) (sent : List Reply) : Session :=
  { activity := .reading, buffer := buffer, incoming := incoming, sent := sent }

variable {b : Bytes} {chunks : List Bytes} {sent : List Reply}

/-- A request is answered in three steps. -/
theorem run_of_answer {r : Request} {n : Nat} {response : Response}
    (h : Request.read order b = .ok (r, n)) (hanswer : respond r = some response) :
    run order respond 3 (awaiting b chunks sent) =
      { activity := if r.keepAlive order then .reading else .closed, buffer := b.drop n,
        incoming := chunks, sent := sent ++ [.toRequest order r response] } := by
  simp only [run, Function.iterate_succ_apply, Function.iterate_zero_apply, step, h, hanswer]

/-- Without an answer the connection breaks down in two steps. -/
theorem run_of_unanswered {r : Request} {n : Nat} (h : Request.read order b = .ok (r, n))
    (hnone : respond r = none) :
    run order respond 2 (awaiting b chunks sent) =
      { activity := .broken, buffer := b.drop n, incoming := chunks, sent := sent } := by
  simp only [run, Function.iterate_succ_apply, Function.iterate_zero_apply, step, h, hnone]

theorem step_of_read_error {e : ReadError} (h : Request.read order b = .error e)
    (he : e ≠ .incomplete) :
    step order respond (awaiting b chunks sent) =
      { activity := .writing (.rejection e) false, buffer := b, incoming := chunks,
        sent := sent } := by
  simp only [step, h]

/-- Bytes that cannot become a request are rejected in two steps. -/
theorem run_of_read_error {e : ReadError} (h : Request.read order b = .error e)
    (he : e ≠ .incomplete) :
    run order respond 2 (awaiting b chunks sent) =
      { activity := .closed, buffer := b, incoming := chunks, sent := sent ++ [.rejection e] } := by
  rw [run, Function.iterate_succ_apply, Function.iterate_one, step_of_read_error h he]
  simp only [step, Bool.false_eq_true, if_false]

/-- A chunk is awaited as long as there is one. -/
theorem run_of_incomplete {chunk : Bytes} (h : Request.read order b = .error .incomplete) :
    run order respond 1 (awaiting b (chunk :: chunks) sent) =
      awaiting (b ++ chunk) chunks sent := by
  simp only [run, Function.iterate_succ_apply, Function.iterate_zero_apply, step, h]

/-- At the end of the input nothing is sent any more. -/
theorem run_of_end (h : Request.read order b = .error .incomplete) :
    run order respond 1 (awaiting b [] sent) =
      { activity := .closed, buffer := b, incoming := [], sent := sent } := by
  simp only [run, Function.iterate_succ_apply, Function.iterate_zero_apply, step, h]

end Session

/-! ### The answers of a conversation -/

section Converse

variable {order : FieldOrder} {respond : Request → Option Response} {b : Bytes}
  {chunks : List Bytes}

theorem converse_of_answer {r : Request} {n : Nat} {response : Response}
    (h : Request.read order b = .ok (r, n)) (hanswer : respond r = some response) :
    converse order respond b chunks =
      .toRequest order r response ::
        if r.keepAlive order then converse order respond (b.drop n) chunks else [] := by
  have hnext : Turn.next order respond b =
      if r.keepAlive order then .answer (.toRequest order r response) (b.drop n)
      else .close (.toRequest order r response) := by
    unfold Turn.next
    rw [h]
    dsimp only
    rw [hanswer]
  rw [converse.eq_def]
  cases hk : r.keepAlive order with
  | true =>
    rw [hk, if_pos rfl] at hnext
    split <;> rename_i h' <;> rw [hnext] at h' <;> cases h'
    rfl
  | false =>
    rw [hk, if_neg Bool.false_ne_true] at hnext
    split <;> rename_i h' <;> rw [hnext] at h' <;> cases h'
    rfl

theorem converse_of_unanswered {r : Request} {n : Nat} (h : Request.read order b = .ok (r, n))
    (hnone : respond r = none) : converse order respond b chunks = [] := by
  have hnext : Turn.next order respond b = .breakDown := by
    unfold Turn.next
    rw [h]
    dsimp only
    rw [hnone]
  rw [converse.eq_def]
  split <;> rename_i h' <;> rw [hnext] at h' <;> cases h'

theorem converse_of_read_error {e : ReadError} (h : Request.read order b = .error e)
    (he : e ≠ .incomplete) : converse order respond b chunks = [.rejection e] := by
  have hnext : Turn.next order respond b = .close (.rejection e) := by
    unfold Turn.next
    rw [h]
    split
    · rename_i heq
      cases heq
    · rename_i heq
      exact absurd (Except.error.inj heq) he
    · rename_i heq
      rw [Except.error.inj heq]
  rw [converse.eq_def]
  split <;> rename_i h' <;> rw [hnext] at h' <;> cases h'
  rfl

theorem next_of_incomplete (h : Request.read order b = .error .incomplete) :
    Turn.next order respond b = .wait := by
  unfold Turn.next
  rw [h]

theorem converse_of_incomplete {chunk : Bytes} (h : Request.read order b = .error .incomplete) :
    converse order respond b (chunk :: chunks) = converse order respond (b ++ chunk) chunks := by
  rw [converse.eq_def]
  split <;> rename_i h' <;> rw [next_of_incomplete h] at h' <;> cases h'

theorem converse_of_end (h : Request.read order b = .error .incomplete) :
    converse order respond b [] = [] := by
  rw [converse.eq_def]
  split <;> rename_i h' <;> rw [next_of_incomplete h] at h' <;> cases h'

end Converse

end PreviewServer
