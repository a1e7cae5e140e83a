import Mathlib.Data.Set.Insert
import PreviewServer.Connection
import PreviewServer.Proofs.FinalVerdicts

/-!
# Requests that arrive in chunks

The bytes of a connection arrive in chunks, and requests are taken off the buffer after each of
them (`feed`).  However the bytes are cut, the requests are those of the whole stream
(`ofChunks_eq_whole`): none is invented, lost, reordered or altered.  The one effect that a cut can
have is that the stream is refused early because of the size of a head, and then the requests
before it are the first ones of the whole stream (`ofChunks_prefix_whole`).

A buffer that was incomplete is read again with the next chunk, and its header fields may then come
in another order.  So the runs are described by relations in which every reading has an order of its
own (`Takes`, `Feeds`); `intake` and `feed` are the runs in one order (`takes_singleton_iff`,
`feeds_singleton_iff`).  Where header names collide there may be several runs, and each of them is
the start of a run on the whole stream; where they do not, there is only one.

The step is `Takes.append`: taking requests off `b ++ x` is taking them off `b`, and then off what
was left with `x` behind it.  The run is `Feeds.spec`, by induction on the chunks; what it carries
is that the bytes left over after a chunk are not yet a request.
-/

namespace PreviewServer

/-! ### Taking requests off a growing buffer -/

/-- What an intake comes to when requests have been taken off before it. -/
def Intake.after (before : List Request) (i : Intake) : Intake :=
  { i with requests := before ++ i.requests }

@[simp] theorem Intake.after_nil (i : Intake) : i.after [] = i := rfl

@[simp] theorem Intake.after_after (rs ss : List Request) (i : Intake) :
    (i.after ss).after rs = i.after (rs ++ ss) := by
  unfold Intake.after
  rw [List.append_assoc]

theorem Intake.requests_after (rs : List Request) (i : Intake) :
    (i.after rs).requests = rs ++ i.requests :=
  rfl

/-- Requests are taken off the front of a buffer until no further one can be read, and each time the
fields come in one of these orders. -/
inductive Takes (orders : Set FieldOrder) : Bytes → Intake → Prop
  /-- No further request can be read. -/
  | stop {order : FieldOrder} {b : Bytes} {e : ReadError} (horder : order ∈ orders)
      (h : Request.read order b = .error e) :
      Takes orders b { requests := [], stop := e, pending := b }
  /-- A request is taken off, and then others. -/
  | next {order : FieldOrder} {b : Bytes} {r : Request} {n : Nat} {i : Intake}
      (horder : order ∈ orders) (h : Request.read order b = .ok (r, n))
      (hrest : Takes orders (b.drop n) i) : Takes orders b (i.after [r])

section Intakes

variable {orders : Set FieldOrder} {order : FieldOrder} {b : Bytes} {i : Intake}

theorem intake_of_error {e : ReadError} (h : Request.read order b = .error e) :
    intake order b = { requests := [], stop := e, pending := b } := by
  rw [intake.eq_def]
  split
  · rename_i e' h'
    rw [h] at h'
    cases h'
    rfl
  · rename_i h'
    rw [h] at h'
    cases h'

theorem intake_of_ok {r : Request} {n : Nat} (h : Request.read order b = .ok (r, n)) :
    intake order b = (intake order (b.drop n)).after [r] := by
  rw [intake.eq_def]
  split
  · rename_i h'
    rw [h] at h'
    cases h'
  · rename_i r' n' h'
    rw [h] at h'
    cases h'
    rfl

/-- Requests are taken off until no further one can be read. -/
theorem Takes.read_pending (h : Takes orders b i) :
    ∃ order ∈ orders, Request.read order i.pending = .error i.stop := by
  induction h with
  | stop horder h => exact ⟨_, horder, h⟩
  | next _ _ _ ih => exact ih

/-- **One step.**  The requests in front of `b ++ x` are those in front of `b`, and then those that
what is left of `b` begins together with `x`. -/
theorem Takes.append {x : Bytes} {j : Intake} (h : Takes orders b i)
    (hx : Takes orders (i.pending ++ x) j) : Takes orders (b ++ x) (j.after i.requests) := by
  induction h with
  | stop => exact hx
  | next horder h _ ih =>
    -- The request stays within `b`, so what is behind it in `b ++ x` is its rest in `b` and `x`.
    have hle := (Request.read_consumed h).2
    have hrest := ih hx
    rw [← List.drop_append_of_le_length hle] at hrest
    have happend := Takes.next horder (Request.read_append_ok h x) hrest
    rw [Intake.after_after] at happend
    exact happend

/-- Requests can be taken off in the same order each time. -/
theorem takes_intake (horder : order ∈ orders) (b : Bytes) : Takes orders b (intake order b) := by
  fun_induction intake order b with
  | case1 b e h => exact .stop horder h
  | case2 b r n h rest ih => exact .next horder h ih

/-- In one order there is one way to take requests off. -/
theorem takes_singleton_iff : Takes {order} b i ↔ i = intake order b := by
  constructor
  · intro h
    induction h with
    | stop horder h =>
      cases horder
      exact (intake_of_error h).symm
    | next horder h _ ih =>
      cases horder
      rw [intake_of_ok h, ← ih]
  · intro h
    rw [h]
    exact takes_intake (Set.mem_singleton order) b

theorem read_pending (order : FieldOrder) (b : Bytes) :
    Request.read order (intake order b).pending = .error (intake order b).stop := by
  obtain ⟨_, rfl, hread⟩ := (takes_intake (Set.mem_singleton order) b).read_pending
  exact hread

theorem intake_append (order : FieldOrder) (b x : Bytes) :
    intake order (b ++ x) =
      (intake order ((intake order b).pending ++ x)).after (intake order b).requests := by
  have hb := takes_intake (Set.mem_singleton order) b
  exact (takes_singleton_iff.mp (hb.append (takes_intake (Set.mem_singleton order) _))).symm

end Intakes

/-! ### Feeding chunks -/

/-- What the intakes after several chunks come to: all their requests, and the verdict and the left
bytes of the last one.  Before the first chunk there are `start` bytes that are no request. -/
def Intake.total (start : Bytes) (steps : List Intake) : Intake :=
  steps.foldl (fun sum i => i.after sum.requests)
    { requests := [], stop := .incomplete, pending := start }

/-- What feeding these chunks comes to. -/
def Intake.ofChunks (order : FieldOrder) (chunks : List Bytes) : Intake :=
  .total [] (feed order [] chunks)

/-- The bytes of the chunks that feeding does not come to, because it has stopped before them. -/
def unread (order : FieldOrder) (start : Bytes) (chunks : List Bytes) : Bytes :=
  (chunks.drop (feed order start chunks).length).flatten

/-- Chunks are fed one after another, and each time that a buffer is read its fields come in one of
these orders. -/
inductive Feeds (orders : Set FieldOrder) : Bytes → List Bytes → List Intake → Prop
  /-- There are no chunks. -/
  | done {start : Bytes} : Feeds orders start [] []
  /-- The buffer cannot become a request. -/
  | fault {start chunk : Bytes} {chunks : List Bytes} {i : Intake}
      (h : Takes orders (start ++ chunk) i) (hstop : i.stop ≠ .incomplete) :
      Feeds orders start (chunk :: chunks) [i]
  /-- More is awaited. -/
  | more {start chunk : Bytes} {chunks : List Bytes} {i : Intake} {steps : List Intake}
      (h : Takes orders (start ++ chunk) i) (hstop : i.stop = .incomplete)
      (hrest : Feeds orders i.pending chunks steps) :
      Feeds orders start (chunk :: chunks) (i :: steps)

section Feeding

variable {orders : Set FieldOrder} {order : FieldOrder} {start : Bytes} {chunks : List Bytes}

theorem foldl_after (rs : List Request) (i : Intake) (steps : List Intake) :
    steps.foldl (fun sum i => i.after sum.requests) (i.after rs) =
      (steps.foldl (fun sum i => i.after sum.requests) i).after rs := by
  induction steps generalizing i with
  | nil => rfl
  | cons j steps ih =>
    rw [List.foldl_cons, List.foldl_cons, ← ih, Intake.after_after]
    rfl

/-- The first of several steps, which has not stopped the feeding. -/
theorem Intake.total_cons {i : Intake} (h : i.stop = .incomplete) (steps : List Intake) :
    total start (i :: steps) = (total i.pending steps).after i.requests := by
  unfold total
  rw [List.foldl_cons, ← foldl_after, Intake.after_nil]
  congr 1
  cases i
  cases h
  rw [Intake.after, List.append_nil]

theorem feed_cons_of_incomplete {chunk : Bytes}
    (h : (intake order (start ++ chunk)).stop = .incomplete) :
    feed order start (chunk :: chunks) =
      intake order (start ++ chunk) ::
        feed order (intake order (start ++ chunk)).pending chunks := by
  rw [feed]
  exact congrArg _ (if_pos h)

theorem feed_cons_of_ne {chunk : Bytes} (h : (intake order (start ++ chunk)).stop ≠ .incomplete) :
    feed order start (chunk :: chunks) = [intake order (start ++ chunk)] := by
  rw [feed]
  exact congrArg _ (if_neg h)

/-- Chunks can be fed in the same order each time. -/
theorem feeds_feed (horder : order ∈ orders) (start : Bytes) (chunks : List Bytes) :
    Feeds orders start chunks (feed order start chunks) := by
  induction chunks generalizing start with
  | nil => exact .done
  | cons chunk chunks ih =>
    have htakes := takes_intake horder (start ++ chunk)
    by_cases hstop : (intake order (start ++ chunk)).stop = .incomplete
    · rw [feed_cons_of_incomplete hstop]
      exact .more htakes hstop (ih _)
    · rw [feed_cons_of_ne hstop]
      exact .fault htakes hstop

/-- In one order there is one way to feed chunks. -/
theorem feeds_singleton_iff {steps : List Intake} :
    Feeds {order} start chunks steps ↔ steps = feed order start chunks := by
  constructor
  · intro h
    induction h with
    | done => rfl
    | fault h hstop =>
      cases takes_singleton_iff.mp h
      exact (feed_cons_of_ne hstop).symm
    | more h hstop _ ih =>
      cases takes_singleton_iff.mp h
      rw [feed_cons_of_incomplete hstop, ← ih]
  · intro h
    rw [h]
    exact feeds_feed (Set.mem_singleton order) start chunks

/-- **A run.**  Feeding stops where nothing more can be read.  What is taken off the bytes that were
left and those that were not read any more comes, on the whole stream, behind the requests that were
fed; all is read unless there was a fault. -/
theorem Feeds.spec {steps : List Intake} (h : Feeds orders start chunks steps)
    (hstart : ∃ order ∈ orders, Request.read order start = .error .incomplete) :
    (∃ order ∈ orders, Request.read order (Intake.total start steps).pending =
        .error (Intake.total start steps).stop) ∧
      (∀ i, Takes orders
          ((Intake.total start steps).pending ++ (chunks.drop steps.length).flatten) i →
        Takes orders (start ++ chunks.flatten) (i.after (Intake.total start steps).requests)) ∧
      ((Intake.total start steps).stop = .incomplete →
        (chunks.drop steps.length).flatten = []) := by
  induction h with
  | done => exact ⟨hstart, fun _ hi => hi, fun _ => rfl⟩
  | fault h hstop =>
    refine ⟨h.read_pending, fun i hi => ?_, fun hwait => absurd hwait hstop⟩
    rw [List.flatten_cons, ← List.append_assoc]
    exact h.append hi
  | @more start chunk chunks i steps h hstop hrest ih =>
    -- The bytes left over are the start of the remaining run.
    have hread := h.read_pending
    rw [hstop] at hread
    obtain ⟨hpending, hwhole, hunread⟩ := ih hread
    rw [Intake.total_cons hstop]
    refine ⟨hpending, fun j hj => ?_, hunread⟩
    have happend := h.append (hwhole j hj)
    rw [List.flatten_cons, ← List.append_assoc]
    rw [Intake.after_after] at happend
    exact happend

/-- A buffer without bytes is waited for. -/
theorem read_nil (order : FieldOrder) : Request.read order [] = .error .incomplete := rfl

/-- One chunk is taken as a whole. -/
theorem Intake.ofChunks_singleton (order : FieldOrder) (data : Bytes) :
    ofChunks order [data] = intake order data := by
  rw [ofChunks, feed, List.nil_append]
  split <;> rfl

end Feeding

/-! ### The chunks and the whole -/

section Whole

variable {orders : Set FieldOrder} (order : FieldOrder) (chunks : List Bytes)

/-- The run in one order. -/
theorem ofChunks_spec :
    Request.read order (Intake.ofChunks order chunks).pending =
        .error (Intake.ofChunks order chunks).stop ∧
      intake order chunks.flatten =
        (intake order ((Intake.ofChunks order chunks).pending ++ unread order [] chunks)).after
          (Intake.ofChunks order chunks).requests ∧
      ((Intake.ofChunks order chunks).stop = .incomplete → unread order [] chunks = []) := by
  have hfeeds := feeds_feed (Set.mem_singleton order) [] chunks
  obtain ⟨⟨last, hlast, hread⟩, hwhole, hunread⟩ := hfeeds.spec ⟨order, rfl, read_nil order⟩
  rw [Set.mem_singleton_iff.mp hlast] at hread
  have htakes := hwhole _ (takes_intake (Set.mem_singleton order) _)
  exact ⟨hread, (takes_singleton_iff.mp htakes).symm, hunread⟩

theorem read_pending_ofChunks :
    Request.read order (Intake.ofChunks order chunks).pending =
      .error (Intake.ofChunks order chunks).stop :=
  (ofChunks_spec order chunks).1

theorem intake_flatten :
    intake order chunks.flatten =
      (intake order ((Intake.ofChunks order chunks).pending ++ unread order [] chunks)).after
        (Intake.ofChunks order chunks).requests :=
  (ofChunks_spec order chunks).2.1

/-- Unless the bytes are cut at the limit of a head, chunks give the requests and the verdict of
the whole stream. -/
theorem ofChunks_eq_whole
    (h : ¬ CutAtLimit (Intake.ofChunks order chunks).pending (unread order [] chunks)) :
    (intake order chunks.flatten).requests = (Intake.ofChunks order chunks).requests ∧
    (intake order chunks.flatten).stop = (Intake.ofChunks order chunks).stop ∧
    (intake order chunks.flatten).pending =
      (Intake.ofChunks order chunks).pending ++ unread order [] chunks := by
  have hread := read_pending_ofChunks order chunks
  have hrest : Request.read order
      ((Intake.ofChunks order chunks).pending ++ unread order [] chunks) =
        .error (Intake.ofChunks order chunks).stop := by
    by_cases hstop : (Intake.ofChunks order chunks).stop = .incomplete
    · rw [(ofChunks_spec order chunks).2.2 hstop, List.append_nil, hread]
    · rw [read_append_of_not_cutAtLimit h, hread]
      rw [hread]
      intro heq
      exact hstop (Except.error.inj heq)
  rw [intake_flatten, intake_of_error hrest]
  exact ⟨List.append_nil _, rfl, rfl⟩

variable {chunks}

end Whole

/-! ### Names that do not collide -/

/-- Whether a buffer can be left of another one after some requests have been taken off. -/
inductive Remains : Bytes → Bytes → Prop
  /-- No request has been taken off. -/
  | refl (b : Bytes) : Remains b b
  /-- A request has been taken off, and then others. -/
  | cut {order : FieldOrder} {b rest : Bytes} {r : Request} {n : Nat}
      (h : Request.read order b = .ok (r, n)) (hrest : Remains (b.drop n) rest) : Remains b rest

/-- Whether in each head of a stream different names differ in more than the case of letters. -/
def NamesDifferThroughout (b : Bytes) : Prop := ∀ rest, Remains b rest → Request.NamesDiffer rest

section Names

variable {orders : Set FieldOrder} {b x rest : Bytes} {i : Intake}

theorem Remains.append (h : Remains b rest) (x : Bytes) : Remains (b ++ x) (rest ++ x) := by
  induction h with
  | refl b => exact .refl _
  | cut h _ ih =>
    have hle := (Request.read_consumed h).2
    rw [← List.drop_append_of_le_length hle] at ih
    exact .cut (Request.read_append_ok h x) ih

theorem Remains.trans {c : Bytes} (h : Remains b rest) (h' : Remains rest c) : Remains b c := by
  induction h with
  | refl => exact h'
  | cut h _ ih => exact .cut h (ih h')

theorem Takes.remains (h : Takes orders b i) : Remains b i.pending := by
  induction h with
  | stop => exact .refl _
  | next _ h _ ih => exact .cut h ih

/-- The header lines of a buffer are still its header lines when more has arrived. -/
theorem Request.NamesDiffer.of_append (h : NamesDiffer (b ++ x)) : NamesDiffer b := by
  cases hm : headLength? b with
  | none =>
    -- Before its empty line a head has no header lines.
    have hnames : headerNames b = [] := by
      unfold headerNames
      rw [hm]
    intro a ha
    rw [hnames] at ha
    cases ha
  | some m =>
    have hnames : headerNames (b ++ x) = headerNames b := by
      have hle := headLength?_le hm
      unfold headerNames
      rw [hm, headLength?_append hm x]
      dsimp only
      rw [List.take_append_of_le_length (by omega)]
    rw [NamesDiffer, hnames] at h
    exact h

theorem NamesDifferThroughout.of_append (h : NamesDifferThroughout (b ++ x)) :
    NamesDifferThroughout b :=
  fun _ hrest => (h _ (hrest.append x)).of_append

theorem NamesDifferThroughout.of_remains (h : NamesDifferThroughout b) (hrest : Remains b rest) :
    NamesDifferThroughout rest :=
  fun _ hc => h _ (hrest.trans hc)

/-- Where names do not collide it does not matter in which orders requests are taken off. -/
theorem Takes.inOrder (h : Takes orders b i) (hnames : NamesDifferThroughout b)
    (order : FieldOrder) : Takes {order} b i := by
  induction h with
  | stop _ h =>
    rw [Request.read_eq_read (hnames _ (.refl _)) _ order] at h
    exact .stop (Set.mem_singleton order) h
  | next _ h _ ih =>
    have hrest := ih (hnames.of_remains (.cut h (.refl _)))
    rw [Request.read_eq_read (hnames _ (.refl _)) _ order] at h
    exact .next (Set.mem_singleton order) h hrest

/-- Where names do not collide it does not matter in which orders chunks are fed. -/
theorem Feeds.inOrder {start : Bytes} {chunks : List Bytes} {steps : List Intake}
    (h : Feeds orders start chunks steps) (hnames : NamesDifferThroughout (start ++ chunks.flatten))
    (order : FieldOrder) : Feeds {order} start chunks steps := by
  induction h with
  | done => exact .done
  | fault h hstop =>
    rw [List.flatten_cons, ← List.append_assoc] at hnames
    exact .fault (h.inOrder hnames.of_append order) hstop
  | more h hstop _ ih =>
    rw [List.flatten_cons, ← List.append_assoc] at hnames
    -- What the next chunks are fed to is what remains of the whole.
    have hrest := ih (hnames.of_remains (h.remains.append _))
    exact .more (h.inOrder hnames.of_append order) hstop hrest

end Names

end PreviewServer
