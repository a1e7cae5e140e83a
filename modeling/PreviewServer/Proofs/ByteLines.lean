import PreviewServer.Proofs.HeadEnd
import PreviewServer.Text.Split
import Mathlib.Data.List.Infix

/-!
# Heads as lines of bytes

Where a head ends is decided before it is known to be text, so its lines are lines of bytes first.
Bytes that are put together from lines end at the empty line behind them
(`headLength?_message`), and every buffer whose head is complete is put together in this way
(`exists_isHead`): no line contains a line break, and none but the first one is empty.
-/

namespace PreviewServer

/-- The bytes of a line break. -/
def breakBytes : Bytes := [13, 10]

/-- Whether bytes are a single line: they contain no line break. -/
def IsByteLine (bs : Bytes) : Prop := ¬ breakBytes <:+: bs

/-- Whether bytes are the lines of a head: none of them contains a line break, and none but the
first one is empty. -/
structure IsHead (first : Bytes) (lines : List Bytes) : Prop where
  /-- No line contains a line break. -/
  isByteLine : ∀ l ∈ first :: lines, IsByteLine l
  /-- No line but the first one is empty. -/
  ne_nil : ∀ l ∈ lines, l ≠ []

/-- A head with these lines, the empty line behind it, and what follows. -/
def message (first : Bytes) (lines : List Bytes) (rest : Bytes) : Bytes :=
  joinWith breakBytes (first :: lines) ++ emptyLine ++ rest

/-! ### The end of lines that are put together -/

theorem IsByteLine.of_cons {b : UInt8} {l : Bytes} (h : IsByteLine (b :: l)) : IsByteLine l :=
  fun hb => h (List.infix_cons hb)

/-- A line with the start of another line break behind it does not begin with a line break. -/
theorem IsByteLine.not_prefix {b : UInt8} {l : Bytes} (h : IsByteLine (b :: l)) (rest : Bytes) :
    ¬ breakBytes <+: b :: (l ++ 13 :: rest) := by
  intro hp
  obtain ⟨rfl, hnext⟩ := List.cons_prefix_cons.mp hp
  cases l with
  | nil => exact absurd (List.cons_prefix_cons.mp hnext).1 (by decide)
  | cons c l =>
    obtain ⟨rfl, -⟩ := List.cons_prefix_cons.mp hnext
    exact h ⟨[], l, rfl⟩

/-- No empty line begins within a line. -/
theorem headEndFrom_byteLine {l : Bytes} (h : IsByteLine l) (k : Nat) (rest : Bytes) :
    headEndFrom k (l ++ 13 :: rest) = headEndFrom (k + l.length) (13 :: rest) := by
  induction l generalizing k with
  | nil => rfl
  | cons b l ih =>
    have hb : ¬ emptyLine <+: b :: (l ++ 13 :: rest) :=
      fun hp => h.not_prefix rest (List.IsPrefix.trans ⟨[13, 10], rfl⟩ hp)
    rw [List.cons_append, headEndFrom_cons, if_neg hb, ih h.of_cons, List.length_cons,
      Nat.add_assoc, Nat.add_comm 1]

/-- Joined pieces are joined. -/
theorem joinWith_append {α : Type} (sep f g : List α) (fs gs : List (List α)) :
    joinWith sep (f :: fs ++ g :: gs) = joinWith sep (f :: fs) ++ sep ++ joinWith sep (g :: gs) := by
  induction fs generalizing f with
  | nil => rfl
  | cons h fs ih =>
    rw [List.cons_append, List.cons_append, joinWith, ← List.cons_append, ih, joinWith]
    simp only [List.append_assoc]

/-- From any of its lines on, a message is a message. -/
theorem message_append (first : Bytes) (before : List Bytes) (l : Bytes) (behind : List Bytes)
    (rest : Bytes) :
    message first (before ++ l :: behind) rest =
      joinWith breakBytes (first :: before) ++ breakBytes ++ message l behind rest := by
  rw [message, ← List.cons_append, joinWith_append, message]
  simp only [List.append_assoc]

/-- Behind the first line of a message there is a line break. -/
theorem exists_message_eq (first : Bytes) (lines : List Bytes) (rest : Bytes) :
    ∃ tail, message first lines rest = first ++ 13 :: 10 :: tail := by
  cases lines with
  | nil =>
    refine ⟨13 :: 10 :: rest, ?_⟩
    rw [message, joinWith, List.append_assoc]
    rfl
  | cons l lines =>
    refine ⟨message l lines rest, ?_⟩
    have hsplit := message_append first [] l lines rest
    rw [joinWith, List.append_assoc] at hsplit
    exact hsplit

theorem headEndFrom_message {first : Bytes} {lines : List Bytes} (h : IsHead first lines) (k : Nat)
    (rest : Bytes) :
    headEndFrom k (message first lines rest) =
      some (k + (joinWith breakBytes (first :: lines)).length) := by
  have hfirst := h.isByteLine first List.mem_cons_self
  induction lines generalizing k first with
  | nil =>
    rw [message, joinWith, List.append_assoc]
    exact headEndFrom_byteLine hfirst k _
  | cons l lines ih =>
    have hl : IsByteLine l := h.isByteLine l (List.mem_cons_of_mem first List.mem_cons_self)
    have hlines : IsHead l lines :=
      ⟨fun m hm => h.isByteLine m (List.mem_cons_of_mem first hm),
        fun m hm => h.ne_nil m (List.mem_cons_of_mem l hm)⟩
    have hsplit : message first (l :: lines) rest = first ++ 13 :: 10 :: message l lines rest := by
      have happend := message_append first [] l lines rest
      rwa [joinWith, List.append_assoc] at happend
    -- The line break behind the first line is followed by a line that is not empty.
    have hnext : ¬ emptyLine <+: 13 :: 10 :: message l lines rest := by
      obtain ⟨b, l', rfl⟩ := List.exists_cons_of_ne_nil (h.ne_nil l List.mem_cons_self)
      obtain ⟨tail, htail⟩ := exists_message_eq (b :: l') lines rest
      rw [htail]
      intro hp
      exact hl.not_prefix (10 :: tail) (List.cons_prefix_cons.mp (List.cons_prefix_cons.mp hp).2).2
    have hbreak : ¬ emptyLine <+: 10 :: message l lines rest :=
      fun hp => absurd (List.cons_prefix_cons.mp hp).1 (by decide)
    rw [hsplit, headEndFrom_byteLine hfirst, headEndFrom_cons, if_neg hnext, headEndFrom_cons,
      if_neg hbreak, ih hlines _ hl, joinWith]
    have hlength : breakBytes.length = 2 := rfl
    simp only [List.length_append, Option.some.injEq, hlength]
    omega

/-- **Lines that are put together end at the empty line behind them.** -/
theorem headLength?_message {first : Bytes} {lines : List Bytes} (h : IsHead first lines)
    (rest : Bytes) :
    headLength? (message first lines rest) =
      some (joinWith breakBytes (first :: lines)).length := by
  rw [headLength?, headEndFrom_message h, Nat.zero_add]

/-- The head of a message is what stands before the empty line. -/
theorem take_message (first : Bytes) (lines : List Bytes) (rest : Bytes) :
    (message first lines rest).take (joinWith breakBytes (first :: lines)).length =
      joinWith breakBytes (first :: lines) := by
  rw [message, List.append_assoc, List.take_left]

/-- What follows the empty line of a message. -/
theorem drop_message (first : Bytes) (lines : List Bytes) (rest : Bytes) :
    (message first lines rest).drop ((joinWith breakBytes (first :: lines)).length + 4) = rest := by
  have hlength : (joinWith breakBytes (first :: lines) ++ emptyLine).length =
      (joinWith breakBytes (first :: lines)).length + 4 := List.length_append
  rw [message, ← hlength, List.drop_left]

/-! ### Heads cut into lines -/

/-- Bytes are lines with line breaks between them. -/
theorem exists_byteLines (bs : Bytes) :
    ∃ first lines, bs = joinWith breakBytes (first :: lines) ∧
      ∀ l ∈ first :: lines, IsByteLine l := by
  induction hn : bs.length using Nat.strong_induction_on generalizing bs with
  | _ n ih =>
    by_cases h : IsByteLine bs
    · exact ⟨bs, [], rfl, fun l hl => List.mem_singleton.mp hl ▸ h⟩
    · -- Around a line break there are fewer bytes on both sides.
      obtain ⟨before, behind, rfl⟩ := not_not.mp h
      have hbreak : breakBytes.length = 2 := rfl
      simp only [List.length_append, hbreak] at hn
      obtain ⟨f, fs, hfs, hf⟩ := ih before.length (by omega) before rfl
      obtain ⟨g, gs, hgs, hg⟩ := ih behind.length (by omega) behind rfl
      refine ⟨f, fs ++ g :: gs, ?_, ?_⟩
      · rw [← List.cons_append, joinWith_append, ← hfs, ← hgs]
      · rw [← List.cons_append]
        intro l hl
        exact (List.mem_append.mp hl).elim (hf l) (hg l)

/-- An empty line among the lines would have been the end of the head. -/
theorem ne_nil_of_headLength? {first : Bytes} {lines : List Bytes} {rest : Bytes}
    (h : headLength? (message first lines rest) =
      some (joinWith breakBytes (first :: lines)).length) :
    ∀ l ∈ lines, l ≠ [] := by
  rintro l hl rfl
  obtain ⟨before, behind, rfl⟩ := List.append_of_mem hl
  have hearlier : (joinWith breakBytes (first :: before)).length <
      (joinWith breakBytes (first :: (before ++ [] :: behind))).length := by
    have hbreak : breakBytes.length = 2 := rfl
    rw [← List.cons_append, joinWith_append, List.length_append, List.length_append, hbreak]
    omega
  have hno := (headLength?_eq_some_iff.mp h).2 _ hearlier
  rw [message_append, List.append_assoc, List.drop_left] at hno
  obtain ⟨tail, htail⟩ := exists_message_eq [] behind rest
  exact hno ⟨tail, by rw [htail]; rfl⟩

/-- **Every buffer whose head is complete is put together from lines.** -/
theorem exists_isHead {b : Bytes} {n : Nat} (h : headLength? b = some n) :
    ∃ first lines, IsHead first lines ∧ b = message first lines (b.drop (n + 4)) := by
  obtain ⟨first, lines, htake, hline⟩ := exists_byteLines (b.take n)
  have hle := headLength?_le h
  have hb : b = message first lines (b.drop (n + 4)) := by
    obtain ⟨rest, hrest⟩ := (headLength?_eq_some_iff.mp h).1
    have hbehind : b.drop (n + 4) = rest := by
      rw [← List.drop_drop, ← hrest]
      exact List.drop_left' rfl
    rw [message, ← htake, hbehind, List.append_assoc, hrest, List.take_append_drop]
  have hend : headLength? (message first lines (b.drop (n + 4))) =
      some (joinWith breakBytes (first :: lines)).length := by
    rw [← hb, ← htake, List.length_take, Nat.min_eq_left (by omega)]
    exact h
  exact ⟨first, lines, ⟨hline, ne_nil_of_headLength? hend⟩, hb⟩

end PreviewServer
