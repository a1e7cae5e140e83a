/-!
# Blanks, words and trimming

Header lines and request lines are read up to blanks, where a blank is any character with the
Unicode property White_Space.  A list of characters is trimmed at both ends (`trimBlanks`) and cut
into words (`words`); a word is never empty and never contains a blank (`mem_words`).
-/

namespace PreviewServer

/-- The Unicode property White_Space: twenty-five characters, six of them in ASCII. -/
def isBlank (c : Char) : Bool :=
  let n := c.toNat
  (9 ≤ n && n ≤ 13) || n = 0x20 || n = 0x85 || n = 0xA0 || n = 0x1680 ||
    (0x2000 ≤ n && n ≤ 0x200A) || n = 0x2028 || n = 0x2029 || n = 0x202F || n = 0x205F || n = 0x3000

/-- The blanks of the core library are blanks here. -/
theorem isBlank_of_isWhitespace {c : Char} (h : c.isWhitespace) : isBlank c := by
  simp only [Char.isWhitespace, Bool.or_eq_true, decide_eq_true_eq] at h
  rcases h with ((rfl | rfl) | rfl) | rfl <;> decide

/-- A digit is no blank. -/
theorem isBlank_eq_false_of_isDigit {c : Char} (h : c.isDigit) : isBlank c = false := by
  have hn : 48 ≤ c.toNat ∧ c.toNat ≤ 57 := by
    rw [Char.isDigit, Bool.and_eq_true, decide_eq_true_eq, decide_eq_true_eq] at h
    exact h
  unfold isBlank
  simp only [Bool.or_eq_false_iff, Bool.and_eq_false_iff, decide_eq_false_iff_not]
  omega

/-! ### Trimming -/

/-- The list without the blanks at its start. -/
def trimStart (cs : List Char) : List Char := cs.dropWhile isBlank

/-- The list without the blanks at its end. -/
def trimEnd (cs : List Char) : List Char := (cs.reverse.dropWhile isBlank).reverse

/-- The list without the blanks at its two ends. -/
def trimBlanks (cs : List Char) : List Char := trimEnd (trimStart cs)

/-- Nothing is left at the start exactly when every character is a blank. -/
theorem trimStart_eq_nil_iff {cs : List Char} : trimStart cs = [] ↔ ∀ c ∈ cs, isBlank c := by
  induction cs with
  | nil => simp [trimStart]
  | cons c cs ih =>
    rw [trimStart, List.dropWhile_cons, List.forall_mem_cons]
    cases h : isBlank c with
    | true => simp only [if_true, true_and]; exact ih
    | false => simp

/-- What is left at the start does not begin with a blank. -/
theorem isBlank_of_trimStart_eq_cons {cs ds : List Char} {d : Char}
    (h : trimStart cs = d :: ds) : isBlank d = false := by
  induction cs with
  | nil => cases h
  | cons c cs ih =>
    rw [trimStart, List.dropWhile_cons] at h
    cases hc : isBlank c with
    | true =>
      rw [hc, if_pos rfl] at h
      exact ih h
    | false =>
      rw [hc, if_neg Bool.false_ne_true] at h
      exact (List.cons.inj h).1 ▸ hc

/-- Trimming leaves nothing exactly when every character is a blank. -/
theorem trimBlanks_eq_nil_iff {cs : List Char} : trimBlanks cs = [] ↔ ∀ c ∈ cs, isBlank c := by
  rw [trimBlanks, trimEnd, List.reverse_eq_nil_iff, ← trimStart, trimStart_eq_nil_iff,
    ← @trimStart_eq_nil_iff cs]
  cases h : trimStart cs with
  | nil => simp
  | cons d ds =>
    have hd := isBlank_of_trimStart_eq_cons h
    refine ⟨fun hb => ?_, fun hb => nomatch hb⟩
    have := hb d (by simp)
    rw [hd] at this
    cases this

/-! ### Words -/

/-- The pieces between blanks; there is one more piece than there are blanks, so pieces may be
empty. -/
def pieces : List Char → List (List Char)
  | [] => [[]]
  | c :: cs =>
    if isBlank c then [] :: pieces cs
    else
      match pieces cs with
      | [] => [[c]]
      | w :: ws => (c :: w) :: ws

/-- The maximal runs of characters that are not blanks, in order. -/
def words (cs : List Char) : List (List Char) := (pieces cs).filter fun w => w ≠ []

theorem isBlank_of_mem_pieces {cs w : List Char} (hw : w ∈ pieces cs) :
    ∀ c ∈ w, isBlank c = false := by
  induction cs generalizing w with
  | nil => simp_all [pieces]
  | cons c cs ih =>
    rw [pieces] at hw
    cases hc : isBlank c with
    | true =>
      rw [hc, if_pos rfl] at hw
      rcases List.mem_cons.1 hw with rfl | hw
      · exact fun _ h => nomatch h
      · exact ih hw
    | false =>
      rw [hc, if_neg Bool.false_ne_true] at hw
      cases hp : pieces cs with
      | nil =>
        rw [hp] at hw
        obtain rfl := List.mem_singleton.1 hw
        exact fun d hd => List.mem_singleton.1 hd ▸ hc
      | cons v vs =>
        rw [hp] at hw
        rcases List.mem_cons.1 hw with rfl | hw
        · exact List.forall_mem_cons.2 ⟨hc, ih (hp ▸ List.mem_cons_self)⟩
        · exact ih (hp ▸ List.mem_cons_of_mem v hw)

theorem pieces_of_isBlank_eq_false {w : List Char} (hw : ∀ c ∈ w, isBlank c = false) :
    pieces w = [w] := by
  induction w with
  | nil => rfl
  | cons c w ih =>
    rw [pieces, hw c List.mem_cons_self, if_neg Bool.false_ne_true,
      ih fun d hd => hw d (List.mem_cons_of_mem c hd)]

theorem pieces_append_cons {w cs : List Char} {b : Char} (hw : ∀ c ∈ w, isBlank c = false)
    (hb : isBlank b) : pieces (w ++ b :: cs) = w :: pieces cs := by
  induction w with
  | nil => rw [List.nil_append, pieces, if_pos hb]
  | cons c w ih =>
    rw [List.cons_append, pieces, hw c List.mem_cons_self, if_neg Bool.false_ne_true,
      ih fun d hd => hw d (List.mem_cons_of_mem c hd)]

/-- A word is not empty and contains no blank. -/
theorem mem_words {cs w : List Char} (hw : w ∈ words cs) :
    w ≠ [] ∧ ∀ c ∈ w, isBlank c = false := by
  obtain ⟨hp, hn⟩ := List.mem_filter.1 hw
  exact ⟨of_decide_eq_true hn, isBlank_of_mem_pieces hp⟩

/-- Whether a text is free of blanks can be computed. -/
theorem isBlank_eq_false_of_any {w : List Char} (h : w.any isBlank = false) :
    ∀ c ∈ w, isBlank c = false := by
  intro c hc
  exact Bool.eq_false_iff.mpr (List.any_eq_false.mp h c hc)

/-- Whether all characters of a text pass a test can be computed. -/
theorem forall_mem_of_all {p : Char → Prop} [DecidablePred p] {cs : List Char}
    (h : (cs.all fun c => p c) = true) : ∀ c ∈ cs, p c :=
  fun c hc => of_decide_eq_true (List.all_eq_true.mp h c hc)

/-- A text that is a word has no other words. -/
theorem words_of_isBlank_eq_false {w : List Char} (hne : w ≠ []) (hw : ∀ c ∈ w, isBlank c = false) :
    words w = [w] := by
  rw [words, pieces_of_isBlank_eq_false hw]
  exact List.filter_cons_of_pos (decide_eq_true hne)

/-- A word with a blank behind it is the first one. -/
theorem words_append_cons {w cs : List Char} {b : Char} (hne : w ≠ [])
    (hw : ∀ c ∈ w, isBlank c = false) (hb : isBlank b) : words (w ++ b :: cs) = w :: words cs := by
  rw [words, pieces_append_cons hw hb]
  exact List.filter_cons_of_pos (decide_eq_true hne)

end PreviewServer
