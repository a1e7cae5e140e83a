import PreviewServer.Http.RequestReader
import Mathlib.Data.List.Basic

/-!
# The end of a head

`headLength?` finds the first empty line of a buffer: `headLength? b = some n` iff the four bytes
of an empty line stand at `n` and at no earlier place (`headLength?_eq_some_iff`), and there is no
such place iff the answer is `none` (`headLength?_eq_none_iff`).

A byte that belongs to no empty line cuts the search in two: the end is before it or behind it
(`headEndFrom_append_cons`).

When more bytes arrive, an end that was found stays where it is (`headLength?_append`).  An end that
is found only then lies in the last three bytes or behind them: the buffer was cut inside the
empty line or before it (`headLength?_eq_none_iff_of_append`).
-/

namespace PreviewServer

/-! ### The first empty line -/

/-- The break that ends the last line of a head, and the empty line after it. -/
def emptyLine : Bytes := [13, 10, 13, 10]

theorem headEndFrom_cons (k : Nat) (b : UInt8) (bs : Bytes) :
    headEndFrom k (b :: bs) = if emptyLine <+: b :: bs then some k else headEndFrom (k + 1) bs := by
  rw [headEndFrom.eq_def]
  split
  · rename_i rest heq
    have hp : emptyLine <+: b :: bs := ⟨rest, by simpa [emptyLine] using heq.symm⟩
    rw [if_pos hp]
  · rename_i c cs hne heq
    obtain ⟨rfl, rfl⟩ := List.cons.inj heq
    rw [if_neg]
    rintro ⟨rest, hrest⟩
    obtain ⟨rfl, rfl⟩ := List.cons.inj hrest.symm
    exact hne rest rfl rfl
  · rename_i heq
    cases heq

/-- The search from `k` on finds the first place of an empty line. -/
theorem headEndFrom_eq_some_iff {k n : Nat} {bs : Bytes} :
    headEndFrom k bs = some n ↔
      ∃ m, n = k + m ∧ emptyLine <+: bs.drop m ∧ ∀ i < m, ¬ emptyLine <+: bs.drop i := by
  induction bs generalizing k with
  | nil => simp [headEndFrom, emptyLine]
  | cons b bs ih =>
    rw [headEndFrom_cons]
    by_cases hp : emptyLine <+: b :: bs
    · rw [if_pos hp]
      constructor
      · intro h
        obtain rfl := Option.some.inj h
        exact ⟨0, rfl, hp, fun i hi => absurd hi (Nat.not_lt_zero i)⟩
      · rintro ⟨m, rfl, -, hmin⟩
        cases m with
        | zero => rfl
        | succ m => exact absurd hp (hmin 0 (Nat.succ_pos m))
    · rw [if_neg hp, ih]
      constructor
      · rintro ⟨m, rfl, hm, hmin⟩
        refine ⟨m + 1, by omega, hm, ?_⟩
        intro i hi
        cases i with
        | zero => exact hp
        | succ i => exact hmin i (by omega)
      · rintro ⟨m, rfl, hm, hmin⟩
        cases m with
        | zero => exact absurd hm hp
        | succ m => exact ⟨m, by omega, hm, fun i hi => hmin (i + 1) (by omega)⟩

/-- **The head ends at the first empty line.** -/
theorem headLength?_eq_some_iff {n : Nat} {b : Bytes} :
    headLength? b = some n ↔ emptyLine <+: b.drop n ∧ ∀ i < n, ¬ emptyLine <+: b.drop i := by
  unfold headLength?
  rw [headEndFrom_eq_some_iff]
  constructor
  · rintro ⟨m, hn, h⟩
    obtain rfl : n = m := by omega
    exact h
  · intro h
    exact ⟨n, by omega, h⟩

theorem headLength?_eq_none_iff {b : Bytes} :
    headLength? b = none ↔ ∀ i, ¬ emptyLine <+: b.drop i := by
  constructor
  · intro h i
    -- Were there an empty line, the first one would have been found.
    induction i using Nat.strongRecOn with
    | _ i ih =>
      intro hi
      have hsome := headLength?_eq_some_iff.mpr ⟨hi, ih⟩
      rw [h] at hsome
      cases hsome
  · intro h
    cases hn : headLength? b with
    | none => rfl
    | some n => exact absurd (headLength?_eq_some_iff.mp hn).1 (h n)

/-- A head that contains no carriage return ends where the first empty line after it begins. -/
theorem headLength?_of_not_mem {head : Bytes} (h : 13 ∉ head) (rest : Bytes) :
    headLength? (head ++ emptyLine ++ rest) = some head.length := by
  rw [headLength?_eq_some_iff]
  constructor
  · rw [List.append_assoc, List.drop_left]
    exact List.prefix_append _ _
  · intro i hi hp
    rw [List.append_assoc, List.drop_append_of_le_length (Nat.le_of_lt hi)] at hp
    obtain ⟨b, bs, hb⟩ : ∃ b bs, head.drop i = b :: bs :=
      List.exists_cons_of_ne_nil (by simp only [ne_eq, List.drop_eq_nil_iff]; omega)
    rw [hb, List.cons_append] at hp
    obtain rfl := (List.cons_prefix_cons.mp hp).1
    exact h (List.mem_of_mem_drop (hb ▸ List.mem_cons_self))

/-! ### Bytes that stand apart -/

/-- What begins before a separator ends before it. -/
theorem prefix_append_cons_iff {α : Type} {l a b : List α} {sep : α} (h : sep ∉ l) :
    l <+: a ++ sep :: b ↔ l <+: a := by
  constructor
  · intro hl
    rcases List.prefix_or_prefix_of_prefix hl (List.prefix_append a (sep :: b)) with hp | ⟨c, rfl⟩
    · exact hp
    · rw [List.prefix_append_right_inj] at hl
      cases c with
      | nil => simp
      | cons d c =>
        obtain rfl := (List.cons_prefix_cons.mp hl).1
        exact absurd (List.mem_append_right a List.mem_cons_self) h
  · exact fun hl => hl.trans (List.prefix_append a _)

/-- Four bytes within a buffer are not changed by what arrives behind them. -/
theorem emptyLine_prefix_drop_append_iff {b : Bytes} {i : Nat} (h : i + 4 ≤ b.length) (x : Bytes) :
    emptyLine <+: (b ++ x).drop i ↔ emptyLine <+: b.drop i := by
  rw [List.drop_append_of_le_length (by omega)]
  constructor
  · intro hp
    refine List.prefix_of_prefix_length_le hp (List.prefix_append _ _) ?_
    rw [List.length_drop]
    have : emptyLine.length = 4 := rfl
    omega
  · intro hp
    exact hp.trans (List.prefix_append _ _)

/-- **An end that was found stays.** -/
theorem headLength?_append {n : Nat} {b : Bytes} (h : headLength? b = some n) (x : Bytes) :
    headLength? (b ++ x) = some n := by
  have hle := headLength?_le h
  rw [headLength?_eq_some_iff] at h ⊢
  refine ⟨(emptyLine_prefix_drop_append_iff hle x).mpr h.1, ?_⟩
  intro i hi
  rw [emptyLine_prefix_drop_append_iff (by omega)]
  exact h.2 i hi

/-- The end of a head is not in sight as long as the empty line behind it has not arrived
completely. -/
theorem headLength?_eq_none_iff_of_append {n : Nat} {b x : Bytes}
    (h : headLength? (b ++ x) = some n) : headLength? b = none ↔ b.length < n + 4 := by
  constructor
  · intro hnone
    by_contra hge
    have hp := (headLength?_eq_some_iff.mp h).1
    rw [emptyLine_prefix_drop_append_iff (by omega)] at hp
    exact headLength?_eq_none_iff.mp hnone n hp
  · intro hlt
    cases hm : headLength? b with
    | none => rfl
    | some m =>
      have hle := headLength?_le hm
      have hmx := headLength?_append hm x
      rw [h] at hmx
      obtain rfl := Option.some.inj hmx
      omega

end PreviewServer
