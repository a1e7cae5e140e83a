import PreviewServer.Text.Order
import PreviewServer.Text.Utf8
import Mathlib.Data.List.Basic

/-!
# The order of texts is that of their bytes

Texts are ordered by code points, and byte strings byte by byte.  UTF-8 keeps the order
(`leText_iff`): of two different characters, the one with the smaller code point has the smaller
bytes already before either of them ends (`utf8EncodeChar_append_lt`), so what follows does not
matter.
-/

namespace PreviewServer

/-- **A smaller character has smaller bytes**, whatever follows. -/
theorem utf8EncodeChar_append_lt {a b : Char} (h : a.toNat < b.toNat) (x y : Bytes) :
    String.utf8EncodeChar a ++ x < String.utf8EncodeChar b ++ y := by
  have hb : b.val.toNat < 1114112 := by
    rcases b.valid with hlt | ⟨-, hlt⟩ <;> omega
  change a.val.toNat < b.val.toNat at h
  -- The digits of a code point to base 64, each from the ones before it.
  have hsecond : ∀ k : Nat, k / 4096 = k / 64 / 64 := by omega
  have hthird : ∀ k : Nat, k / 262144 = k / 64 / 64 / 64 := by omega
  unfold String.utf8EncodeChar
  generalize a.val.toNat = m at h ⊢
  generalize b.val.toNat = n at h hb ⊢
  simp only [hsecond, hthird]
  have hbyte : ∀ {k l : Nat}, k < 256 → l < 256 →
      (UInt8.ofNat k < UInt8.ofNat l ↔ k < l) ∧ (UInt8.ofNat k = UInt8.ofNat l ↔ k = l) := by
    intro k l hk hl
    refine ⟨UInt8.ofNat_lt_iff_lt hk hl, ?_⟩
    rw [← UInt8.toNat_inj, UInt8.toNat_ofNat_of_lt' hk, UInt8.toNat_ofNat_of_lt' hl]
  -- Longer encodings begin with greater bytes; within one length the bytes are the digits.
  split_ifs
  all_goals
    simp (disch := omega) only [List.cons_append, List.nil_append, List.cons_lt_cons_iff,
      (hbyte _ _).1, (hbyte _ _).2]
    omega

/-- What two byte strings begin with does not matter. -/
theorem append_le_append_iff (p : Bytes) {x y : Bytes} : p ++ x ≤ p ++ y ↔ x ≤ y := by
  induction p with
  | nil => exact Iff.rfl
  | cons b p ih =>
    rw [List.cons_append, List.cons_append, List.cons_le_cons_iff, ih]
    simp only [UInt8.lt_irrefl, true_and, false_or]

theorem leChars_iff (as bs : List Char) :
    leChars as bs = true ↔
      as.flatMap String.utf8EncodeChar ≤ bs.flatMap String.utf8EncodeChar := by
  induction as generalizing bs with
  | nil => exact iff_of_true rfl (List.nil_le _)
  | cons a as ih =>
    cases bs with
    | nil =>
      obtain ⟨d, ds, hd⟩ := List.exists_cons_of_ne_nil (String.utf8EncodeChar_ne_nil (c := a))
      rw [List.flatMap_cons, hd, List.cons_append, List.flatMap_nil]
      exact iff_of_false nofun (by simp)
    | cons b bs =>
      rw [List.flatMap_cons, List.flatMap_cons, leChars]
      rcases Nat.lt_trichotomy a.toNat b.toNat with h | h | h
      · have hlt := utf8EncodeChar_append_lt h (as.flatMap String.utf8EncodeChar)
          (bs.flatMap String.utf8EncodeChar)
        exact iff_of_true (by simp [h]) (List.le_of_lt hlt)
      · obtain rfl := Char.toNat_inj.mp h
        rw [append_le_append_iff, ← ih]
        simp
      · have hlt := utf8EncodeChar_append_lt h (bs.flatMap String.utf8EncodeChar)
          (as.flatMap String.utf8EncodeChar)
        refine iff_of_false ?_ (List.not_le.mpr hlt)
        simp only [Bool.or_eq_true, Bool.and_eq_true, decide_eq_true_eq]
        omega

/-- **The order of texts is that of their UTF-8 bytes.** -/
theorem leText_iff (s t : String) : leText s t = true ↔ Utf8.encode s ≤ Utf8.encode t := by
  rw [leText, leChars_iff, ← Utf8.encode_ofList, ← Utf8.encode_ofList, String.ofList_toList,
    String.ofList_toList]

end PreviewServer
