/-!
# The order of texts

Texts are ordered character by character, by code point; a proper beginning comes first.  This is
also the order of their UTF-8 bytes.  The order is total (`leChars_total`), transitive
(`leChars_trans`) and antisymmetric (`leChars_antisymm`), so sorting by it is deterministic.
-/

namespace PreviewServer

/-- Whether the first list of characters comes before the second or equals it. -/
def leChars : List Char → List Char → Bool
  | [], _ => true
  | _ :: _, [] => false
  | a :: as, b :: bs => a.toNat < b.toNat || (a.toNat = b.toNat && leChars as bs)

theorem leChars_total (as bs : List Char) : leChars as bs || leChars bs as := by
  induction as generalizing bs with
  | nil => simp [leChars]
  | cons a as ih =>
    cases bs with
    | nil => simp [leChars]
    | cons b bs =>
      have := ih bs
      rcases Nat.lt_trichotomy a.toNat b.toNat with h | h | h
      · simp [leChars, h]
      · simp_all [leChars]
      · simp [leChars, h]

theorem leChars_trans {as bs cs : List Char} (h : leChars as bs) (h' : leChars bs cs) :
    leChars as cs := by
  induction as generalizing bs cs with
  | nil => rfl
  | cons a as ih =>
    cases bs with
    | nil => simp [leChars] at h
    | cons b bs =>
      cases cs with
      | nil => simp [leChars] at h'
      | cons c cs =>
        simp only [leChars, Bool.or_eq_true, Bool.and_eq_true, decide_eq_true_eq] at h h' ⊢
        rcases h with h | ⟨h, hs⟩ <;> rcases h' with h' | ⟨h', hs'⟩
        · left; omega
        · left; omega
        · left; omega
        · exact .inr ⟨h.trans h', ih hs hs'⟩

theorem leChars_antisymm {as bs : List Char} (h : leChars as bs) (h' : leChars bs as) :
    as = bs := by
  induction as generalizing bs with
  | nil => cases bs with
    | nil => rfl
    | cons b bs => simp [leChars] at h'
  | cons a as ih =>
    cases bs with
    | nil => simp [leChars] at h
    | cons b bs =>
      simp only [leChars, Bool.or_eq_true, Bool.and_eq_true, decide_eq_true_eq] at h h'
      rcases h with h | ⟨h, hs⟩ <;> rcases h' with h' | ⟨h', hs'⟩
      · omega
      · omega
      · omega
      · rw [Char.toNat_inj.1 h, ih hs hs']

/-- Whether the first text comes before the second or equals it. -/
def leText (s t : String) : Bool := leChars s.toList t.toList

end PreviewServer
