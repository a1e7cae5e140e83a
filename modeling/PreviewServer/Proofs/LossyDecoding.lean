import PreviewServer.Proofs.Spellings
import Mathlib

/-!
# Decoding that cannot fail gives texts back

`Utf8.decodeLossy` reads any bytes, one character after another.  On the bytes of a text it is exact
(`decodeLossy_encode`): the bytes of a character are read as this character, whatever follows
(`first_utf8EncodeChar_append`).  There is one case for each length of an encoding, and for each of
them a lemma about what is read behind a first byte of its range.

Other bytes are read as something that is not ASCII.  An ASCII character is read from its byte only
(`exists_of_toNat_first_lt`), for no longer form is read as one, so an ASCII text is read from its
bytes only (`eq_encode_of_decodeLossy`).
-/

namespace PreviewServer.Utf8

/-! ### One character -/

variable {a b c d : UInt8}

theorem first_of_lt (ha : a < 0x80) (rest : Bytes) : first (a :: rest) = (Char.ofNat a.toNat, 1) := by
  rw [first.eq_def]
  dsimp only
  rw [if_pos ha]

theorem first_of_two (hlow : 0xC2 ≤ a) (hhigh : a ≤ 0xDF) (hb : isContinuation b = true)
    (rest : Bytes) : first (a :: b :: rest) = (assemble (a.toNat - 0xC0) [b], 2) := by
  have hascii : ¬ a < 0x80 := UInt8.not_lt.mpr (UInt8.le_trans (by decide) hlow)
  rw [first.eq_def]
  dsimp only
  rw [if_neg hascii, if_pos (by simp only [hlow, hhigh, decide_true, Bool.and_true]), if_pos hb]

theorem first_of_three (hlow : 0xE0 ≤ a) (hhigh : a ≤ 0xEF) (hb : isSecond a b = true)
    (hc : isContinuation c = true) (rest : Bytes) :
    first (a :: b :: c :: rest) = (assemble (a.toNat - 0xE0) [b, c], 3) := by
  have hascii : ¬ a < 0x80 := UInt8.not_lt.mpr (UInt8.le_trans (by decide) hlow)
  have htwo : ¬ a ≤ 0xDF := UInt8.not_le.mpr (UInt8.lt_of_lt_of_le (by decide) hlow)
  rw [first.eq_def]
  dsimp only
  rw [if_neg hascii, if_neg (by simp only [htwo, decide_false, Bool.and_false, Bool.false_eq_true,
    not_false_eq_true]), if_pos (by simp only [hlow, hhigh, decide_true, Bool.and_true]), if_pos hb,
    if_pos hc]

theorem first_of_four (hlow : 0xF0 ≤ a) (hhigh : a ≤ 0xF4) (hb : isSecond a b = true)
    (hc : isContinuation c = true) (hd : isContinuation d = true) (rest : Bytes) :
    first (a :: b :: c :: d :: rest) = (assemble (a.toNat - 0xF0) [b, c, d], 4) := by
  have hascii : ¬ a < 0x80 := UInt8.not_lt.mpr (UInt8.le_trans (by decide) hlow)
  have htwo : ¬ a ≤ 0xDF := UInt8.not_le.mpr (UInt8.lt_of_lt_of_le (by decide) hlow)
  have hthree : ¬ a ≤ 0xEF := UInt8.not_le.mpr (UInt8.lt_of_lt_of_le (by decide) hlow)
  rw [first.eq_def]
  dsimp only
  rw [if_neg hascii, if_neg (by simp only [htwo, decide_false, Bool.and_false, Bool.false_eq_true,
    not_false_eq_true]), if_neg (by simp only [hthree, decide_false, Bool.and_false,
    Bool.false_eq_true, not_false_eq_true]),
    if_pos (by simp only [hlow, hhigh, decide_true, Bool.and_true]), if_pos hb, if_pos hc, if_pos hd]

/-! ### Bytes as numbers -/

-- The bounds are numerals, which arithmetic can see through.
theorem le_ofNat {k n : Nat} (hk : k < 256) (hn : n < 256) (h : k ≤ n) :
    UInt8.ofNat k ≤ UInt8.ofNat n :=
  (UInt8.ofNat_le_iff_le hk hn).mpr h

theorem isContinuation_ofNat {n : Nat} (h : n < 64) :
    isContinuation (UInt8.ofNat (n + 128)) = true := by
  rw [isContinuation, Bool.and_eq_true, decide_eq_true_eq, decide_eq_true_eq]
  exact ⟨le_ofNat (k := 128) (by decide) (by omega) (by omega),
    le_ofNat (n := 191) (by omega) (by decide) (by omega)⟩

/-- The second byte is further bounded behind four first bytes. -/
theorem isSecond_ofNat {m n : Nat} (hm : m < 256) (hn : n < 64) (hE0 : m = 0xE0 → 32 ≤ n)
    (hED : m = 0xED → n < 32) (hF0 : m = 0xF0 → 16 ≤ n) (hF4 : m = 0xF4 → n < 16) :
    isSecond (UInt8.ofNat m) (UInt8.ofNat (n + 128)) = true := by
  have hfirst : ∀ {k}, k < 256 → UInt8.ofNat m = UInt8.ofNat k → m = k := by
    intro k hk heq
    rw [← UInt8.toNat_ofNat_of_lt' hm, heq, UInt8.toNat_ofNat_of_lt' hk]
  have hbetween : ∀ low high, low < 256 → high < 256 → low ≤ n + 128 → n + 128 ≤ high →
      (decide (UInt8.ofNat low ≤ UInt8.ofNat (n + 128)) &&
        decide (UInt8.ofNat (n + 128) ≤ UInt8.ofNat high)) = true := by
    intro low high hlow hhigh hle hge
    rw [Bool.and_eq_true, decide_eq_true_eq, decide_eq_true_eq]
    exact ⟨le_ofNat hlow (by omega) hle, le_ofNat (by omega) hhigh hge⟩
  unfold isSecond
  split_ifs with h1 h2 h3 h4
  · have := hE0 (hfirst (by decide) h1)
    exact hbetween 0xA0 0xBF (by decide) (by decide) (by omega) (by omega)
  · have := hED (hfirst (by decide) h2)
    exact hbetween 0x80 0x9F (by decide) (by decide) (by omega) (by omega)
  · have := hF0 (hfirst (by decide) h3)
    exact hbetween 0x90 0xBF (by decide) (by decide) (by omega) (by omega)
  · have := hF4 (hfirst (by decide) h4)
    exact hbetween 0x80 0x8F (by decide) (by decide) (by omega) (by omega)
  · exact isContinuation_ofNat hn

/-- **The bytes of a character are read as this character.** -/
theorem first_utf8EncodeChar_append (c : Char) (rest : Bytes) :
    first (String.utf8EncodeChar c ++ rest) = (c, (String.utf8EncodeChar c).length) := by
  have hvalid : c.val.toNat < 55296 ∨ 57343 < c.val.toNat ∧ c.val.toNat < 1114112 := c.valid
  have hc : Char.ofNat c.val.toNat = c := Char.ofNat_toNat c
  unfold String.utf8EncodeChar
  generalize c.val.toNat = v at hvalid hc
  have hbyte : ∀ {n}, n < 256 → (UInt8.ofNat n).toNat = n := UInt8.toNat_ofNat_of_lt'
  rw [← hc]
  dsimp only
  split_ifs with h1 h2 h3
  · have hv : (UInt8.ofNat v).toNat = v := hbyte (by omega)
    have hascii : UInt8.ofNat v < 0x80 := by
      rw [UInt8.lt_iff_toNat_lt, hv]
      exact Nat.lt_succ_of_le h1
    rw [List.cons_append, first_of_lt hascii, hv]
    rfl
  · have hlow : (0xC2 : UInt8) ≤ UInt8.ofNat (v / 64 % 32 + 192) :=
      le_ofNat (k := 0xC2) (by decide) (by omega) (by omega)
    have hhigh : UInt8.ofNat (v / 64 % 32 + 192) ≤ (0xDF : UInt8) :=
      le_ofNat (n := 0xDF) (by omega) (by decide) (by omega)
    have hvalue : (v / 64 % 32 + 192 - 0xC0) * 64 + (v % 64 + 128 - 0x80) = v := by omega
    rw [List.cons_append, List.cons_append, first_of_two hlow hhigh (isContinuation_ofNat (by omega)),
      assemble, List.foldl_cons, List.foldl_nil, hbyte (by omega),
      hbyte (by omega), hvalue]
    rfl
  · have hlow : (0xE0 : UInt8) ≤ UInt8.ofNat (v / 4096 % 16 + 224) :=
      le_ofNat (k := 0xE0) (by decide) (by omega) (by omega)
    have hhigh : UInt8.ofNat (v / 4096 % 16 + 224) ≤ (0xEF : UInt8) :=
      le_ofNat (n := 0xEF) (by omega) (by decide) (by omega)
    have hsecond := isSecond_ofNat (m := v / 4096 % 16 + 224) (n := v / 64 % 64) (by omega) (by omega)
      (by omega) (by omega) (by omega) (by omega)
    have hvalue : ((v / 4096 % 16 + 224 - 0xE0) * 64 + (v / 64 % 64 + 128 - 0x80)) * 64 +
        (v % 64 + 128 - 0x80) = v := by omega
    rw [List.cons_append, List.cons_append, List.cons_append,
      first_of_three hlow hhigh hsecond (isContinuation_ofNat (by omega)), assemble, List.foldl_cons,
      List.foldl_cons, List.foldl_nil, hbyte (by omega), hbyte (by omega),
      hbyte (by omega), hvalue]
    rfl
  · have hlow : (0xF0 : UInt8) ≤ UInt8.ofNat (v / 262144 % 8 + 240) :=
      le_ofNat (k := 0xF0) (by decide) (by omega) (by omega)
    have hhigh : UInt8.ofNat (v / 262144 % 8 + 240) ≤ (0xF4 : UInt8) :=
      le_ofNat (n := 0xF4) (by omega) (by decide) (by omega)
    have hsecond := isSecond_ofNat (m := v / 262144 % 8 + 240) (n := v / 4096 % 64) (by omega)
      (by omega) (by omega) (by omega) (by omega) (by omega)
    have hvalue : (((v / 262144 % 8 + 240 - 0xF0) * 64 + (v / 4096 % 64 + 128 - 0x80)) * 64 +
        (v / 64 % 64 + 128 - 0x80)) * 64 + (v % 64 + 128 - 0x80) = v := by omega
    rw [List.cons_append, List.cons_append, List.cons_append, List.cons_append,
      first_of_four hlow hhigh hsecond (isContinuation_ofNat (by omega))
        (isContinuation_ofNat (by omega)), assemble, List.foldl_cons, List.foldl_cons,
      List.foldl_cons, List.foldl_nil, hbyte (by omega), hbyte (by omega),
      hbyte (by omega), hbyte (by omega), hvalue]
    rfl

/-! ### Texts -/

theorem lossyChars_utf8EncodeChar_append (c : Char) (rest : Bytes) :
    lossyChars (String.utf8EncodeChar c ++ rest) = c :: lossyChars rest := by
  have hfirst := first_utf8EncodeChar_append c rest
  obtain ⟨a, bs, hbytes⟩ := List.exists_cons_of_ne_nil (String.utf8EncodeChar_ne_nil (c := c))
  rw [hbytes, List.cons_append] at hfirst ⊢
  have hdrop : (a :: (bs ++ rest)).drop (a :: bs).length = rest :=
    List.drop_left
  rw [lossyChars, hfirst, hdrop]

/-- **A text is read back from its bytes.** -/
theorem decodeLossy_encode (s : String) : decodeLossy (encode s) = s := by
  have hchars : ∀ cs : List Char, lossyChars (cs.flatMap String.utf8EncodeChar) = cs := by
    intro cs
    induction cs with
    | nil => rw [List.flatMap_nil, lossyChars]
    | cons c cs ih => rw [List.flatMap_cons, lossyChars_utf8EncodeChar_append, ih]
  have hs := hchars s.toList
  rw [← encode_ofList, String.ofList_toList] at hs
  rw [decodeLossy, hs, String.ofList_toList]

/-! ### Bytes that are read as ASCII -/

/-- What lies between two bytes, as numbers. -/
theorem between_iff {low high : UInt8} :
    (decide (low ≤ b) && decide (b ≤ high)) = true ↔
      low.toNat ≤ b.toNat ∧ b.toNat ≤ high.toNat := by
  rw [Bool.and_eq_true, decide_eq_true_eq, decide_eq_true_eq, UInt8.le_iff_toNat_le,
    UInt8.le_iff_toNat_le]

/-- A second byte continues a character, and is further bounded behind four first bytes. -/
theorem of_isSecond (h : isSecond a b = true) :
    128 ≤ b.toNat ∧ b.toNat ≤ 191 ∧ (a.toNat = 0xE0 → 160 ≤ b.toNat) ∧
      (a.toNat = 0xED → b.toNat ≤ 159) ∧ (a.toNat = 0xF0 → 144 ≤ b.toNat) ∧
      (a.toNat = 0xF4 → b.toNat ≤ 143) := by
  unfold isSecond isContinuation at h
  split_ifs at h with h1 h2 h3 h4
  · obtain ⟨hlow, hhigh⟩ : 160 ≤ b.toNat ∧ b.toNat ≤ 191 := between_iff.mp h
    have ha : a.toNat = 0xE0 := congrArg UInt8.toNat h1
    omega
  · obtain ⟨hlow, hhigh⟩ : 128 ≤ b.toNat ∧ b.toNat ≤ 159 := between_iff.mp h
    have ha : a.toNat = 0xED := congrArg UInt8.toNat h2
    omega
  · obtain ⟨hlow, hhigh⟩ : 144 ≤ b.toNat ∧ b.toNat ≤ 191 := between_iff.mp h
    have ha : a.toNat = 0xF0 := congrArg UInt8.toNat h3
    omega
  · obtain ⟨hlow, hhigh⟩ : 128 ≤ b.toNat ∧ b.toNat ≤ 143 := between_iff.mp h
    have ha : a.toNat = 0xF4 := congrArg UInt8.toNat h4
    omega
  · obtain ⟨hlow, hhigh⟩ : 128 ≤ b.toNat ∧ b.toNat ≤ 191 := between_iff.mp h
    have hne : ∀ {first : UInt8}, ¬ a = first → a.toNat ≠ first.toNat := mt UInt8.toNat_inj.mp
    exact ⟨hlow, hhigh, fun heq => absurd heq (hne h1), fun heq => absurd heq (hne h2),
      fun heq => absurd heq (hne h3), fun heq => absurd heq (hne h4)⟩

theorem toNat_assemble {n m : Nat} {rest : Bytes}
    (hm : rest.foldl (fun n b => n * 64 + (b.toNat - 0x80)) n = m)
    (h : m < 0xD800 ∨ 0xDFFF < m ∧ m < 0x110000) : (assemble n rest).toNat = m := by
  rw [assemble, hm, Char.toNat_ofNat, if_pos h]

theorem le_toNat_assemble_two (ha : (0xC2 ≤ a && a ≤ 0xDF) = true)
    (hb : isContinuation b = true) : 128 ≤ (assemble (a.toNat - 0xC0) [b]).toNat := by
  have ha' : 194 ≤ a.toNat ∧ a.toNat ≤ 223 := between_iff.mp ha
  have hb' : 128 ≤ b.toNat ∧ b.toNat ≤ 191 := between_iff.mp hb
  have hread : (assemble (a.toNat - 0xC0) [b]).toNat = (a.toNat - 0xC0) * 64 + (b.toNat - 0x80) :=
    toNat_assemble rfl (by omega)
  omega

theorem le_toNat_assemble_three (ha : (0xE0 ≤ a && a ≤ 0xEF) = true) (hb : isSecond a b = true)
    (hc : isContinuation c = true) : 128 ≤ (assemble (a.toNat - 0xE0) [b, c]).toNat := by
  have ha' : 224 ≤ a.toNat ∧ a.toNat ≤ 239 := between_iff.mp ha
  have hb' := of_isSecond hb
  have hc' : 128 ≤ c.toNat ∧ c.toNat ≤ 191 := between_iff.mp hc
  have hread : (assemble (a.toNat - 0xE0) [b, c]).toNat =
      ((a.toNat - 0xE0) * 64 + (b.toNat - 0x80)) * 64 + (c.toNat - 0x80) :=
    toNat_assemble rfl (by omega)
  omega

theorem le_toNat_assemble_four (ha : (0xF0 ≤ a && a ≤ 0xF4) = true) (hb : isSecond a b = true)
    (hc : isContinuation c = true) (hd : isContinuation d = true) :
    128 ≤ (assemble (a.toNat - 0xF0) [b, c, d]).toNat := by
  have ha' : 240 ≤ a.toNat ∧ a.toNat ≤ 244 := between_iff.mp ha
  have hb' := of_isSecond hb
  have hc' : 128 ≤ c.toNat ∧ c.toNat ≤ 191 := between_iff.mp hc
  have hd' : 128 ≤ d.toNat ∧ d.toNat ≤ 191 := between_iff.mp hd
  have hread : (assemble (a.toNat - 0xF0) [b, c, d]).toNat =
      (((a.toNat - 0xF0) * 64 + (b.toNat - 0x80)) * 64 + (c.toNat - 0x80)) * 64 +
        (d.toNat - 0x80) :=
    toNat_assemble rfl (by omega)
  omega

/-- **An ASCII character is read from an ASCII byte only.** -/
theorem exists_of_toNat_first_lt {bs : Bytes} (h : (first bs).1.toNat < 128) :
    ∃ rest, bs = UInt8.ofNat (first bs).1.toNat :: rest ∧ (first bs).2 = 1 := by
  have hreplacement : ¬ replacement.toNat < 128 := by decide
  revert h
  fun_cases first bs with
  | case2 a rest ha =>
    intro _
    have hvalid : a.toNat.isValidChar := .inl (Nat.lt_trans a.toNat_lt (by decide))
    have hbyte : UInt8.ofNat (Char.ofNat a.toNat).toNat = a := by
      rw [Char.toNat_ofNat, if_pos hvalid, UInt8.ofNat_toNat]
    exact ⟨rest, by rw [hbyte], rfl⟩
  | case3 a hascii ha b rest hb =>
    intro h
    have hle := le_toNat_assemble_two ha hb
    dsimp only at h
    omega
  | case6 a hascii _ ha b c rest hb hc =>
    intro h
    have hle := le_toNat_assemble_three ha hb hc
    dsimp only at h
    omega
  | case11 a hascii _ _ ha b c d rest hb hc hd =>
    intro h
    have hle := le_toNat_assemble_four ha hb hc hd
    dsimp only at h
    omega
  | case1 | case4 | case5 | case7 | case8 | case9 | case10 | case12 | case13 | case14 | case15
  | case16 | case17 | case18 =>
    intro h
    exact absurd h hreplacement

theorem lossyChars_ne_nil {bs : Bytes} (h : bs ≠ []) : lossyChars bs ≠ [] := by
  obtain ⟨a, rest, rfl⟩ := List.exists_cons_of_ne_nil h
  rw [lossyChars]
  exact List.cons_ne_nil _ _

/-- If an ASCII character comes first, so does its byte. -/
theorem exists_of_lossyChars_eq_cons {bs : Bytes} {c : Char} {cs : List Char}
    (h : lossyChars bs = c :: cs) (hc : c.toNat < 128) :
    ∃ rest, bs = UInt8.ofNat c.toNat :: rest ∧ lossyChars rest = cs := by
  have hne : bs ≠ [] := by
    rintro rfl
    rw [lossyChars] at h
    cases h
  obtain ⟨a, more, rfl⟩ := List.exists_cons_of_ne_nil hne
  rw [lossyChars, List.cons.injEq] at h
  obtain ⟨rfl, hcs⟩ := h
  obtain ⟨rest, heq, hlen⟩ := exists_of_toNat_first_lt hc
  obtain rfl : more = rest := (List.cons.inj heq).2
  rw [hlen] at hcs
  exact ⟨more, heq, hcs⟩

/-- An ASCII character is read only if its byte is there. -/
theorem mem_of_mem_lossyChars {bs : Bytes} {c : Char} (hc : c.toNat < 128)
    (h : c ∈ lossyChars bs) : UInt8.ofNat c.toNat ∈ bs := by
  fun_induction lossyChars bs with
  | case1 => cases h
  | case2 a rest ih =>
    rcases List.mem_cons.mp h with rfl | h
    · obtain ⟨more, heq, -⟩ := exists_of_toNat_first_lt hc
      exact List.mem_cons.mpr (.inl (List.cons.inj heq).1.symm)
    · exact List.mem_of_mem_drop (ih h)

/-- **Bytes are read as an ASCII text** only if they are its bytes. -/
theorem eq_encode_of_decodeLossy {bs : Bytes} {s : String} (h : decodeLossy bs = s)
    (hs : ∀ c ∈ s.toList, c.toNat < 128) : bs = encode s := by
  have hchars : ∀ cs : List Char, (∀ c ∈ cs, c.toNat < 128) → ∀ bs, lossyChars bs = cs →
      bs = cs.flatMap String.utf8EncodeChar := by
    intro cs
    induction cs with
    | nil =>
      intro _ bs hbs
      by_contra hne
      exact lossyChars_ne_nil hne hbs
    | cons c cs ih =>
      intro hcs bs hbs
      obtain ⟨hc, hcs⟩ := List.forall_mem_cons.mp hcs
      obtain ⟨rest, rfl, hrest⟩ := exists_of_lossyChars_eq_cons hbs hc
      rw [List.flatMap_cons, utf8EncodeChar_of_lt hc, ← ih hcs rest hrest]
      rfl
  have hlist : lossyChars bs = s.toList := by
    rw [← h, decodeLossy, String.toList_ofList]
  rw [hchars s.toList hs bs hlist, ← encode_ofList, String.ofList_toList]

end PreviewServer.Utf8
