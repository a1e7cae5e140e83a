import PreviewServer.Text.Utf8

/-!
# Percent escapes

In a URL a byte may be written as a percent sign and two hexadecimal digits.  `encode` writes the
bytes of a set in this way and leaves the others, which are ASCII, as they are; `decode` undoes
every escape, with digits of either case, and leaves a percent sign that starts no escape alone.
-/

namespace PreviewServer

namespace Percent

/-! ### Sets of escaped bytes -/

/-- The bytes that are escaped. -/
abbrev EscapeSet := UInt8 → Bool

/-- Control characters and everything outside ASCII, which are escaped everywhere. -/
def controls : EscapeSet := fun b => b < 0x20 || 0x7F ≤ b

/-- A set with some more bytes. -/
def EscapeSet.including (set : EscapeSet) (more : List Char) : EscapeSet :=
  fun b => set b || more.any fun c => c.toNat = b.toNat

/-- What is escaped when a name becomes a segment of a path: besides the delimiters of URLs also
both slashes, so that the name stays one segment. -/
def segment : EscapeSet :=
  controls.including [' ', '\x22', '#', '%', '<', '>', '?', '\x60', '\x7b', '\x7d', '/', '\x5c']

/-- What is escaped in the path of a URL that is read. -/
def path : EscapeSet := controls.including [' ', '\x22', '#', '<', '>', '?', '\x60', '\x7b', '\x7d']

/-- What is escaped in the query of a URL that is read. -/
def query : EscapeSet := controls.including [' ', '\x22', '#', '<', '>', '\x27']

/-! ### Writing -/

/-- The upper-case hexadecimal digit of a number below sixteen. -/
def hexDigit (n : Nat) : Char := if n < 10 then Char.ofNat (0x30 + n) else Char.ofNat (0x37 + n)

/-- The escape of a byte. -/
def escape (b : UInt8) : List Char := ['%', hexDigit (b.toNat / 16), hexDigit (b.toNat % 16)]

/-- The bytes as characters, those of the set escaped. -/
def encodeBytes (set : EscapeSet) (bs : Bytes) : List Char :=
  bs.flatMap fun b => if set b then escape b else [Char.ofNat b.toNat]

/-- The text with the bytes of the set escaped. -/
def encode (set : EscapeSet) (s : String) : String :=
  String.ofList (encodeBytes set (Utf8.encode s))

/-- A byte of the set is written as its escape. -/
theorem encodeBytes_cons_of_pos {set : EscapeSet} {b : UInt8} (h : set b = true) (bs : Bytes) :
    encodeBytes set (b :: bs) = escape b ++ encodeBytes set bs := by
  rw [encodeBytes, List.flatMap_cons, if_pos h]
  rfl

/-- Any other byte is written as it is. -/
theorem encodeBytes_cons_of_neg {set : EscapeSet} {b : UInt8} (h : set b = false) (bs : Bytes) :
    encodeBytes set (b :: bs) = Char.ofNat b.toNat :: encodeBytes set bs := by
  rw [encodeBytes, List.flatMap_cons, h, if_neg Bool.false_ne_true]
  rfl

/-- A character that is written is part of an escape, or a byte that is written as it is. -/
theorem cases_of_mem_encodeBytes {set : EscapeSet} {c : Char} {bs : Bytes}
    (hc : c ∈ encodeBytes set bs) :
    c = '%' ∨ (∃ n < 16, c = hexDigit n) ∨ ∃ b ∈ bs, set b = false ∧ c = Char.ofNat b.toNat := by
  obtain ⟨b, hb, hc⟩ := List.mem_flatMap.mp hc
  have hlt := b.toNat_lt
  split at hc
  · simp only [escape, List.mem_cons, List.not_mem_nil, or_false] at hc
    rcases hc with rfl | rfl | rfl
    · exact .inl rfl
    · exact .inr (.inl ⟨_, by omega, rfl⟩)
    · exact .inr (.inl ⟨_, by omega, rfl⟩)
  · rename_i hplain
    exact .inr (.inr ⟨b, hb, Bool.eq_false_iff.mpr hplain, List.mem_singleton.mp hc⟩)

/-- A character of the set occurs only in an escape, if at all. -/
theorem not_mem_encodeBytes {set : EscapeSet} {c : Char} (hset : set (UInt8.ofNat c.toNat) = true)
    (hpercent : c ≠ '%') (hdigit : ∀ n < 16, c ≠ hexDigit n) (bs : Bytes) :
    c ∉ encodeBytes set bs := by
  intro hc
  rcases cases_of_mem_encodeBytes hc with h | ⟨n, hn, h⟩ | ⟨b, -, hplain, rfl⟩
  · exact hpercent h
  · exact hdigit n hn h
  · have hvalue : ∀ n < 256, (Char.ofNat n).toNat = n := by decide +kernel
    rw [hvalue _ b.toNat_lt, UInt8.ofNat_toNat, hplain] at hset
    cases hset

/-! ### Reading -/

/-- The value of a hexadecimal digit of either case. -/
def hexValue? (b : UInt8) : Option UInt8 :=
  if 0x30 ≤ b && b ≤ 0x39 then some (b - 0x30)
  else if 0x41 ≤ b && b ≤ 0x46 then some (b - 0x37)
  else if 0x61 ≤ b && b ≤ 0x66 then some (b - 0x57)
  else none

/-- The bytes with every escape replaced by the byte it stands for.  What an escape yields is not
read again. -/
def decode : Bytes → Bytes
  | [] => []
  | 0x25 :: h :: l :: bs =>
    match hexValue? h, hexValue? l with
    | some x, some y => (x * 16 + y) :: decode bs
    | _, _ => 0x25 :: decode (h :: l :: bs)
  | b :: bs => b :: decode bs

/-- A byte that is no percent sign stays. -/
theorem decode_cons_of_ne {b : UInt8} (h : b ≠ 0x25) (bs : Bytes) :
    decode (b :: bs) = b :: decode bs := by
  rw [decode.eq_def]
  split
  · rename_i heq
    cases heq
  · rename_i heq
    exact absurd (List.cons.inj heq).1 h
  · rename_i heq
    obtain ⟨rfl, rfl⟩ := List.cons.inj heq
    rfl

/-- Bytes without a percent sign stay. -/
theorem decode_append_of_not_mem {as : Bytes} (h : 0x25 ∉ as) (bs : Bytes) :
    decode (as ++ bs) = as ++ decode bs := by
  induction as with
  | nil => rfl
  | cons a as ih =>
    rw [List.mem_cons, not_or] at h
    rw [List.cons_append, decode_cons_of_ne (Ne.symm h.1), ih h.2, List.cons_append]

/-- Decoding leaves something of bytes that are there. -/
theorem decode_ne_nil {bs : Bytes} (h : bs ≠ []) : decode bs ≠ [] := by
  fun_cases decode bs with
  | case1 => exact absurd rfl h
  | case2 | case3 | case4 => exact List.cons_ne_nil _ _

end Percent

end PreviewServer
