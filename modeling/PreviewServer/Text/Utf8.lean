/-!
# Text as bytes

A text travels as its UTF-8 bytes.  `encode` and `decode?` are inverse to each other: a byte string
decodes exactly if it is the encoding of some text, and then to that text
(`decode?_eq_some_iff`).  `decodeLossy` reads any byte string, with one replacement character for
each maximal part that no text could contain.
-/

namespace PreviewServer

/-- A byte string. -/
abbrev Bytes := List UInt8

namespace Utf8

/-! ### Exact decoding -/

/-- The UTF-8 bytes of a text. -/
def encode (s : String) : Bytes := s.toByteArray.data.toList

/-- The text with these UTF-8 bytes, if they are well formed. -/
def decode? (bs : Bytes) : Option String := String.fromUTF8? ⟨bs.toArray⟩

/-- Decoding accepts exactly what encoding produces. -/
theorem decode?_eq_some_iff {bs : Bytes} {s : String} : decode? bs = some s ↔ bs = encode s := by
  unfold decode? String.fromUTF8? encode
  constructor
  · intro h
    split at h
    · obtain rfl := Option.some.inj h
      rfl
    · cases h
  · rintro rfl
    have hv : ByteArray.IsValidUTF8 ⟨s.toByteArray.data.toList.toArray⟩ := s.isValidUTF8
    rw [dif_pos hv]
    rfl

@[simp] theorem decode?_encode (s : String) : decode? (encode s) = some s :=
  decode?_eq_some_iff.2 rfl

theorem encode_injective {s t : String} (h : encode s = encode t) : s = t :=
  Option.some.inj ((decode?_encode s).symm.trans (h ▸ decode?_encode t))

/-- A text that is not empty has bytes. -/
theorem encode_ne_nil {s : String} (h : s ≠ "") : encode s ≠ [] := by
  intro hnil
  exact h (encode_injective hnil)

@[simp] theorem encode_append (s t : String) : encode (s ++ t) = encode s ++ encode t := by
  simp [encode]

/-- A text is encoded character by character. -/
theorem encode_ofList (cs : List Char) :
    encode (String.ofList cs) = cs.flatMap String.utf8EncodeChar := by
  simp [encode, List.utf8Encode]

/-! ### Decoding that cannot fail -/

/-- The character that stands for bytes which are no text. -/
def replacement : Char := '\uFFFD'

/-- The bytes that continue a character: `10xxxxxx`. -/
def isContinuation (b : UInt8) : Bool := 0x80 ≤ b && b ≤ 0xBF

/-- The second bytes that may follow the first byte of a character of three bytes or more.  The
bounds leave out overlong forms, surrogates and what lies above `U+10FFFF`. -/
def isSecond (first b : UInt8) : Bool :=
  if first = 0xE0 then 0xA0 ≤ b && b ≤ 0xBF
  else if first = 0xED then 0x80 ≤ b && b ≤ 0x9F
  else if first = 0xF0 then 0x90 ≤ b && b ≤ 0xBF
  else if first = 0xF4 then 0x80 ≤ b && b ≤ 0x8F
  else isContinuation b

/-- The character whose bits are spread over these bytes, `first` already without its length
marker. -/
def assemble (first : Nat) (rest : Bytes) : Char :=
  Char.ofNat (rest.foldl (fun n b => n * 64 + (b.toNat - 0x80)) first)

/-- The first character and how many bytes it takes.  Bytes that start no character are taken
as far as they could have started one, and at least one at a time. -/
def first : Bytes → Char × Nat
  | [] => (replacement, 0)
  | a :: bs =>
    if a < 0x80 then (Char.ofNat a.toNat, 1)
    else if 0xC2 ≤ a && a ≤ 0xDF then
      match bs with
      | b :: _ => if isContinuation b then (assemble (a.toNat - 0xC0) [b], 2) else (replacement, 1)
      | [] => (replacement, 1)
    else if 0xE0 ≤ a && a ≤ 0xEF then
      match bs with
      | b :: c :: _ =>
        if isSecond a b then
          if isContinuation c then (assemble (a.toNat - 0xE0) [b, c], 3) else (replacement, 2)
        else (replacement, 1)
      | [b] => (replacement, if isSecond a b then 2 else 1)
      | [] => (replacement, 1)
    else if 0xF0 ≤ a && a ≤ 0xF4 then
      match bs with
      | b :: c :: d :: _ =>
        if isSecond a b then
          if isContinuation c then
            if isContinuation d then (assemble (a.toNat - 0xF0) [b, c, d], 4) else (replacement, 3)
          else (replacement, 2)
        else (replacement, 1)
      | [b, c] => (replacement, if isSecond a b then if isContinuation c then 3 else 2 else 1)
      | [b] => (replacement, if isSecond a b then 2 else 1)
      | [] => (replacement, 1)
    else (replacement, 1)

theorem first_pos (a : UInt8) (bs : Bytes) : 0 < (first (a :: bs)).2 := by
  unfold first
  dsimp only
  (repeat' split) <;> simp

/-- The characters of a byte string, read one by one. -/
def lossyChars (bs : Bytes) : List Char :=
  match bs with
  | [] => []
  | a :: rest => (first (a :: rest)).1 :: lossyChars ((a :: rest).drop (first (a :: rest)).2)
termination_by bs.length
decreasing_by
  have := first_pos a rest
  simp only [List.length_drop, List.length_cons]
  omega

/-- The text of a byte string, with a replacement character for whatever is not UTF-8. -/
def decodeLossy (bs : Bytes) : String := String.ofList (lossyChars bs)

end Utf8

end PreviewServer
