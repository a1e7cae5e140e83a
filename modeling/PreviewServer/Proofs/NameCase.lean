import PreviewServer.Proofs.HeaderLines

/-!
# The letter case of header names

A header line says the same in any letter case of its name, which is what stands before its first
colon.  This is about bytes, since lines are recased before they are known to be text: bytes that
differ in letter case from a text are a text that differs in letter case
(`exists_text_of_map_lowerByte_eq`), and they are cut into lines and at colons alike.

What is said of a field without regard to letter case is the field with its name in lower case
(`loweredField?`); trimming and looking for blanks do not see the case either
(`readHeaderLine_of_map_toLower_eq`).  So it is the same for lines that differ in the case of their
names only (`RecasesName.loweredField?_eq`).
-/

namespace PreviewServer

/-! ### Letter case of bytes -/

/-- A byte, in lower case if it is an ASCII letter. -/
def lowerByte (b : UInt8) : UInt8 := if 0x41 ≤ b ∧ b ≤ 0x5A then b + 0x20 else b

/-- The bytes of line breaks and the colon have no letter case. -/
theorem lowerByte_eq_iff {b : UInt8} (hb : b ∈ [10, 13, 0x3A]) {x : UInt8} :
    lowerByte x = b ↔ x = b := by
  have hall : ∀ n < 256, ([10, 13, 0x3A] : Bytes).all fun c =>
      decide (lowerByte (UInt8.ofNat n) = c ↔ UInt8.ofNat n = c) := by decide +kernel
  have hx := of_decide_eq_true (List.all_eq_true.mp (hall x.toNat x.toNat_lt) b hb)
  rwa [UInt8.ofNat_toNat] at hx

/-- Bytes outside ASCII have no letter case. -/
theorem eq_of_lowerByte_eq {b c : UInt8} (hb : 128 ≤ b.toNat) (h : lowerByte b = lowerByte c) :
    c = b := by
  have hhigh : ∀ n < 256, 128 ≤ n → lowerByte (UInt8.ofNat n) = UInt8.ofNat n := by decide +kernel
  have hlow : ∀ n < 128, (lowerByte (UInt8.ofNat n)).toNat < 128 := by decide +kernel
  have hfix : ∀ x : UInt8, 128 ≤ x.toNat → lowerByte x = x := by
    intro x hx
    have hn := hhigh x.toNat x.toNat_lt hx
    rwa [UInt8.ofNat_toNat] at hn
  rw [hfix b hb] at h
  have hc : 128 ≤ c.toNat := by
    by_contra hlt
    have hn := hlow c.toNat (by omega)
    rw [UInt8.ofNat_toNat, ← h] at hn
    omega
  rw [h, hfix c hc]

/-- ASCII bytes have the letter case of their characters. -/
theorem toLower_ofNat_eq {b c : UInt8} (hb : b.toNat < 128) (h : lowerByte b = lowerByte c) :
    c.toNat < 128 ∧ (Char.ofNat b.toNat).toLower = (Char.ofNat c.toNat).toLower := by
  have hlower : ∀ n < 128, (Char.ofNat n).toLower =
      Char.ofNat (lowerByte (UInt8.ofNat n)).toNat := by decide +kernel
  have hc : c.toNat < 128 := by
    by_contra hge
    have heq := eq_of_lowerByte_eq (Nat.le_of_not_lt hge) h.symm
    rw [heq] at hb
    exact hge hb
  have hbl := hlower b.toNat hb
  have hcl := hlower c.toNat hc
  rw [UInt8.ofNat_toNat] at hbl hcl
  exact ⟨hc, by rw [hbl, hcl, h]⟩

/-- Bytes without letter case occur in the same texts. -/
theorem mem_iff_of_map_lowerByte_eq {x y : Bytes} (h : x.map lowerByte = y.map lowerByte)
    {b : UInt8} (hb : b ∈ [10, 13, 0x3A]) : b ∈ x ↔ b ∈ y := by
  have hmem : ∀ z : Bytes, b ∈ z ↔ b ∈ z.map lowerByte := by
    intro z
    simp only [List.mem_map, lowerByte_eq_iff hb, exists_eq_right]
  rw [hmem x, h, ← hmem y]

/-- Bytes are a line in any letter case. -/
theorem isByteLine_iff_of_map_lowerByte_eq {x y : Bytes} (h : x.map lowerByte = y.map lowerByte) :
    IsByteLine x ↔ IsByteLine y := by
  have hinfix : ∀ z : Bytes, breakBytes <:+: z ↔ breakBytes <:+: z.map lowerByte := by
    intro z
    constructor
    · intro hz
      exact hz.map lowerByte
    · rintro ⟨a, b, hab⟩
      obtain ⟨z', b', rfl, hz', -⟩ := List.map_eq_append_iff.mp hab.symm
      obtain ⟨a', c', rfl, -, hc'⟩ := List.map_eq_append_iff.mp hz'
      have hbreak : c' = breakBytes := by
        obtain ⟨c, cs, rfl, hc, hcs⟩ := List.map_eq_cons_iff.mp hc'
        obtain ⟨d, ds, rfl, hd, hds⟩ := List.map_eq_cons_iff.mp hcs
        rw [lowerByte_eq_iff (by decide)] at hc hd
        rw [hc, hd, List.map_eq_nil_iff.mp hds]
        rfl
      exact ⟨a', b', by rw [hbreak]⟩
  rw [IsByteLine, IsByteLine, hinfix x, h, ← hinfix y]

/-- Bytes outside ASCII are the same in any letter case. -/
theorem eq_of_map_lowerByte_eq {x y : Bytes} (hx : ∀ b ∈ x, 128 ≤ b.toNat)
    (h : x.map lowerByte = y.map lowerByte) : y = x := by
  induction x generalizing y with
  | nil => exact List.map_eq_nil_iff.mp h.symm
  | cons b x ih =>
    obtain ⟨c, y, rfl, hc, hy⟩ := List.map_eq_cons_iff.mp h.symm
    rw [List.forall_mem_cons] at hx
    rw [eq_of_lowerByte_eq hx.1 hc.symm, ih hx.2 hy.symm]

/-- **Bytes that differ in letter case from a text are a text that differs in letter case.** -/
theorem exists_text_of_map_lowerByte_eq {cs : List Char} {y : Bytes}
    (h : (Utf8.encode (String.ofList cs)).map lowerByte = y.map lowerByte) :
    ∃ ds, y = Utf8.encode (String.ofList ds) ∧ cs.map Char.toLower = ds.map Char.toLower := by
  induction cs generalizing y with
  | nil => exact ⟨[], List.map_eq_nil_iff.mp h.symm, rfl⟩
  | cons c cs ih =>
    rw [Utf8.encode_ofList_cons, List.map_append] at h
    obtain ⟨first, rest, rfl, hfirst, hrest⟩ := List.map_eq_append_iff.mp h.symm
    obtain ⟨ds, rfl, hds⟩ := ih hrest.symm
    by_cases hc : c.toNat < 128
    · rw [utf8EncodeChar_of_lt hc] at hfirst
      obtain ⟨b, bs, rfl, hb, hbs⟩ := List.map_eq_cons_iff.mp hfirst
      obtain rfl := List.map_eq_nil_iff.mp hbs
      have hbyte : (UInt8.ofNat c.toNat).toNat = c.toNat :=
        UInt8.toNat_ofNat_of_lt' (Nat.lt_trans hc (by decide))
      obtain ⟨hlt, hlower⟩ := toLower_ofNat_eq (by omega) hb.symm
      have hvalue : ∀ n < 128, (Char.ofNat n).toNat = n := by decide +kernel
      refine ⟨Char.ofNat b.toNat :: ds, ?_, ?_⟩
      · rw [Utf8.encode_ofList_cons, utf8EncodeChar_of_lt (by rw [hvalue _ hlt]; exact hlt),
          hvalue _ hlt, UInt8.ofNat_toNat]
      · rw [hbyte, Char.ofNat_toNat] at hlower
        rw [List.map_cons, List.map_cons, hlower, hds]
    · have hhigh : ∀ b ∈ String.utf8EncodeChar c, 128 ≤ b.toNat := by
        intro b hb
        by_contra hlt
        have hvalue := (mem_utf8EncodeChar_iff (by omega)).mp hb
        omega
      refine ⟨c :: ds, ?_, by rw [List.map_cons, List.map_cons, hds]⟩
      rw [eq_of_map_lowerByte_eq hhigh hfirst.symm, Utf8.encode_ofList_cons]

/-! ### Lines and their fields -/

/-- Whether a header line differs from another one at most in the letter case of its name: of what
stands before the first colon, or of all of it if there is none. -/
inductive RecasesName : Bytes → Bytes → Prop where
  /-- The name differs in letter case. -/
  | named {name name' : Bytes} (value : Bytes) (hcolon : 0x3A ∉ name)
      (hcase : name.map lowerByte = name'.map lowerByte) :
      RecasesName (name ++ 0x3A :: value) (name' ++ 0x3A :: value)
  /-- The line has no colon. -/
  | unnamed {line line' : Bytes} (hcolon : 0x3A ∉ line)
      (hcase : line.map lowerByte = line'.map lowerByte) : RecasesName line line'

/-- The field on a header line, if it is one. -/
def field? (line : Bytes) : Option (String × String) :=
  (Utf8.decode? line).bind fun text => (readHeaderLine text.toList).toOption

/-- A field with its name in lower case. -/
def lowered (field : String × String) : String × String := (asciiLower field.1, field.2)

/-- The field on a header line with its name in lower case. -/
def loweredField? (line : Bytes) : Option (String × String) := (field? line).map lowered

/-- The name on a header line, if it is text: what stands before its first colon, trimmed. -/
def headerName? (line : Bytes) : Option String :=
  (Utf8.decode? line).bind fun text =>
    (cut? ':' text.toList).map fun parts => String.ofList (trimBlanks parts.1)

/-- The name of a field is the name on its line. -/
theorem headerName?_of_field? {line : Bytes} {field : String × String}
    (h : field? line = some field) : headerName? line = some field.1 := by
  unfold field? at h
  unfold headerName?
  cases hd : Utf8.decode? line with
  | none =>
    rw [hd] at h
    cases h
  | some text =>
    rw [hd] at h
    rw [Option.bind_some] at h ⊢
    unfold readHeaderLine at h
    cases hc : cut? ':' text.toList with
    | none =>
      rw [hc] at h
      cases h
    | some parts =>
      rw [hc] at h
      dsimp only at h
      split at h
      · cases h
      · cases h
        rfl

theorem RecasesName.symm {line line' : Bytes} (h : RecasesName line line') :
    RecasesName line' line := by
  cases h with
  | named value hcolon hcase =>
    exact .named value (mt (mem_iff_of_map_lowerByte_eq hcase (by decide)).mpr hcolon) hcase.symm
  | unnamed hcolon hcase =>
    exact .unnamed (mt (mem_iff_of_map_lowerByte_eq hcase (by decide)).mpr hcolon) hcase.symm

theorem RecasesName.map_lowerByte_eq {line line' : Bytes} (h : RecasesName line line') :
    line.map lowerByte = line'.map lowerByte := by
  cases h with
  | named value hcolon hcase => rw [List.map_append, List.map_append, hcase]
  | unnamed hcolon hcase => exact hcase

/-! ### Trimming and letter case -/

/-- Letters are no blanks in either case. -/
theorem isBlank_toLower (c : Char) : isBlank c.toLower = isBlank c := by
  have hascii : ∀ n < 128, isBlank (Char.ofNat n).toLower = isBlank (Char.ofNat n) := by
    decide +kernel
  by_cases hc : c.toNat < 128
  · have h := hascii c.toNat hc
    rwa [Char.ofNat_toNat] at h
  · unfold Char.toLower
    rw [dif_neg]
    intro hupper
    have hle : c.toNat ≤ 90 := hupper.2
    omega

theorem map_toLower_trimBlanks (cs : List Char) :
    (trimBlanks cs).map Char.toLower = trimBlanks (cs.map Char.toLower) := by
  have hblank : isBlank ∘ Char.toLower = isBlank := funext isBlank_toLower
  unfold trimBlanks trimEnd trimStart
  rw [List.dropWhile_map, hblank, ← List.map_reverse, List.dropWhile_map, hblank, List.map_reverse]

/-- What is said of a header line without regard to the case of its name. -/
theorem readHeaderLine_of_map_toLower_eq {name name' : List Char} (hcolon : ':' ∉ name)
    (hcolon' : ':' ∉ name') (h : name.map Char.toLower = name'.map Char.toLower)
    (value : List Char) :
    (readHeaderLine (name ++ ':' :: value)).toOption.map lowered =
      (readHeaderLine (name' ++ ':' :: value)).toOption.map lowered := by
  have htrim : (trimBlanks name).map Char.toLower = (trimBlanks name').map Char.toLower := by
    rw [map_toLower_trimBlanks, h, map_toLower_trimBlanks]
  have hblank : ∀ cs : List Char, cs.any isBlank = (cs.map Char.toLower).any isBlank := by
    intro cs
    rw [List.any_map]
    congr 1
    exact (funext isBlank_toLower).symm
  have hbad : (trimBlanks name = [] ∨ (trimBlanks name).any isBlank) ↔
      (trimBlanks name' = [] ∨ (trimBlanks name').any isBlank) := by
    rw [hblank, htrim, ← hblank, ← List.map_eq_nil_iff (f := Char.toLower), htrim,
      List.map_eq_nil_iff]
  unfold readHeaderLine
  rw [cut?_append hcolon, cut?_append hcolon']
  dsimp only
  by_cases hb : trimBlanks name = [] ∨ (trimBlanks name).any isBlank
  · rw [if_pos hb, if_pos (hbad.mp hb)]
  · rw [if_neg hb, if_neg (mt hbad.mpr hb)]
    simp only [Except.toOption, Option.map_some, lowered, asciiLower, String.toList_ofList, htrim]

/-- A text without a colon is no field. -/
theorem readHeaderLine_of_not_mem {cs : List Char} (h : ':' ∉ cs) :
    readHeaderLine cs = .error .badHeader := by
  rw [readHeaderLine, cut?_eq_none_iff.mpr h]

/-- The bytes of a text without a colon contain none. -/
theorem colon_not_mem_of_encode {cs : List Char}
    (h : 0x3A ∉ Utf8.encode (String.ofList cs)) : ':' ∉ cs := by
  have hiff := Utf8.mem_encode_iff (c := ':') (by decide) (s := String.ofList cs)
  rw [String.toList_ofList] at hiff
  exact mt hiff.mpr h

/-- In another letter case of its name, a line that is text is text, and says the same. -/
theorem RecasesName.exists_text {cs : List Char} {line' : Bytes}
    (h : RecasesName (Utf8.encode (String.ofList cs)) line') :
    ∃ ds, line' = Utf8.encode (String.ofList ds) ∧
      (readHeaderLine cs).toOption.map lowered = (readHeaderLine ds).toOption.map lowered := by
  generalize hline : Utf8.encode (String.ofList cs) = line at h
  cases h with
  | @named name name' value hcolon hcase =>
    obtain ⟨s, t, rfl, rfl, rfl⟩ := Utf8.exists_of_encode_eq (c := ':') (by decide) hline
    obtain ⟨ds, rfl, hlower⟩ := exists_text_of_map_lowerByte_eq hcase
    have hcolon' := mt (mem_iff_of_map_lowerByte_eq hcase (by decide)).mpr hcolon
    refine ⟨ds ++ ':' :: t, ?_, readHeaderLine_of_map_toLower_eq (colon_not_mem_of_encode hcolon)
      (colon_not_mem_of_encode hcolon') hlower t⟩
    rw [String.ofList_append, Utf8.encode_append, Utf8.encode_ofList_cons]
    rfl
  | unnamed hcolon hcase =>
    subst hline
    obtain ⟨ds, rfl, -⟩ := exists_text_of_map_lowerByte_eq hcase
    have hcolon' := mt (mem_iff_of_map_lowerByte_eq hcase (by decide)).mpr hcolon
    refine ⟨ds, rfl, ?_⟩
    rw [readHeaderLine_of_not_mem (colon_not_mem_of_encode hcolon),
      readHeaderLine_of_not_mem (colon_not_mem_of_encode hcolon')]

/-- **A header line says the same in any letter case of its name.** -/
theorem RecasesName.loweredField?_eq {line line' : Bytes} (h : RecasesName line line') :
    (Utf8.decode? line).isSome = (Utf8.decode? line').isSome ∧
      loweredField? line = loweredField? line' := by
  unfold loweredField? field?
  cases hd : Utf8.decode? line with
  | some text =>
    obtain rfl := Utf8.decode?_eq_some_iff.mp hd
    rw [← String.ofList_toList (s := text)] at h
    obtain ⟨ds, rfl, hsame⟩ := h.exists_text
    rw [Utf8.decode?_encode]
    refine ⟨rfl, ?_⟩
    rw [Option.bind_some, Option.bind_some, String.toList_ofList]
    exact hsame
  | none =>
    cases hd' : Utf8.decode? line' with
    | none => exact ⟨rfl, rfl⟩
    | some text =>
      -- What would be text in one letter case is text in the other one.
      obtain rfl := Utf8.decode?_eq_some_iff.mp hd'
      rw [← String.ofList_toList (s := text)] at h
      obtain ⟨ds, rfl, -⟩ := h.symm.exists_text
      rw [Utf8.decode?_encode] at hd
      cases hd

end PreviewServer
