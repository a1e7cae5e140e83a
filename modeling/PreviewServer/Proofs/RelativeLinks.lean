import PreviewServer.Proofs.ListingLinks

/-!
# Where the links of a listing stay

A link is meant to be read relative to the page of its directory.  For this it must not start like
something else, with a scheme or with one of the delimiters of a URL (`Listing.IsPathRelative`).
Its name can be any text that is a name, and is always one (`Listing.isEntryName_of_mem_entries`).

The delimiters are escaped in a link.  Dots are not, but a name is one segment and not a dot, and
its percent signs are escaped, so it is not taken for a dot either (`Listing.resolveDots_href`): the
path of a link always leads below the directory.  Colons are not escaped, and neither are the other
characters of a scheme (`Percent.segmentChar_of_isSchemeChar`).  So a link starts with a scheme
exactly if its name does (`Listing.hasScheme_href_iff`), and then it is not relative
(`Listing.isPathRelative_href_iff`).
-/

namespace PreviewServer

/-! ### Schemes -/

namespace Url

/-- Whether a character can stand in a scheme. -/
def isSchemeChar (c : Char) : Bool := c.isAlphanum || c = '+' || c = '-' || c = '.'

/-- Whether a reference starts with a scheme and its colon. -/
def HasScheme (ref : List Char) : Prop :=
  ∃ c scheme rest, ref = c :: (scheme ++ ':' :: rest) ∧ c.isAlpha ∧ ∀ d ∈ scheme, isSchemeChar d

/-- Whether characters of a scheme lead up to a colon. -/
def reachesColon : List Char → Bool
  | [] => false
  | c :: cs => c = ':' || (isSchemeChar c && reachesColon cs)

/-- Looks for a scheme, character by character. -/
def startsWithScheme : List Char → Bool
  | [] => false
  | c :: cs => c.isAlpha && reachesColon cs

theorem reachesColon_iff {cs : List Char} :
    reachesColon cs = true ↔
      ∃ scheme rest, cs = scheme ++ ':' :: rest ∧ ∀ d ∈ scheme, isSchemeChar d := by
  induction cs with
  | nil =>
    constructor
    · intro h
      cases h
    · rintro ⟨scheme, rest, heq, -⟩
      exact absurd heq.symm (List.append_ne_nil_of_right_ne_nil _ (List.cons_ne_nil _ _))
  | cons c cs ih =>
    rw [reachesColon, Bool.or_eq_true, decide_eq_true_eq, Bool.and_eq_true, ih]
    constructor
    · rintro (rfl | ⟨hc, scheme, rest, rfl, hscheme⟩)
      · exact ⟨[], cs, rfl, List.forall_mem_nil _⟩
      · exact ⟨c :: scheme, rest, rfl, List.forall_mem_cons.mpr ⟨hc, hscheme⟩⟩
    · rintro ⟨scheme, rest, heq, hscheme⟩
      cases scheme with
      | nil => exact .inl (List.cons.inj heq).1
      | cons d scheme =>
        obtain ⟨rfl, rfl⟩ := List.cons.inj heq
        obtain ⟨hc, hscheme⟩ := List.forall_mem_cons.mp hscheme
        exact .inr ⟨hc, scheme, rest, rfl, hscheme⟩

theorem startsWithScheme_iff {ref : List Char} : startsWithScheme ref = true ↔ HasScheme ref := by
  cases ref with
  | nil =>
    constructor
    · intro h
      cases h
    · rintro ⟨c, scheme, rest, heq, -⟩
      cases heq
  | cons c cs =>
    rw [startsWithScheme, Bool.and_eq_true, reachesColon_iff]
    constructor
    · rintro ⟨hc, scheme, rest, rfl, hscheme⟩
      exact ⟨c, scheme, rest, rfl, hc, hscheme⟩
    · rintro ⟨d, scheme, rest, heq, hd, hscheme⟩
      obtain ⟨rfl, rfl⟩ := List.cons.inj heq
      exact ⟨hd, scheme, rest, rfl, hscheme⟩

instance (ref : List Char) : Decidable (HasScheme ref) :=
  decidable_of_iff _ startsWithScheme_iff

theorem toNat_lt_of_isSchemeChar {c : Char} (h : isSchemeChar c = true) : c.toNat < 128 := by
  rw [isSchemeChar, Bool.or_eq_true, Bool.or_eq_true, Bool.or_eq_true, decide_eq_true_eq,
    decide_eq_true_eq, decide_eq_true_eq] at h
  rcases h with ((h | rfl) | rfl) | rfl
  · exact Percent.toNat_lt_of_isAlphanum h
  · decide
  · decide
  · decide

end Url

/-! ### Characters of a segment -/

namespace Percent

/-- A character as it is written in a segment. -/
def segmentChar (c : Char) : List Char := encodeBytes segment (String.utf8EncodeChar c)

/-- A name is written character by character. -/
theorem encodeBytes_encode (name : String) :
    encodeBytes segment (Utf8.encode name) = name.toList.flatMap segmentChar := by
  have hbytes : Utf8.encode name = name.toList.flatMap String.utf8EncodeChar := by
    rw [← Utf8.encode_ofList, String.ofList_toList]
  rw [hbytes, encodeBytes, List.flatMap_assoc]
  rfl

theorem segmentChar_of_lt {c : Char} (hc : c.toNat < 128)
    (hplain : segment (UInt8.ofNat c.toNat) = false) : segmentChar c = [c] := by
  have hbyte : (UInt8.ofNat c.toNat).toNat = c.toNat :=
    UInt8.toNat_ofNat_of_lt' (Nat.lt_trans hc (by decide))
  rw [segmentChar, utf8EncodeChar_of_lt hc, encodeBytes, List.flatMap_singleton, hplain,
    if_neg Bool.false_ne_true, hbyte, Char.ofNat_toNat]

/-- What is not written as it is starts with a percent sign. -/
theorem segmentChar_cases (c : Char) :
    segmentChar c = [c] ∨ ∃ rest, segmentChar c = '%' :: rest := by
  have hplain : ∀ n < 256, segment (UInt8.ofNat n) = false → n < 128 := by decide +kernel
  obtain ⟨b, bs, hbytes⟩ := List.exists_cons_of_ne_nil (String.utf8EncodeChar_ne_nil (c := c))
  cases hset : segment b with
  | true =>
    refine .inr ⟨hexDigit (b.toNat / 16) :: hexDigit (b.toNat % 16) :: encodeBytes segment bs, ?_⟩
    rw [segmentChar, hbytes, encodeBytes, List.flatMap_cons, if_pos hset]
    rfl
  | false =>
    have hlt : b.toNat < 128 := hplain _ b.toNat_lt (by rw [UInt8.ofNat_toNat, hset])
    have hmem : b ∈ String.utf8EncodeChar c := by
      rw [hbytes]
      exact List.mem_cons_self
    have hvalue := (mem_utf8EncodeChar_iff hlt).mp hmem
    refine .inl (segmentChar_of_lt (by omega) ?_)
    rw [hvalue, UInt8.ofNat_toNat, hset]

/-- What is refused at a character, and at a percent sign, is refused where the character is
written. -/
theorem eq_false_of_segmentChar {f : List Char → Bool} {c : Char}
    (hc : ∀ rest, f (c :: rest) = false) (hpercent : ∀ rest, f ('%' :: rest) = false)
    (tail : List Char) : f (segmentChar c ++ tail) = false := by
  rcases segmentChar_cases c with heq | ⟨rest, heq⟩
  · rw [heq]
    exact hc tail
  · rw [heq]
    exact hpercent (rest ++ tail)

/-- The delimiters of a URL are not written as they are. -/
theorem not_mem_segment {d : Char} (hd : d = '/' ∨ d = '?' ∨ d = '#' ∨ d = '\x5c') (bs : Bytes) :
    d ∉ encodeBytes segment bs := by
  rcases hd with rfl | rfl | rfl | rfl
  · exact not_mem_encodeBytes (by decide) (by decide) (by decide) bs
  · exact not_mem_encodeBytes (by decide) (by decide) (by decide) bs
  · exact not_mem_encodeBytes (by decide) (by decide) (by decide) bs
  · exact not_mem_encodeBytes (by decide) (by decide) (by decide) bs

/-- **Schemes and their colons are written as they are.** -/
theorem segmentChar_of_isSchemeChar {c : Char} (h : c = ':' ∨ Url.isSchemeChar c = true) :
    segmentChar c = [c] := by
  have hplain : ∀ n < 128, Url.isSchemeChar (Char.ofNat n) = true →
      segment (UInt8.ofNat n) = false := by
    decide +kernel
  rcases h with rfl | h
  · exact segmentChar_of_lt (by decide) (by decide)
  · have hlt := Url.toNat_lt_of_isSchemeChar h
    exact segmentChar_of_lt hlt (hplain _ hlt (by rw [Char.ofNat_toNat]; exact h))

end Percent

/-! ### Links -/

namespace Listing

variable {e : Entry}

theorem reachesColon_flatMap (cs : List Char) (isDirectory : Bool) :
    Url.reachesColon (cs.flatMap Percent.segmentChar ++ mark isDirectory) = Url.reachesColon cs := by
  induction cs with
  | nil => cases isDirectory <;> rfl
  | cons c cs ih =>
    rw [List.flatMap_cons, List.append_assoc]
    by_cases hc : c = ':' ∨ Url.isSchemeChar c = true
    · rw [Percent.segmentChar_of_isSchemeChar hc, List.singleton_append, Url.reachesColon,
        Url.reachesColon, ih]
    · -- Neither the character nor a percent sign can stand in a scheme.
      obtain ⟨hcolon, hscheme⟩ := not_or.mp hc
      have hstop : ∀ rest, Url.reachesColon (c :: rest) = false := by
        intro rest
        rw [Url.reachesColon, decide_eq_false hcolon, Bool.eq_false_iff.mpr hscheme]
        rfl
      rw [hstop]
      exact Percent.eq_false_of_segmentChar hstop (fun _ => rfl) _

/-- **A link starts with a scheme exactly if its name does.** -/
theorem hasScheme_href_iff : Url.HasScheme (href e) ↔ Url.HasScheme e.name.toList := by
  rw [← Url.startsWithScheme_iff, ← Url.startsWithScheme_iff, href_eq, Percent.encodeBytes_encode]
  cases e.name.toList with
  | nil => cases e.isDirectory <;> exact Iff.rfl
  | cons c cs =>
    rw [List.flatMap_cons, List.append_assoc]
    by_cases hc : c.isAlpha = true
    · have hscheme : Url.isSchemeChar c = true := by
        rw [Url.isSchemeChar, Char.isAlphanum, hc]
        rfl
      rw [Percent.segmentChar_of_isSchemeChar (.inr hscheme), List.singleton_append,
        Url.startsWithScheme, Url.startsWithScheme, reachesColon_flatMap]
    · have hstop : ∀ rest, Url.startsWithScheme (c :: rest) = false := by
        intro rest
        rw [Url.startsWithScheme, Bool.eq_false_iff.mpr hc]
        rfl
      rw [hstop, Percent.eq_false_of_segmentChar hstop fun _ => rfl]

/-- The only delimiter in a link is the mark of a directory. -/
theorem not_mem_href {d : Char} (hd : d = '?' ∨ d = '#' ∨ d = '\x5c') : d ∉ href e := by
  have hslash : d ≠ '/' := by
    rintro rfl
    rcases hd with hd | hd | hd <;> cases hd
  rw [href_eq]
  exact not_mem_append_mark hslash (Percent.not_mem_segment (.inr hd) _) _

/-- A name is not taken for dots, however these are spelled. -/
theorem not_isDot_encodeBytes (hname : IsEntryName e.name) :
    Url.isDoubleDot (Percent.encodeBytes Percent.segment (Utf8.encode e.name)) = false ∧
      Url.isSingleDot (Percent.encodeBytes Percent.segment (Utf8.encode e.name)) = false := by
  have htext := Target.segmentText?_of_spells (Percent.spells_encodeBytes (Utf8.encode e.name))
  constructor
  · rw [Bool.eq_false_iff]
    intro h
    rw [Target.segmentText?_of_isDoubleDot h] at htext
    exact hname.ne_dotDot (Option.some.inj htext).symm
  · rw [Bool.eq_false_iff]
    intro h
    rw [Target.segmentText?_of_isSingleDot h] at htext
    exact hname.ne_dot (Option.some.inj htext).symm

/-- **The path of a link leads below its directory.** -/
theorem resolveDots_href (hname : IsEntryName e.name) (directory : List Url.Segment) :
    Url.resolveDots directory (fields '/' (href e)) = directory ++ fields '/' (href e) := by
  apply Url.resolveDots_of_forall
  obtain ⟨hdouble, hsingle⟩ := not_isDot_encodeBytes hname
  have hslash := Percent.not_mem_segment (.inl rfl) (Utf8.encode e.name)
  rw [href_eq]
  cases e.isDirectory with
  | true =>
    rw [mark, if_pos rfl, fields_append_cons hslash []]
    exact List.forall_mem_cons.mpr ⟨⟨hsingle, hdouble⟩, by decide⟩
  | false =>
    rw [mark, if_neg Bool.false_ne_true, List.append_nil, fields_of_not_mem hslash]
    exact List.forall_mem_singleton.mpr ⟨hsingle, hdouble⟩

/-- Whether a reference is relative to the directory of its page: it starts neither with a scheme
nor with a delimiter. -/
structure IsPathRelative (ref : List Char) : Prop where
  /-- There is no scheme. -/
  no_scheme : ¬ Url.HasScheme ref
  /-- It starts with the path. -/
  start : ∃ c rest, ref = c :: rest ∧ c ≠ '/' ∧ c ≠ '\x5c' ∧ c ≠ '?' ∧ c ≠ '#'

/-- A link starts with no delimiter. -/
theorem exists_href_eq_cons (hname : IsEntryName e.name) :
    ∃ c rest, href e = c :: rest ∧ c ≠ '/' ∧ c ≠ '\x5c' ∧ c ≠ '?' ∧ c ≠ '#' := by
  have hraw := (Percent.spells_encodeBytes (Utf8.encode e.name)).ne_nil
    (Utf8.encode_ne_nil hname.ne_empty)
  obtain ⟨c, raw, heq⟩ := List.exists_cons_of_ne_nil hraw
  have hne : ∀ d, d = '/' ∨ d = '?' ∨ d = '#' ∨ d = '\x5c' → c ≠ d := by
    rintro d hd rfl
    exact Percent.not_mem_segment hd (Utf8.encode e.name) (heq ▸ List.mem_cons_self)
  refine ⟨c, raw ++ mark e.isDirectory, ?_, hne _ (.inl rfl), hne _ (.inr (.inr (.inr rfl))),
    hne _ (.inr (.inl rfl)), hne _ (.inr (.inr (.inl rfl)))⟩
  rw [href_eq, heq, List.cons_append]

/-- **A link is relative to its directory exactly if its name does not start with a scheme.**  For
every name the link has a path only, without a query or a fragment, and this path leads below the
directory. -/
theorem isPathRelative_href_iff (hname : IsEntryName e.name) :
    (IsPathRelative (href e) ↔ ¬ Url.HasScheme e.name.toList) ∧
      ('?' ∉ href e ∧ '#' ∉ href e ∧ '\x5c' ∉ href e) ∧
      ∀ directory : List Url.Segment,
        Url.resolveDots directory (fields '/' (href e)) = directory ++ fields '/' (href e) := by
  refine ⟨?_, ?_, resolveDots_href hname⟩
  · constructor
    · intro h
      exact mt hasScheme_href_iff.mpr h.no_scheme
    · intro hscheme
      exact ⟨mt hasScheme_href_iff.mp hscheme, exists_href_eq_cons hname⟩
  · exact ⟨not_mem_href (.inl rfl), not_mem_href (.inr (.inl rfl)), not_mem_href (.inr (.inr rfl))⟩

/-- The entry of a file whose name starts like an address, but with a digit. -/
def numberedEntry : Entry := { name := "1:2", isDirectory := false }

theorem isPathRelative_href_numberedEntry :
    IsEntryName numberedEntry.name ∧ IsPathRelative (href numberedEntry) := by
  have hname : IsEntryName numberedEntry.name :=
    { ne_empty := by decide
      ne_dot := by decide
      ne_dotDot := by decide
      slash_not_mem := by decide
      zero_not_mem := by decide }
  exact ⟨hname, (isPathRelative_href_iff hname).1.mpr (by decide)⟩

/-- The entry of a file whose name is a program for a browser. -/
def scriptEntry : Entry := { name := "javascript:alert(1)", isDirectory := false }

theorem not_isPathRelative_href_scriptEntry :
    IsEntryName scriptEntry.name ∧ ¬ IsPathRelative (href scriptEntry) := by
  have hscheme : Url.HasScheme scriptEntry.name.toList := by decide
  refine ⟨?_, fun h => h.no_scheme (hasScheme_href_iff.mpr hscheme)⟩
  exact
    { ne_empty := by decide
      ne_dot := by decide
      ne_dotDot := by decide
      slash_not_mem := by decide
      zero_not_mem := by decide }

end Listing

end PreviewServer
