import PreviewServer.Proofs.Spellings

/-!
# Complete URLs as targets

A target may be a complete URL, of which path and query count.  It is read by other rules than a
path alone: the path of a URL is brought into its normal form first.  For a path without dots and
backslashes this means that some characters are escaped which were not (`Url.readPath_eq`).
Escaping them changes no byte that a segment is decoded to (`Percent.decode_encode_encodeBytes`):
percent signs are kept, and neither an escape nor a digit behind a percent sign comes about that was
not there.  So each segment is read as before (`Target.decodeSegments_map_escaped`), and the same
segments are empty.

What stands in front of the path has to be a host that can be read, and makes no difference
otherwise (`Url.parse?_complete`).
-/

namespace PreviewServer

namespace Percent

/-! ### Escaping anew -/

theorem encode_cons_of_lt {c : Char} (hc : c.toNat < 128) (cs : List Char) :
    Utf8.encode (String.ofList (c :: cs)) =
      UInt8.ofNat c.toNat :: Utf8.encode (String.ofList cs) := by
  rw [Utf8.encode_ofList_cons, utf8EncodeChar_of_lt hc]
  rfl

/-- A byte that is not escaped stays. -/
theorem encode_encodeBytes_cons {b : UInt8} (hb : path b = false) (bs : Bytes) :
    Utf8.encode (String.ofList (encodeBytes path (b :: bs))) =
      b :: Utf8.encode (String.ofList (encodeBytes path bs)) := by
  have hplain : ∀ n < 256, path (UInt8.ofNat n) = false →
      (Char.ofNat n).toNat = n ∧ n < 128 := by decide +kernel
  obtain ⟨hvalue, hlt⟩ := hplain b.toNat b.toNat_lt (by rw [UInt8.ofNat_toNat, hb])
  rw [encodeBytes_cons_of_neg hb, encode_cons_of_lt (by rw [hvalue]; exact hlt), hvalue,
    UInt8.ofNat_toNat]

/-- A digit at the beginning was there before. -/
theorem exists_of_encode_encodeBytes_eq_cons {bs as : Bytes} {a x : UInt8}
    (h : Utf8.encode (String.ofList (encodeBytes path bs)) = a :: as)
    (ha : hexValue? a = some x) :
    ∃ bs', bs = a :: bs' ∧ as = Utf8.encode (String.ofList (encodeBytes path bs')) := by
  cases bs with
  | nil => cases h
  | cons b bs =>
    by_cases hb : path b = true
    · rw [encodeBytes_cons_of_pos hb, escape, List.cons_append, encode_cons_of_lt (by decide)] at h
      obtain ⟨rfl, -⟩ := List.cons.inj h
      cases ha
    · rw [encode_encodeBytes_cons (Bool.eq_false_iff.mpr hb)] at h
      obtain ⟨rfl, rfl⟩ := List.cons.inj h
      exact ⟨bs, rfl, rfl⟩

/-- A percent sign without two digits behind it stays. -/
theorem decode_percent {bs : Bytes}
    (h : ∀ a b rest x y, bs = a :: b :: rest → hexValue? a = some x → hexValue? b = some y →
      False) :
    decode (0x25 :: bs) = 0x25 :: decode bs := by
  rw [decode.eq_def]
  split
  · rename_i heq
    cases heq
  · rename_i a b rest heq
    obtain ⟨-, rfl⟩ := List.cons.inj heq
    cases hx : hexValue? a with
    | none => rfl
    | some x =>
      cases hy : hexValue? b with
      | none => rfl
      | some y => exact absurd hy (h a b rest x y rfl hx)
  · rename_i heq
    obtain ⟨rfl, rfl⟩ := List.cons.inj heq
    rfl

theorem decode_encode_encodeBytes_percent {bs : Bytes}
    (h : ∀ a b rest x y, bs = a :: b :: rest → hexValue? a = some x → hexValue? b = some y →
      False) :
    decode (Utf8.encode (String.ofList (encodeBytes path (0x25 :: bs)))) =
      0x25 :: decode (Utf8.encode (String.ofList (encodeBytes path bs))) := by
  rw [encode_encodeBytes_cons (by decide)]
  apply decode_percent
  -- Two digits behind the sign now were there before, for an escape does not start with one.
  intro a b rest x y heq hx hy
  obtain ⟨bs', rfl, hrest⟩ := exists_of_encode_encodeBytes_eq_cons heq hx
  obtain ⟨bs'', rfl, -⟩ := exists_of_encode_encodeBytes_eq_cons hrest.symm hy
  exact h a b bs'' x y rfl hx hy

/-- **Escaping anew changes no byte**, also where percent signs stand that start no escape. -/
theorem decode_encode_encodeBytes (bs : Bytes) :
    decode (Utf8.encode (String.ofList (encodeBytes path bs))) = decode bs := by
  have hplain : ∀ n < 256, (hexValue? (UInt8.ofNat n)).isSome = true →
      path (UInt8.ofNat n) = false := by decide +kernel
  have hdigit : ∀ {a x : UInt8}, hexValue? a = some x → path a = false := by
    intro a x h
    have ha := hplain a.toNat a.toNat_lt (by rw [UInt8.ofNat_toNat, h]; rfl)
    rwa [UInt8.ofNat_toNat] at ha
  fun_induction decode bs with
  | case1 => rfl
  | case2 high low bs x y hlow hhigh ih =>
    rw [encode_encodeBytes_cons (by decide), encode_encodeBytes_cons (hdigit hhigh),
      encode_encodeBytes_cons (hdigit hlow), decode, hhigh, hlow]
    dsimp only
    rw [ih]
  | case3 high low bs hnot ih =>
    rw [decode_encode_encodeBytes_percent, ih]
    intro a b rest x y heq hx hy
    cases heq
    exact hnot x y hx hy
  | case4 b bs hnot ih =>
    by_cases hb : b = 0x25
    · rw [hb, decode_encode_encodeBytes_percent, ih]
      intro high low rest x y heq hx hy
      exact hnot high low rest hb heq
    · by_cases hset : path b = true
      · -- The new escape is read as the byte for which it stands.
        have hvalue : ∀ n < 16, digitValue? (hexDigit n) = some n := by decide
        have hlt := b.toNat_lt
        have hescaped := decode_escaped (hvalue (b.toNat / 16) (by omega))
          (hvalue (b.toNat % 16) (by omega)) (encodeBytes path bs)
        rw [encodeBytes_cons_of_pos hset, ← ih]
        exact hescaped
      · rw [encode_encodeBytes_cons (Bool.eq_false_iff.mpr hset), decode_cons_of_ne hb, ih]

/-- Text without characters of the set stays as it is. -/
theorem encodeBytes_encode_of_forall {set : EscapeSet} {cs : List Char}
    (h : ∀ c ∈ cs, c.toNat < 128 ∧ set (UInt8.ofNat c.toNat) = false) :
    encodeBytes set (Utf8.encode (String.ofList cs)) = cs := by
  induction cs with
  | nil => rfl
  | cons c cs ih =>
    obtain ⟨⟨hlt, hset⟩, hcs⟩ := List.forall_mem_cons.mp h
    have hbyte : (UInt8.ofNat c.toNat).toNat = c.toNat :=
      UInt8.toNat_ofNat_of_lt' (Nat.lt_trans hlt (by decide))
    rw [encode_cons_of_lt hlt, encodeBytes_cons_of_neg hset, ih hcs, hbyte, Char.ofNat_toNat]

/-- A slash is not made by escaping. -/
theorem slash_not_mem_encodeBytes {cs : List Char} (h : '/' ∉ cs) :
    '/' ∉ encodeBytes path (Utf8.encode (String.ofList cs)) := by
  have hdigit : ∀ n < 16, '/' ≠ hexDigit n := by decide
  have hbyte : ∀ n < 256, '/' = Char.ofNat n → n = 47 := by decide +kernel
  intro hmem
  rcases cases_of_mem_encodeBytes hmem with hpercent | ⟨n, hn, hslash⟩ | ⟨b, hb, -, hslash⟩
  · cases hpercent
  · exact hdigit n hn hslash
  · have hb47 := hbyte _ b.toNat_lt hslash
    rw [Utf8.encode_ofList] at hb
    obtain ⟨c, hc, hb⟩ := List.mem_flatMap.mp hb
    have hvalue := (mem_utf8EncodeChar_iff (by omega)).mp hb
    have heq : c = '/' := Char.toNat_inj.mp (hvalue.trans hb47)
    exact h (heq ▸ hc)

end Percent

namespace Url

/-! ### The path of a URL -/

/-- A segment as it stands in the normal form of a path. -/
def escaped (raw : List Char) : Segment :=
  Percent.encodeBytes Percent.path (Utf8.encode (String.ofList raw))

theorem escaped_eq_nil_iff {raw : List Char} : escaped raw = [] ↔ raw = [] := by
  constructor
  · intro h
    by_contra hne
    have hbytes : Utf8.encode (String.ofList raw) ≠ [] :=
      Utf8.encode_ne_nil (mt String.ofList_eq_empty_iff.mp hne)
    have hdecode := Percent.decode_encode_encodeBytes (Utf8.encode (String.ofList raw))
    rw [← escaped, h] at hdecode
    exact Percent.decode_ne_nil hbytes hdecode.symm
  · rintro rfl
    rfl

/-- **A segment is decoded as before.** -/
theorem segmentText?_escaped (raw : List Char) :
    Target.segmentText? (escaped raw) = Target.segmentText? raw := by
  rw [Target.segmentText?, Target.segmentText?, escaped, Percent.decode_encode_encodeBytes]

/-- What is no dot is none after escaping. -/
theorem not_isDot_escaped {raw : List Char} (hdot : Target.segmentText? raw ≠ some ".")
    (hdotDot : Target.segmentText? raw ≠ some "..") :
    isSingleDot (escaped raw) = false ∧ isDoubleDot (escaped raw) = false := by
  rw [← segmentText?_escaped] at hdot hdotDot
  exact ⟨Bool.eq_false_iff.mpr fun h => hdot (Target.segmentText?_of_isSingleDot h),
    Bool.eq_false_iff.mpr fun h => hdotDot (Target.segmentText?_of_isDoubleDot h)⟩

/-- A path that consists of names: it starts with a slash, its segments are separated by slashes
only, and none of them is read as a dot or two dots. -/
structure IsPlainPath (path : List Char) : Prop where
  /-- It starts with a slash. -/
  head?_eq : path.head? = some '/'
  /-- It contains no blanks and no control characters. -/
  visible : ∀ c ∈ path, 0x20 < c.toNat
  /-- It contains no backslash. -/
  backslash_not_mem : '\x5c' ∉ path
  /-- No query begins in it. -/
  question_not_mem : '?' ∉ path
  /-- No fragment begins in it. -/
  hash_not_mem : '#' ∉ path
  /-- No segment is read as a dot or two dots. -/
  no_dots : ∀ raw ∈ fields '/' path,
    Target.segmentText? raw ≠ some "." ∧ Target.segmentText? raw ≠ some ".."

/-- **The normal form of a path without dots** has the same segments, escaped anew. -/
theorem readPath_eq {rest : List Char} (h : IsPlainPath ('/' :: rest)) :
    readPath ('/' :: rest) = (fields '/' rest).map escaped := by
  have hslashes : ∀ c ∈ '/' :: rest, (if c = '\x5c' then '/' else c) = c := by
    intro c hc
    apply if_neg
    rintro rfl
    exact h.backslash_not_mem hc
  have hfields : fields '/' ('/' :: rest) = [] :: fields '/' rest := if_pos rfl
  rw [readPath, List.map_congr_left hslashes, List.map_id']
  apply resolveDots_of_forall
  intro s hs
  obtain ⟨raw, hraw, rfl⟩ := List.mem_map.mp hs
  obtain ⟨hdot, hdotDot⟩ := h.no_dots raw (hfields ▸ List.mem_cons_of_mem [] hraw)
  exact not_isDot_escaped hdot hdotDot

theorem fields_pathText {segments : List Segment} (h : ∀ s ∈ segments, '/' ∉ s) :
    fields '/' (pathText segments) = [] :: segments :=
  fields_append_flatMap List.not_mem_nil h

theorem pathText_fields (rest : List Char) : pathText (fields '/' rest) = '/' :: rest := by
  have hfields : fields '/' ('/' :: rest) = [] :: fields '/' rest := if_pos rfl
  rw [← joinWith_fields '/' (pathText _), fields_pathText fun _ => not_mem_of_mem_fields,
    ← hfields, joinWith_fields]

/-- A path ends in a slash if its last segment is empty. -/
theorem getLast?_pathText_concat (segments : List Segment) {last : Segment} (h : '/' ∉ last) :
    (pathText (segments ++ [last])).getLast? = some '/' ↔ last = [] := by
  rw [pathText, List.flatMap_append, List.flatMap_singleton]
  by_cases hlast : last = []
  · rw [hlast]
    exact iff_of_true List.getLast?_concat rfl
  · rw [List.append_cons, List.getLast?_append_of_ne_nil _ hlast]
    exact iff_of_false (fun hslash => h (List.mem_of_getLast? hslash)) hlast

/-- The normal form of a path ends in a slash if the path does. -/
theorem getLast?_pathText_map_escaped (rest : List Char) :
    (pathText ((fields '/' rest).map escaped)).getLast? = some '/' ↔
      ('/' :: rest).getLast? = some '/' := by
  obtain ⟨raws, last, hraws⟩ : ∃ raws last, fields '/' rest = raws ++ [last] :=
    ⟨_, _, (List.dropLast_concat_getLast (fields_ne_nil '/' rest)).symm⟩
  have hlast : '/' ∉ last := by
    have hmem : last ∈ fields '/' rest := by
      rw [hraws]
      exact List.mem_append_right _ (List.mem_singleton_self last)
    exact not_mem_of_mem_fields hmem
  have hescaped : '/' ∉ escaped last := Percent.slash_not_mem_encodeBytes hlast
  rw [← pathText_fields, hraws, List.map_append, List.map_singleton,
    getLast?_pathText_concat _ hlast, getLast?_pathText_concat _ hescaped, escaped_eq_nil_iff]

/-! ### What stands before the path -/

/-- Whether a character can stand in the name of a host or in its port. -/
def isAuthorityChar (c : Char) : Bool := c.isAlphanum || c = '-' || c = '.' || c = ':'

/-- Whether a character of a query is never escaped. -/
def isPlainQueryChar (c : Char) : Bool := c.isAlphanum || "=&+-._~%".toList.contains c

/-- A character of an authority is visible and does not end it. -/
theorem of_isAuthorityChar {c : Char} (h : isAuthorityChar c = true) :
    0x20 < c.toNat ∧ endsAuthority c = false := by
  have hlt : c.toNat < 128 := by
    simp only [isAuthorityChar, Bool.or_eq_true, decide_eq_true_eq] at h
    rcases h with ((h | rfl) | rfl) | rfl
    · exact Percent.toNat_lt_of_isAlphanum h
    · decide
    · decide
    · decide
  have hchar : ∀ n < 128, isAuthorityChar (Char.ofNat n) = true →
      0x20 < n ∧ endsAuthority (Char.ofNat n) = false := by decide +kernel
  have hc := hchar c.toNat hlt
  rw [Char.ofNat_toNat] at hc
  exact hc h

/-- A plain character of a query is visible, is no delimiter and is not escaped. -/
theorem of_isPlainQueryChar {c : Char} (h : isPlainQueryChar c = true) :
    0x20 < c.toNat ∧ c ≠ '#' ∧ c.toNat < 128 ∧
      Percent.query (UInt8.ofNat c.toNat) = false := by
  have hplain : ∀ d ∈ "=&+-._~%".toList, d.toNat < 128 := forall_mem_of_all (by decide)
  have hlt : c.toNat < 128 := by
    rw [isPlainQueryChar, Bool.or_eq_true] at h
    rcases h with h | h
    · exact Percent.toNat_lt_of_isAlphanum h
    · exact hplain c (List.contains_iff_mem.mp h)
  have hchar : ∀ n < 128, isPlainQueryChar (Char.ofNat n) = true →
      0x20 < n ∧ Char.ofNat n ≠ '#' ∧ n < 128 ∧ Percent.query (UInt8.ofNat n) = false := by
    decide +kernel
  have hc := hchar c.toNat hlt
  rw [Char.ofNat_toNat] at hc
  exact hc h

/-- Text without blanks and control characters is clean. -/
theorem clean_of_forall {text : List Char} (h : ∀ c ∈ text, 0x20 < c.toNat) :
    clean text = text := by
  have hdrop : ∀ cs : List Char, (∀ c ∈ cs, 0x20 < c.toNat) →
      cs.dropWhile (fun c => decide (c.toNat ≤ 0x20)) = cs := by
    intro cs hcs
    cases cs with
    | nil => rfl
    | cons c cs =>
      have hc := hcs c List.mem_cons_self
      exact List.dropWhile_cons_of_neg (by rw [decide_eq_true_eq]; omega)
  have hreverse : ∀ c ∈ text.reverse, 0x20 < c.toNat := fun c hc => h c (List.mem_reverse.mp hc)
  unfold clean
  dsimp only
  rw [hdrop text h, hdrop _ hreverse, List.reverse_reverse, List.filter_eq_self]
  intro c hc
  have hvisible := h c hc
  rw [decide_eq_true_eq]
  refine ⟨?_, ?_, ?_⟩
  all_goals
    rintro rfl
    revert hvisible
    decide

theorem behindScheme?_append {scheme : List Char}
    (hscheme : scheme = "http://".toList ∨ scheme = "https://".toList) (rest : List Char) :
    behindScheme? (scheme ++ rest) = some ('/' :: '/' :: rest) := by
  have hschemes : schemes = [['h', 't', 't', 'p', ':'], ['h', 't', 't', 'p', 's', ':']] := by decide
  have hhttp : "http://".toList = ['h', 't', 't', 'p', ':', '/', '/'] := by decide
  have hhttps : "https://".toList = ['h', 't', 't', 'p', 's', ':', '/', '/'] := by decide
  rw [behindScheme?, hschemes]
  rcases hscheme with rfl | rfl
  · rw [hhttp]
    rfl
  · rw [hhttps]
    rfl

/-- The path ends where the query begins. -/
theorem cut_written {path : List Char} (hquestion : '?' ∉ path) (hhash : '#' ∉ path)
    (query : Option (List Char)) :
    (Target.written path query none).takeWhile (!endsPath ·) = path ∧
      (Target.written path query none).dropWhile (!endsPath ·) = query.elim [] ('?' :: ·) := by
  have hpath : ∀ c ∈ path, (!endsPath c) = true := by
    intro c hc
    rw [endsPath, Bool.not_eq_true', Bool.or_eq_false_iff, decide_eq_false_iff_not,
      decide_eq_false_iff_not]
    constructor
    · rintro rfl
      exact hquestion hc
    · rintro rfl
      exact hhash hc
  unfold Target.written
  rw [Option.elim_none, List.append_nil, List.takeWhile_append_of_pos hpath,
    List.dropWhile_append_of_pos hpath]
  cases query with
  | none => exact ⟨List.append_nil path, rfl⟩
  | some q => exact ⟨List.append_nil path, rfl⟩

/-- A complete URL contains no blanks and no control characters. -/
theorem visible_complete {scheme authority path : List Char} {query : Option (List Char)}
    (hscheme : scheme = "http://".toList ∨ scheme = "https://".toList)
    (hauthority : ∀ c ∈ authority, isAuthorityChar c = true) (hpath : ∀ c ∈ path, 0x20 < c.toNat)
    (hquery : ∀ q ∈ query, ∀ c ∈ q, 0x20 < c.toNat) :
    ∀ c ∈ scheme ++ (authority ++ Target.written path query none), 0x20 < c.toNat := by
  have hstart : ∀ c ∈ scheme, 0x20 < c.toNat := by
    rcases hscheme with rfl | rfl <;> exact forall_mem_of_all (by decide)
  have hend : ∀ c ∈ query.elim [] ('?' :: ·), 0x20 < c.toNat := by
    cases query with
    | none => exact List.forall_mem_nil _
    | some q => exact List.forall_mem_cons.mpr ⟨by decide, hquery q rfl⟩
  rw [Target.written, Option.elim_none, List.append_nil, List.forall_mem_append,
    List.forall_mem_append, List.forall_mem_append]
  exact ⟨hstart, fun c hc => (of_isAuthorityChar (hauthority c hc)).1, hpath, hend⟩

/-- The authority stands between the two slashes and the next one. -/
theorem cut_authority {authority : List Char} (hne : authority ≠ [])
    (hauthority : ∀ c ∈ authority, isAuthorityChar c = true) (rest : List Char) :
    ('/' :: '/' :: (authority ++ '/' :: rest)).dropWhile
        (fun c => decide (c = '/') || decide (c = '\x5c')) = authority ++ '/' :: rest ∧
      (authority ++ '/' :: rest).takeWhile (!endsAuthority ·) = authority ∧
      (authority ++ '/' :: rest).dropWhile (!endsAuthority ·) = '/' :: rest := by
  have hends : ∀ c ∈ authority, (!endsAuthority c) = true := fun c hc => by
    rw [(of_isAuthorityChar (hauthority c hc)).2]
    rfl
  refine ⟨?_, ?_, ?_⟩
  · -- No more slashes are skipped, since the authority starts with another character.
    obtain ⟨c, cs, rfl⟩ := List.exists_cons_of_ne_nil hne
    have hc := (of_isAuthorityChar (hauthority c List.mem_cons_self)).2
    simp only [endsAuthority, Bool.or_eq_false_iff] at hc
    rw [List.dropWhile_cons_of_pos (by decide), List.dropWhile_cons_of_pos (by decide),
      List.cons_append, List.dropWhile_cons_of_neg]
    rw [hc.1.1.1, hc.1.1.2]
    decide
  · rw [List.takeWhile_append_of_pos hends]
    exact List.append_nil authority
  · rw [List.dropWhile_append_of_pos hends]
    rfl

/-- Reads an authority: the host, and the port if one is written. -/
def authority? (text : List Char) : Option (Host × Option Nat) :=
  match host? (cutPort false (withoutUser text)).1, port? (cutPort false (withoutUser text)).2 with
  | some host, some port => some (host, port)
  | _, _ => none

/-- **Path and query do not depend on what stands before them**, if that can be read at all. -/
theorem parse?_complete {scheme authority path : List Char} {query : Option (List Char)}
    (hscheme : scheme = "http://".toList ∨ scheme = "https://".toList) (hne : authority ≠ [])
    (hauthority : ∀ c ∈ authority, isAuthorityChar c = true) (hpath : IsPlainPath path)
    (hquery : ∀ q ∈ query, ∀ c ∈ q, 0x20 < c.toNat) :
    parse? (scheme ++ (authority ++ Target.written path query none)) =
      (authority? authority).map fun a =>
        { host := a.1
          port := a.2
          segments := readPath path
          query := query.map fun q =>
            Percent.encodeBytes Percent.query (Utf8.encode (String.ofList (before '#' q))) } := by
  have hvisible := visible_complete hscheme hauthority hpath.visible hquery
  obtain ⟨hpathText, hqueryText⟩ := cut_written hpath.question_not_mem hpath.hash_not_mem query
  obtain ⟨rest, rfl⟩ := List.head?_eq_some_iff.mp hpath.head?_eq
  obtain ⟨tail, htail⟩ : ∃ tail, Target.written ('/' :: rest) query none = '/' :: tail := ⟨_, rfl⟩
  obtain ⟨hslashes, htake, hdrop⟩ := cut_authority hne hauthority tail
  rw [← htail] at hslashes htake hdrop
  unfold parse? authority?
  rw [clean_of_forall hvisible, behindScheme?_append hscheme]
  dsimp only
  rw [hslashes, htake, hdrop, hpathText, hqueryText]
  cases host? (cutPort false (withoutUser authority)).1 with
  | none => rfl
  | some host =>
    cases port? (cutPort false (withoutUser authority)).2 with
    | none => rfl
    | some port => cases query <;> rfl

end Url

namespace Target

/-! ### Reading both forms -/

/-- **The segments are read alike**, also where one of them is refused. -/
theorem decodeSegments_map_escaped (raws : List (List Char)) :
    decodeSegments (raws.map Url.escaped) = decodeSegments raws := by
  have hsegment : ∀ raw, decodeSegment (Url.escaped raw) = decodeSegment raw := by
    intro raw
    rw [decodeSegment, decodeSegment, ← segmentText?, ← segmentText?, Url.segmentText?_escaped]
  induction raws with
  | nil => rfl
  | cons raw raws ih =>
    by_cases hraw : raw = []
    · rw [hraw]
      exact ih
    · rw [List.map_cons, decodeSegments_cons hraw,
        decodeSegments_cons (mt Url.escaped_eq_nil_iff.mp hraw), hsegment, ih]

/-- Whether two targets are read alike: both are refused for the same reason, or both are read, and
they differ at most in how their paths are spelled. -/
inductive ReadAlike : Except TargetError Target → Except TargetError Target → Prop where
  /-- Both are refused. -/
  | error (e : TargetError) : ReadAlike (.error e) (.error e)
  /-- Both are read. -/
  | ok {a b : Target} (segments_eq : a.segments = b.segments)
      (hasTrailingSlash_eq : a.hasTrailingSlash = b.hasTrailingSlash)
      (display_eq : a.display = b.display)
      (directoryLocation_eq : a.directoryLocation = b.directoryLocation)
      (query_eq : a.query = b.query) : ReadAlike (.ok a) (.ok b)

/-- A URL with a scheme is read in full. -/
theorem split?_append {scheme : List Char}
    (hscheme : scheme = "http://".toList ∨ scheme = "https://".toList) (rest : List Char) :
    split? (scheme ++ rest) =
      (Url.parse? (scheme ++ rest)).map fun u => (Url.pathText u.segments, u.query) := by
  have hhead : (scheme ++ rest).head? ≠ some '/' := by
    have hscheme : scheme.head? = some 'h' := by rcases hscheme with rfl | rfl <;> decide
    rw [List.head?_append, hscheme, Option.some_or]
    decide
  have hprefix : urlStarts.any (·.isPrefixOf (scheme ++ rest)) = true := by
    have hmem : scheme ∈ urlStarts := by rcases hscheme with rfl | rfl <;> decide
    rw [List.any_eq_true]
    exact ⟨scheme, hmem, List.isPrefixOf_iff_prefix.mpr (List.prefix_append scheme rest)⟩
  rw [split?, if_neg hhead, if_pos hprefix]

variable {scheme authority path : List Char} {query : Option (List Char)}

/-- An authority that is read before one path can be read before any other. -/
theorem exists_authority?_eq_some
    (hscheme : scheme = "http://".toList ∨ scheme = "https://".toList) (hne : authority ≠ [])
    (hauthority : ∀ c ∈ authority, Url.isAuthorityChar c = true)
    (hhost : ∃ parsed, parse (String.ofList (scheme ++ (authority ++ ['/']))) = .ok parsed) :
    ∃ a, Url.authority? authority = some a := by
  have hroot : Url.IsPlainPath ['/'] :=
    { head?_eq := rfl
      visible := forall_mem_of_all (by decide)
      backslash_not_mem := by decide
      question_not_mem := by decide
      hash_not_mem := by decide
      no_dots := by decide }
  obtain ⟨parsed, hparsed⟩ := hhost
  have hquery : ∀ q ∈ (none : Option (List Char)), ∀ c ∈ q, 0x20 < c.toNat := nofun
  have hread := Url.parse?_complete hscheme hne hauthority hroot hquery
  cases ha : Url.authority? authority with
  | none =>
    rw [ha] at hread
    have hsplit : split? (scheme ++ (authority ++ ['/'])) = none := by
      rw [split?_append hscheme]
      exact Option.map_eq_none_iff.mpr hread
    rw [parse, String.toList_ofList, hsplit] at hparsed
    cases hparsed
  | some a => exact ⟨a, rfl⟩

/-- The path that is read from a complete URL is escaped anew, and the query stays as it is. -/
theorem split?_complete {rest : List Char} {a : Host × Option Nat}
    (hscheme : scheme = "http://".toList ∨ scheme = "https://".toList) (hne : authority ≠ [])
    (hauthority : ∀ c ∈ authority, Url.isAuthorityChar c = true)
    (ha : Url.authority? authority = some a) (hpath : Url.IsPlainPath ('/' :: rest))
    (hquery : ∀ q ∈ query, ∀ c ∈ q, Url.isPlainQueryChar c = true) :
    split? (scheme ++ (authority ++ written ('/' :: rest) query none)) =
      some (Url.pathText ((fields '/' rest).map Url.escaped), query) := by
  have hvisible : ∀ q ∈ query, ∀ c ∈ q, 0x20 < c.toNat :=
    fun q hq c hc => (Url.of_isPlainQueryChar (hquery q hq c hc)).1
  have hwritten : (query.map fun q =>
      Percent.encodeBytes Percent.query (Utf8.encode (String.ofList (before '#' q)))) = query := by
    cases query with
    | none => rfl
    | some q =>
      have hplain := fun c hc => Url.of_isPlainQueryChar (hquery q rfl c hc)
      have hbefore : before '#' q = q := by
        rw [before, cut?_eq_none_iff.mpr fun hmem => (hplain _ hmem).2.1 rfl]
      rw [Option.map_some, hbefore,
        Percent.encodeBytes_encode_of_forall fun c hc => (hplain c hc).2.2]
  rw [split?_append hscheme, Url.parse?_complete hscheme hne hauthority hpath hvisible, ha,
    Option.map_some, Option.map_some, hwritten, Url.readPath_eq hpath]

/-- **A complete URL is read as its path and query**, whatever can be read as a host and a port
stands before them.  The path may contain escapes of any kind, percent signs that start none,
characters that have to be escaped in a URL, and several slashes where one would do. -/
theorem readAlike_complete
    (hscheme : scheme = "http://".toList ∨ scheme = "https://".toList) (hne : authority ≠ [])
    (hauthority : ∀ c ∈ authority, Url.isAuthorityChar c = true)
    (hhost : ∃ parsed, parse (String.ofList (scheme ++ (authority ++ ['/']))) = .ok parsed)
    (hpath : Url.IsPlainPath path) (hquery : ∀ q ∈ query, ∀ c ∈ q, Url.isPlainQueryChar c = true) :
    ReadAlike (parse (String.ofList (scheme ++ (authority ++ written path query none))))
      (parse (String.ofList (written path query none))) := by
  obtain ⟨a, ha⟩ := exists_authority?_eq_some hscheme hne hauthority hhost
  obtain ⟨rest, rfl⟩ := List.head?_eq_some_iff.mp hpath.head?_eq
  have hhash : ∀ q ∈ query, '#' ∉ q :=
    fun q hq hmem => (Url.of_isPlainQueryChar (hquery q hq _ hmem)).2.1 rfl
  have hplain : split? (written ('/' :: rest) query none) = some ('/' :: rest, query) :=
    split?_written hpath.head?_eq hpath.question_not_mem hpath.hash_not_mem hhash none
  have hescaped : ∀ s ∈ (fields '/' rest).map Url.escaped, '/' ∉ s := by
    intro s hs
    obtain ⟨raw, hraw, rfl⟩ := List.mem_map.mp hs
    exact Percent.slash_not_mem_encodeBytes (not_mem_of_mem_fields hraw)
  have hfields : fields '/' ('/' :: rest) = [] :: fields '/' rest := if_pos rfl
  unfold parse
  rw [String.toList_ofList, String.toList_ofList, hplain,
    split?_complete hscheme hne hauthority ha hpath hquery]
  dsimp only
  rw [Url.fields_pathText hescaped, hfields, decodeSegments, decodeSegments,
    decodeSegments_map_escaped]
  cases decodeSegments (fields '/' rest) with
  | error e => exact .error e
  | ok segments =>
    dsimp only
    have hslash : hasTrailingSlash
          { segments := segments
            rawPath := String.ofList (Url.pathText ((fields '/' rest).map Url.escaped))
            query := query.map String.ofList } =
        hasTrailingSlash
          { segments := segments
            rawPath := String.ofList ('/' :: rest)
            query := query.map String.ofList } := by
      rw [hasTrailingSlash, hasTrailingSlash, String.toList_ofList, String.toList_ofList,
        decide_eq_decide]
      exact Url.getLast?_pathText_map_escaped rest
    exact .ok rfl hslash (by rw [display, display, hslash]) rfl rfl

/-- A path with a character that is escaped anew behind a percent sign that starts no escape, with
escapes in lower case, and with several slashes. -/
def brokenEscapes : List Char := "/100%é//%c3%a9%4/".toList

theorem readAlike_brokenEscapes :
    (∃ parsed, parse (String.ofList ("https://".toList ++ ("127.0.0.1:80".toList ++ ['/']))) =
        .ok parsed) ∧
      Url.IsPlainPath brokenEscapes ∧
      ReadAlike (parse "https://127.0.0.1:80/100%é//%c3%a9%4/?a=%20+b")
        (parse "/100%é//%c3%a9%4/?a=%20+b") := by
  have hhost : ∃ parsed,
      parse (String.ofList ("https://".toList ++ ("127.0.0.1:80".toList ++ ['/']))) =
        .ok parsed := by
    refine ⟨{ segments := [], rawPath := "/", query := none }, ?_⟩
    decide +kernel
  have hpath : Url.IsPlainPath brokenEscapes :=
    { head?_eq := by decide
      visible := forall_mem_of_all (by decide)
      backslash_not_mem := by decide
      question_not_mem := by decide
      hash_not_mem := by decide
      no_dots := by decide }
  have hquery : ∀ q ∈ some "a=%20+b".toList, ∀ c ∈ q, Url.isPlainQueryChar c = true := by
    intro q hq
    cases hq
    exact forall_mem_of_all (by decide)
  have hcomplete : "https://127.0.0.1:80/100%é//%c3%a9%4/?a=%20+b" =
      String.ofList ("https://".toList ++
        ("127.0.0.1:80".toList ++ written brokenEscapes (some "a=%20+b".toList) none)) := by decide
  have hplain : "/100%é//%c3%a9%4/?a=%20+b" =
      String.ofList (written brokenEscapes (some "a=%20+b".toList) none) := by decide
  rw [hcomplete, hplain]
  have hchars : ∀ c ∈ "127.0.0.1:80".toList, Url.isAuthorityChar c = true :=
    forall_mem_of_all (by decide)
  exact ⟨hhost, hpath, readAlike_complete (.inr rfl) (by decide) hchars hhost hpath hquery⟩

end Target

end PreviewServer
