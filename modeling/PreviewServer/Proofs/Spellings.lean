import PreviewServer.Proofs.HeaderLines
import PreviewServer.Proofs.TargetReading
import PreviewServer.Text.Digits

/-!
# Spellings of a path

One path can be written in many ways: every byte as a character or as an escape, escapes with digits
of either case, and several slashes where one would do.  `Percent.Spells` says which texts are
spellings of some bytes, and `Target.SpellsPath` which texts are spellings of a path with some
names.  Neither of them says anything about reading.

`Target.parse_written` says that a target is read as the names that its path spells, so that the
spelling makes no difference.  Its proof follows the spelling: an escape is decoded to the one byte
that it spells (`Percent.decode_of_spells`), and slashes stand between names and not within them
(`Target.decodeSegments_of_spellsPath`).
-/

namespace PreviewServer

namespace Percent

/-! ### Spellings of bytes -/

/-- The characters that stand for something else than themselves in a path. -/
def delimiters : List Char := ['/', '?', '#', '%']

/-- Whether a text spells some bytes.  Each byte is escaped, or a character that is no delimiter
stands for all the bytes of its encoding. -/
inductive Spells : Bytes → List Char → Prop where
  /-- No bytes are spelled by no text. -/
  | nil : Spells [] []
  /-- An escape spells the byte of which it has the two digits. -/
  | escaped {b : UInt8} {bs : Bytes} {high low : Char} {cs : List Char}
      (hhigh : digitValue? high = some (b.toNat / 16)) (hlow : digitValue? low = some (b.toNat % 16))
      (rest : Spells bs cs) : Spells (b :: bs) ('%' :: high :: low :: cs)
  /-- Any other character spells its own bytes. -/
  | literal {c : Char} {bs : Bytes} {cs : List Char} (hc : c ∉ delimiters) (rest : Spells bs cs) :
      Spells (String.utf8EncodeChar c ++ bs) (c :: cs)

/-- The digits of an escape are ASCII characters. -/
theorem toNat_lt_of_digitValue? {c : Char} {n : Nat} (h : digitValue? c = some n) :
    c.toNat < 128 := by
  have hle : ∀ d : Char, c ≤ d → c.toNat ≤ d.toNat := fun d hd => Char.le_def.mp hd
  unfold digitValue? at h
  split at h
  · rename_i hc
    exact Nat.lt_of_le_of_lt (hle _ hc.2) (by decide)
  · split at h
    · rename_i hc
      exact Nat.lt_of_le_of_lt (hle _ hc.2) (by decide)
    · split at h
      · rename_i hc
        exact Nat.lt_of_le_of_lt (hle _ hc.2) (by decide)
      · cases h

/-- Letters and digits are ASCII characters. -/
theorem toNat_lt_of_isAlphanum {c : Char} (h : c.isAlphanum = true) : c.toNat < 128 := by
  have hclass : ((c.isUpper || c.isLower) || c.isDigit) = true := h
  rw [Bool.or_eq_true, Bool.or_eq_true] at hclass
  rcases hclass with (hupper | hlower) | hdigit
  · have hle : c ≤ 'Z' := (of_decide_eq_true hupper).2
    exact Nat.lt_of_le_of_lt (UInt32.le_iff_toNat_le.mp hle) (by decide)
  · have hle : c ≤ 'z' := of_decide_eq_true (Bool.and_eq_true_iff.mp hlower).2
    exact Nat.lt_of_le_of_lt (UInt32.le_iff_toNat_le.mp hle) (by decide)
  · have hle := (Char.isDigit_iff_toNat.mp hdigit).2
    exact Nat.lt_of_le_of_lt hle (by decide)

/-- A digit has the same value as a byte. -/
theorem hexValue?_of_digitValue? {c : Char} {n : Nat} (h : digitValue? c = some n) :
    hexValue? (UInt8.ofNat c.toNat) = some (UInt8.ofNat n) := by
  have hbyte : ∀ k < 128,
      hexValue? (UInt8.ofNat k) = (digitValue? (Char.ofNat k)).map UInt8.ofNat := by
    decide +kernel
  rw [hbyte _ (toNat_lt_of_digitValue? h), Char.ofNat_toNat, h]
  rfl

/-- An escape is decoded to the byte of which it has the digits. -/
theorem decode_escaped {b : UInt8} {high low : Char} (hhigh : digitValue? high = some (b.toNat / 16))
    (hlow : digitValue? low = some (b.toNat % 16)) (cs : List Char) :
    decode (Utf8.encode (String.ofList ('%' :: high :: low :: cs))) =
      b :: decode (Utf8.encode (String.ofList cs)) := by
  have hbytes : Utf8.encode (String.ofList ('%' :: high :: low :: cs)) =
      0x25 :: UInt8.ofNat high.toNat :: UInt8.ofNat low.toNat :: Utf8.encode (String.ofList cs) := by
    rw [Utf8.encode_ofList_cons, Utf8.encode_ofList_cons, Utf8.encode_ofList_cons,
      utf8EncodeChar_of_lt (toNat_lt_of_digitValue? hhigh),
      utf8EncodeChar_of_lt (toNat_lt_of_digitValue? hlow)]
    rfl
  have hvalue : UInt8.ofNat (b.toNat / 16) * 16 + UInt8.ofNat (b.toNat % 16) = b := by
    have hsum : b.toNat / 16 * 16 + b.toNat % 16 = b.toNat := by omega
    have hcast := congrArg UInt8.ofNat hsum
    rwa [UInt8.ofNat_add, UInt8.ofNat_mul, UInt8.ofNat_toNat] at hcast
  rw [hbytes, decode, hexValue?_of_digitValue? hhigh, hexValue?_of_digitValue? hlow]
  dsimp only
  rw [hvalue]

/-- **A spelling is decoded to the bytes that it spells.** -/
theorem decode_of_spells {bs : Bytes} {cs : List Char} (h : Spells bs cs) :
    decode (Utf8.encode (String.ofList cs)) = bs := by
  induction h with
  | nil => rfl
  | escaped hhigh hlow _ ih => rw [decode_escaped hhigh hlow, ih]
  | @literal c bs cs hc _ ih =>
    -- Only a percent sign has the byte of a percent sign in its encoding.
    have hpercent : 0x25 ∉ String.utf8EncodeChar c := by
      intro hmem
      have hn := (mem_utf8EncodeChar_iff (by decide)).mp hmem
      have heq : c = '%' := Char.toNat_inj.mp hn
      rw [heq] at hc
      exact absurd hc (by decide)
    rw [Utf8.encode_ofList_cons, decode_append_of_not_mem hpercent, ih]

/-- A spelling contains no delimiter but percent signs. -/
theorem Spells.not_mem {bs : Bytes} {cs : List Char} (h : Spells bs cs) {d : Char}
    (hd : d ∈ delimiters) (hpercent : d ≠ '%') : d ∉ cs := by
  have hdigit : digitValue? d = none := by
    simp only [delimiters, List.mem_cons, List.not_mem_nil, or_false] at hd
    rcases hd with rfl | rfl | rfl | rfl <;> rfl
  have hne : ∀ {c : Char} {n : Nat}, digitValue? c = some n → d ≠ c := by
    rintro c n hc rfl
    rw [hdigit] at hc
    cases hc
  induction h with
  | nil => exact List.not_mem_nil
  | escaped hhigh hlow _ ih =>
    simp only [List.mem_cons, not_or]
    exact ⟨hpercent, hne hhigh, hne hlow, ih⟩
  | literal hc _ ih =>
    rw [List.mem_cons, not_or]
    exact ⟨fun heq => hc (heq ▸ hd), ih⟩

/-- Bytes that are there are spelled by some text. -/
theorem Spells.ne_nil {bs : Bytes} {cs : List Char} (h : Spells bs cs) (hne : bs ≠ []) :
    cs ≠ [] := by
  rintro rfl
  cases h
  exact hne rfl

/-- An escaped name is a spelling of it. -/
theorem spells_encodeBytes (bs : Bytes) : Spells bs (encodeBytes segment bs) := by
  have hdigit : ∀ n < 16, digitValue? (hexDigit n) = some n := by decide
  have hplain : ∀ n < 256, segment (UInt8.ofNat n) = false →
      (Char.ofNat n).toNat = n ∧ n < 128 ∧ Char.ofNat n ∉ delimiters := by decide +kernel
  induction bs with
  | nil => exact .nil
  | cons b bs ih =>
    have hb := b.toNat_lt
    unfold encodeBytes
    rw [List.flatMap_cons]
    by_cases hset : segment b = true
    · rw [if_pos hset]
      exact .escaped (hdigit _ (by omega)) (hdigit _ (by omega)) ih
    · rw [if_neg hset]
      obtain ⟨hvalue, hlt, hdelimiter⟩ := hplain b.toNat hb (by
        rw [UInt8.ofNat_toNat]
        exact Bool.eq_false_iff.mpr hset)
      have hbytes : String.utf8EncodeChar (Char.ofNat b.toNat) = [b] := by
        rw [utf8EncodeChar_of_lt (by omega), hvalue, UInt8.ofNat_toNat]
      have hspells := Spells.literal hdelimiter ih
      rwa [hbytes] at hspells

end Percent

open Percent

namespace Target

/-! ### Spellings of a path -/

/-- Whether a text spells a path with these names: a slash or several stand before each name, and
perhaps also behind the last one. -/
inductive SpellsPath : List Bytes → List Char → Prop where
  /-- A slash alone spells the path without names. -/
  | root : SpellsPath [] ['/']
  /-- One more slash makes no difference. -/
  | slash {names : List Bytes} {path : List Char} (rest : SpellsPath names path) :
      SpellsPath names ('/' :: path)
  /-- The last name, with no slash behind it. -/
  | last {name : Bytes} {raw : List Char} (hne : name ≠ []) (hraw : Spells name raw) :
      SpellsPath [name] ('/' :: raw)
  /-- A name with the path of further names behind it. -/
  | cons {name : Bytes} {raw : List Char} {names : List Bytes} {path : List Char} (hne : name ≠ [])
      (hraw : Spells name raw) (rest : SpellsPath names path) :
      SpellsPath (name :: names) ('/' :: (raw ++ path))

/-- A path begins with a slash. -/
theorem SpellsPath.exists_cons {names : List Bytes} {path : List Char} (h : SpellsPath names path) :
    ∃ rest, path = '/' :: rest := by
  cases h with
  | root => exact ⟨_, rfl⟩
  | slash _ => exact ⟨_, rfl⟩
  | last _ _ => exact ⟨_, rfl⟩
  | cons _ _ _ => exact ⟨_, rfl⟩

/-- The delimiters behind a path do not occur in it. -/
theorem SpellsPath.not_mem {names : List Bytes} {path : List Char} (h : SpellsPath names path)
    {d : Char} (hd : d = '?' ∨ d = '#') : d ∉ path := by
  have hmem : d ∈ delimiters := by rcases hd with rfl | rfl <;> decide
  have hpercent : d ≠ '%' := by rcases hd with rfl | rfl <;> decide
  have hslash : d ≠ '/' := by rcases hd with rfl | rfl <;> decide
  induction h with
  | root =>
    rw [List.mem_singleton]
    exact hslash
  | slash _ ih =>
    rw [List.mem_cons, not_or]
    exact ⟨hslash, ih⟩
  | last _ hraw =>
    rw [List.mem_cons, not_or]
    exact ⟨hslash, hraw.not_mem hmem hpercent⟩
  | cons _ hraw _ ih =>
    rw [List.mem_cons, not_or, List.mem_append, not_or]
    exact ⟨hslash, hraw.not_mem hmem hpercent, ih⟩

/-! ### Reading the names -/

/-- Why a name is refused, if it is: it is no text, or it would lead elsewhere. -/
def fault? (name : Bytes) : Option TargetError :=
  match Utf8.decode? name with
  | none => some .notText
  | some s =>
    if s = ".." ∨ '/' ∈ s.toList ∨ '\x5c' ∈ s.toList ∨ '\x00' ∈ s.toList then
      some .escapesDirectory
    else none

/-- The text of a name, unless it stays where it is. -/
def text? (name : Bytes) : Option String :=
  match Utf8.decode? name with
  | none => none
  | some s => if s = "." then none else some s

/-- **A segment is read as the name that it spells.** -/
theorem decodeSegment_of_spells {name : Bytes} {raw : List Char} (h : Spells name raw) :
    decodeSegment raw =
      match fault? name with
      | some e => .error e
      | none => .ok (text? name) := by
  rw [decodeSegment, decode_of_spells h, fault?, text?]
  cases Utf8.decode? name with
  | none => rfl
  | some s =>
    dsimp only
    by_cases hdot : s = "."
    · -- A dot has no fault.
      have hgood : ¬ (s = ".." ∨ '/' ∈ s.toList ∨ '\x5c' ∈ s.toList ∨ '\x00' ∈ s.toList) := by
        rw [hdot]
        decide
      rw [if_pos hdot, if_neg hgood, if_pos hdot]
    · by_cases hbad : s = ".." ∨ '/' ∈ s.toList ∨ '\x5c' ∈ s.toList ∨ '\x00' ∈ s.toList
      · rw [if_neg hdot, if_pos hbad, if_pos (hbad.imp_right any_forbidden_iff.mpr)]
      · rw [if_neg hdot, if_neg hbad, if_neg (mt (Or.imp_right any_forbidden_iff.mp) hbad),
          if_neg hdot]

/-- One name more is read first. -/
theorem decodeSegments_cons_of_spells {name : Bytes} {names : List Bytes} {raw : List Char}
    (hne : name ≠ []) (hraw : Spells name raw) {raws : List (List Char)}
    (h : decodeSegments raws =
      match names.findSome? fault? with
      | some e => .error e
      | none => .ok (names.filterMap text?)) :
    decodeSegments (raw :: raws) =
      match (name :: names).findSome? fault? with
      | some e => .error e
      | none => .ok ((name :: names).filterMap text?) := by
  rw [decodeSegments_cons (hraw.ne_nil hne), decodeSegment_of_spells hraw, List.findSome?_cons,
    List.filterMap_cons]
  cases fault? name with
  | some e => rfl
  | none =>
    dsimp only
    rw [h]
    cases names.findSome? fault? with
    | some e => rfl
    | none => cases text? name <;> rfl

/-- **A path is read as the names that it spells.**  The first name with a fault decides. -/
theorem decodeSegments_of_spellsPath {names : List Bytes} {path : List Char}
    (h : SpellsPath names path) :
    decodeSegments (fields '/' path) =
      match names.findSome? fault? with
      | some e => .error e
      | none => .ok (names.filterMap text?) := by
  have hslash : ∀ cs, fields '/' ('/' :: cs) = [] :: fields '/' cs := fun cs => if_pos rfl
  have hmem : '/' ∈ delimiters := by decide
  induction h with
  | root => rfl
  | slash _ ih =>
    rw [hslash, decodeSegments, ih]
  | @last name raw hne hraw =>
    rw [hslash, decodeSegments, fields_of_not_mem (hraw.not_mem hmem (by decide))]
    exact decodeSegments_cons_of_spells hne hraw rfl
  | @cons name raw names path hne hraw rest ih =>
    -- The slash that the rest begins with ends the name.
    obtain ⟨cs, rfl⟩ := rest.exists_cons
    rw [hslash, decodeSegments] at ih
    rw [hslash, decodeSegments, fields_append_cons (hraw.not_mem hmem (by decide))]
    exact decodeSegments_cons_of_spells hne hraw ih

/-- A name without fault is a text. -/
theorem exists_of_fault?_eq_none {name : Bytes} (h : fault? name = none) :
    ∃ s, name = Utf8.encode s := by
  unfold fault? at h
  cases hname : Utf8.decode? name with
  | none =>
    rw [hname] at h
    cases h
  | some s => exact ⟨s, Utf8.decode?_eq_some_iff.mp hname⟩

/-- Names without fault are kept as they are, all but those that stay. -/
theorem map_encode_filterMap_text? {names : List Bytes} (h : names.findSome? fault? = none) :
    (names.filterMap text?).map Utf8.encode = names.filter fun name => name ≠ Utf8.encode "." := by
  induction names with
  | nil => rfl
  | cons name names ih =>
    rw [List.findSome?_eq_none_iff, List.forall_mem_cons] at h
    obtain ⟨s, rfl⟩ := exists_of_fault?_eq_none h.1
    have hrest := ih (List.findSome?_eq_none_iff.mpr h.2)
    have htext : text? (Utf8.encode s) = if s = "." then none else some s := by
      rw [text?, Utf8.decode?_encode]
    rw [List.filterMap_cons, htext]
    by_cases hdot : s = "."
    · rw [if_pos hdot, hdot]
      exact hrest
    · have hkeep : Utf8.encode s ≠ Utf8.encode "." := fun heq => hdot (Utf8.encode_injective heq)
      rw [if_neg hdot, List.filter_cons, if_pos (decide_eq_true hkeep), ← hrest]
      rfl

/-! ### Whole targets -/

/-- A target as it is written: a path, and behind it a query and a fragment, if there are any. -/
def written (path : List Char) (query fragment : Option (List Char)) : List Char :=
  path ++ query.elim [] ('?' :: ·) ++ fragment.elim [] ('#' :: ·)

variable {path : List Char} {query : Option (List Char)}

/-- The fragment is cut off first. -/
theorem before_written (hpath : '#' ∉ path) (hquery : ∀ q ∈ query, '#' ∉ q)
    (fragment : Option (List Char)) :
    before '#' (written path query fragment) = written path query none := by
  have hnone : '#' ∉ path ++ query.elim [] ('?' :: ·) := by
    rw [List.mem_append, not_or]
    refine ⟨hpath, ?_⟩
    cases query with
    | none => exact List.not_mem_nil
    | some q =>
      rw [Option.elim_some, List.mem_cons, not_or]
      exact ⟨by decide, hquery q rfl⟩
  unfold before written
  rw [Option.elim_none, List.append_nil]
  cases fragment with
  | none => rw [Option.elim_none, List.append_nil, cut?_eq_none_iff.mpr hnone]
  | some f => rw [Option.elim_some, cut?_append hnone]

/-- **A target is taken apart into the path and the query that it was written with.** -/
theorem split?_written (hstart : path.head? = some '/') (hquestion : '?' ∉ path)
    (hhash : '#' ∉ path) (hquery : ∀ q ∈ query, '#' ∉ q) (fragment : Option (List Char)) :
    split? (written path query fragment) = some (path, query) := by
  have hhead : (written path query fragment).head? = some '/' := by
    cases path with
    | nil => cases hstart
    | cons c path => exact hstart
  unfold split?
  rw [if_pos hhead, before_written hhash hquery]
  unfold written
  rw [Option.elim_none, List.append_nil]
  cases query with
  | none => rw [Option.elim_none, List.append_nil, cut?_eq_none_iff.mpr hquestion]
  | some q => rw [Option.elim_some, cut?_append hquestion]

/-- **A target is read as the names that its path spells**, however it spells them, and whatever
query and fragment stand behind the path. -/
theorem parse_written {names : List Bytes} (h : SpellsPath names path)
    (hquery : ∀ q ∈ query, '#' ∉ q) (fragment : Option (List Char)) :
    parse (String.ofList (written path query fragment)) =
      match names.findSome? fault? with
      | some e => .error e
      | none => .ok { segments := names.filterMap text?
                      rawPath := String.ofList path
                      query := query.map String.ofList } := by
  have hstart : path.head? = some '/' := by
    obtain ⟨rest, rfl⟩ := h.exists_cons
    rfl
  unfold parse
  rw [String.toList_ofList,
    split?_written hstart (h.not_mem (.inl rfl)) (h.not_mem (.inr rfl)) hquery]
  dsimp only
  rw [decodeSegments_of_spellsPath h]
  cases names.findSome? fault? with
  | some e => rfl
  | none => rfl

/-- **The reading of a target depends on what its path spells, and not on how.**  The names are
judged in their order, and the first one with a fault decides.  Without a fault the segments are the
names, each decoded once, less those that stay where they are.  So the segments of any target that
is read name one thing each, also those of a complete URL. -/
theorem parse_written_and_isSegment_of_parse :
    (∀ (names : List Bytes) (path : List Char) (query fragment : Option (List Char)),
      SpellsPath names path → (∀ q ∈ query, '#' ∉ q) →
        match names.findSome? fault? with
        | some e => parse (String.ofList (written path query fragment)) = .error e
        | none => ∃ segments,
          parse (String.ofList (written path query fragment)) =
            .ok { segments := segments
                  rawPath := String.ofList path
                  query := query.map String.ofList } ∧
          segments.map Utf8.encode = names.filter fun name => name ≠ Utf8.encode ".") ∧
    ∀ (target : String) (parsed : Target), parse target = .ok parsed →
      ∀ segment ∈ parsed.segments, IsSegment segment := by
  refine ⟨?_, fun target parsed => isSegment_of_mem_segments⟩
  intro names path query fragment hpath hquery
  have hparse := parse_written hpath hquery fragment
  cases hfault : names.findSome? fault? with
  | some e =>
    rw [hfault] at hparse
    exact hparse
  | none =>
    rw [hfault] at hparse
    exact ⟨_, hparse, map_encode_filterMap_text? hfault⟩

/-- A path in which one escape spells a letter, one a dot, and two spell percent signs. -/
def spelledPath : List Char := "//d%6fcs/%2E//%252e%252e/".toList

theorem spellsPath_spelledPath :
    SpellsPath [Utf8.encode "docs", Utf8.encode ".", Utf8.encode "%2e%2e"] spelledPath := by
  have hdocs : Spells (Utf8.encode "docs") "d%6fcs".toList :=
    .literal (c := 'd') (by decide) (.escaped (b := 0x6f) rfl rfl
      (.literal (c := 'c') (by decide) (.literal (c := 's') (by decide) .nil)))
  have hdot : Spells (Utf8.encode ".") "%2E".toList := .escaped (b := 0x2e) rfl rfl .nil
  have hname : Spells (Utf8.encode "%2e%2e") "%252e%252e".toList :=
    .escaped (b := 0x25) rfl rfl (.literal (c := '2') (by decide) (.literal (c := 'e') (by decide)
      (.escaped (b := 0x25) rfl rfl (.literal (c := '2') (by decide)
        (.literal (c := 'e') (by decide) .nil)))))
  exact .slash (.cons (by decide) hdocs (.cons (by decide) hdot
    (.slash (.cons (by decide) hname .root))))

/-- Escaped percent signs are decoded once, and what then looks like two dots goes nowhere. -/
theorem parse_spelledPath :
    SpellsPath [Utf8.encode "docs", Utf8.encode ".", Utf8.encode "%2e%2e"] spelledPath ∧
      parse "//d%6fcs/%2E//%252e%252e/?a/../b#c?d" =
        .ok { segments := ["docs", "%2e%2e"]
              rawPath := "//d%6fcs/%2E//%252e%252e/"
              query := some "a/../b" } ∧
      IsSegment "%2e%2e" := by
  have hquery : ∀ q ∈ some "a/../b".toList, '#' ∉ q := by decide
  obtain ⟨segments, hparse, hsegments⟩ := parse_written_and_isSegment_of_parse.1 _ _
    (some "a/../b".toList) (some "c?d".toList) spellsPath_spelledPath hquery
  have heq : segments.map Utf8.encode = ["docs", "%2e%2e"].map Utf8.encode := hsegments
  obtain rfl := List.map_injective_iff.mpr (fun _ _ => Utf8.encode_injective) heq
  exact ⟨spellsPath_spelledPath, hparse,
    parse_written_and_isSegment_of_parse.2 _ _ hparse _ (by decide)⟩

end Target

end PreviewServer
