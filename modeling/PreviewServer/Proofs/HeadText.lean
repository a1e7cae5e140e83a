import PreviewServer.Proofs.ByteLines

/-!
# Heads as lines of text

A head is written as lines with a line break between two of them, and an empty line behind the last
one.  Reading it undoes this on both sides: the bytes end at the first empty line, which is the one
that was written (`headLength?_joinWith`), and the text is cut into the lines that were written
(`crlfLines_joinWith`).

A line may contain a carriage return or a line feed that stands alone.  What it must not contain is
a line break (`IsLine`), and this is also all that is known about the lines of a head that was read
(`isLine_of_mem_crlfLines`).  Lines of text are lines of bytes as well (`IsLine.isByteLine`), since
the byte of an ASCII character cuts a text just where the character stands
(`Utf8.exists_of_encode_eq`).
-/

namespace PreviewServer

/-- The characters of a line break. -/
def lineBreak : List Char := ['\r', '\n']

/-- Whether a text is a single line: it contains no line break. -/
def IsLine (cs : List Char) : Prop := ¬ lineBreak <:+: cs

/-! ### Lines of a text -/

theorem crlfLines_cons {c : Char} {cs : List Char} (h : ¬ lineBreak <+: c :: cs) :
    ∃ l ls, crlfLines cs = l :: ls ∧ crlfLines (c :: cs) = (c :: l) :: ls := by
  obtain ⟨l, ls, hl⟩ := List.exists_cons_of_ne_nil (crlfLines_ne_nil cs)
  refine ⟨l, ls, hl, ?_⟩
  rw [crlfLines.eq_def]
  split
  · rename_i heq
    cases heq
  · rename_i ds heq
    obtain ⟨rfl, rfl⟩ := List.cons.inj heq
    exact absurd ⟨ds, rfl⟩ h
  · rename_i heq
    obtain ⟨rfl, rfl⟩ := List.cons.inj heq
    rw [hl]

theorem IsLine.of_cons {c : Char} {cs : List Char} (h : IsLine (c :: cs)) : IsLine cs :=
  fun hb => h (List.infix_cons hb)

/-- A text without carriage returns is a single line. -/
theorem isLine_of_not_mem {cs : List Char} (h : '\r' ∉ cs) : IsLine cs := by
  intro hb
  exact h (hb.subset List.mem_cons_self)

/-- A character that no line break contains stands between two lines if it stands in one. -/
theorem isLine_append_cons_iff {d : Char} (hd : d ∉ lineBreak) {a b : List Char} :
    IsLine (a ++ d :: b) ↔ IsLine a ∧ IsLine b := by
  constructor
  · intro h
    constructor
    · exact fun hb => h (hb.trans (List.prefix_append a _).isInfix)
    · exact fun hb => h (hb.trans ((List.suffix_cons d b).trans (List.suffix_append a _)).isInfix)
  · rintro ⟨ha, hb⟩ hinfix
    induction a with
    | nil =>
      rcases List.infix_cons_iff.mp hinfix with hp | hinfix
      · exact hd ((List.cons_prefix_cons.mp hp).1 ▸ List.mem_cons_self)
      · exact hb hinfix
    | cons c a ih =>
      rcases List.infix_cons_iff.mp hinfix with hp | hinfix
      · exact ha ((prefix_append_cons_iff (a := c :: a) hd).mp hp).isInfix
      · exact ih ha.of_cons hinfix

/-- A line break within a line would also be one when something else than a line feed follows. -/
theorem IsLine.not_prefix_append {c d : Char} {cs ds : List Char} (h : IsLine (c :: cs))
    (hd : d ≠ '\n') : ¬ lineBreak <+: c :: cs ++ d :: ds := by
  intro hp
  obtain ⟨rfl, hnext⟩ := List.cons_prefix_cons.mp hp
  cases cs with
  | nil => exact hd (List.cons_prefix_cons.mp hnext).1.symm
  | cons e cs =>
    obtain ⟨rfl, -⟩ := List.cons_prefix_cons.mp hnext
    exact h ⟨[], cs, rfl⟩

/-- A line with a line break behind it is cut off. -/
theorem crlfLines_append {l : List Char} (h : IsLine l) (cs : List Char) :
    crlfLines (l ++ lineBreak ++ cs) = l :: crlfLines cs := by
  rw [List.append_assoc]
  induction l with
  | nil => rfl
  | cons c l ih =>
    have hbreak : ¬ lineBreak <+: c :: l ++ '\r' :: '\n' :: cs := h.not_prefix_append (by decide)
    obtain ⟨k, ks, hk, hcons⟩ := crlfLines_cons hbreak
    have hrest : k :: ks = l :: crlfLines cs := hk.symm.trans (ih h.of_cons)
    obtain ⟨rfl, rfl⟩ := List.cons.inj hrest
    exact hcons

/-- A single line is not cut. -/
theorem crlfLines_of_isLine {l : List Char} (h : IsLine l) : crlfLines l = [l] := by
  induction l with
  | nil => rfl
  | cons c l ih =>
    obtain ⟨k, ks, hk, hcons⟩ := crlfLines_cons fun hp => h hp.isInfix
    rw [ih h.of_cons] at hk
    obtain ⟨rfl, rfl⟩ := List.cons.inj hk
    exact hcons

/-- The first line of a text is what the text begins with. -/
theorem prefix_of_crlfLines_eq {cs l : List Char} {ls : List (List Char)}
    (h : crlfLines cs = l :: ls) : l <+: cs := by
  have hcs := joinWith_crlfLines cs
  rw [h] at hcs
  rw [← hcs]
  cases ls with
  | nil => exact List.prefix_rfl
  | cons k ks =>
    rw [joinWith, List.append_assoc]
    exact List.prefix_append _ _

/-- **Lines that are put together are cut apart again.** -/
theorem crlfLines_joinWith {l : List Char} {ls : List (List Char)}
    (h : ∀ k ∈ l :: ls, IsLine k) : crlfLines (joinWith lineBreak (l :: ls)) = l :: ls := by
  induction ls generalizing l with
  | nil => exact crlfLines_of_isLine (h l List.mem_cons_self)
  | cons k ks ih =>
    rw [joinWith, crlfLines_append (h l List.mem_cons_self),
      ih fun m hm => h m (List.mem_cons_of_mem l hm)]

/-- What a text is cut into are lines. -/
theorem isLine_of_mem_crlfLines {cs l : List Char} (h : l ∈ crlfLines cs) : IsLine l := by
  have hnil : IsLine [] := isLine_of_not_mem List.not_mem_nil
  induction cs using crlfLines.induct generalizing l with
  | case1 =>
    rw [List.mem_singleton.mp h]
    exact hnil
  | case2 cs ih =>
    rcases List.mem_cons.mp h with rfl | h
    · exact hnil
    · exact ih h
  | case3 c cs _ hcs _ => exact absurd hcs (crlfLines_ne_nil cs)
  | case4 c cs hbreak k ks hk ih =>
    have hp : ¬ lineBreak <+: c :: cs := by
      rintro ⟨ds, hds⟩
      obtain ⟨hc, rfl⟩ := List.cons.inj hds
      exact hbreak ds hc.symm rfl
    obtain ⟨k', ks', hk', hcons⟩ := crlfLines_cons hp
    rw [hk] at hk'
    obtain ⟨rfl, rfl⟩ := List.cons.inj hk'
    rw [hcons] at h
    rcases List.mem_cons.mp h with rfl | h
    · intro hb
      rcases List.infix_cons_iff.mp hb with hb | hb
      · exact hp (hb.trans (List.cons_prefix_cons.mpr ⟨rfl, prefix_of_crlfLines_eq hk⟩))
      · exact ih (hk ▸ List.mem_cons_self) hb
    · exact ih (hk ▸ List.mem_cons_of_mem k h)

/-- **A line break cuts any text in two**, whatever lines stand on both sides of it. -/
theorem crlfLines_append_lineBreak (a b : List Char) :
    crlfLines (a ++ lineBreak ++ b) = crlfLines a ++ crlfLines b := by
  obtain ⟨l, ls, hl⟩ := List.exists_cons_of_ne_nil (crlfLines_ne_nil a)
  obtain ⟨m, ms, hm⟩ := List.exists_cons_of_ne_nil (crlfLines_ne_nil b)
  have ha : joinWith lineBreak (l :: ls) = a := hl ▸ joinWith_crlfLines a
  have hb : joinWith lineBreak (m :: ms) = b := hm ▸ joinWith_crlfLines b
  have hlines : ∀ k ∈ l :: (ls ++ m :: ms), IsLine k := by
    intro k hk
    rw [← List.cons_append, List.mem_append, ← hl, ← hm] at hk
    exact hk.elim isLine_of_mem_crlfLines isLine_of_mem_crlfLines
  rw [hl, hm, ← ha, ← hb, ← joinWith_append, List.cons_append, crlfLines_joinWith hlines]

/-- Texts that are put together are cut where they were put together, and each one in itself. -/
theorem crlfLines_joinWith_eq_flatMap (t : List Char) (ts : List (List Char)) :
    crlfLines (joinWith lineBreak (t :: ts)) = (t :: ts).flatMap crlfLines := by
  induction ts generalizing t with
  | nil => rw [joinWith, List.flatMap_singleton]
  | cons u ts ih => rw [joinWith, crlfLines_append_lineBreak, ih, ← List.flatMap_cons]

/-- What stands before the first carriage return belongs to the first line. -/
theorem crlfLines_append_of_not_mem {a : List Char} (h : '\r' ∉ a) (b : List Char) :
    ∃ l ls, crlfLines b = l :: ls ∧ crlfLines (a ++ b) = (a ++ l) :: ls := by
  induction a with
  | nil =>
    obtain ⟨l, ls, hl⟩ := List.exists_cons_of_ne_nil (crlfLines_ne_nil b)
    exact ⟨l, ls, hl, hl⟩
  | cons c a ih =>
    rw [List.mem_cons, not_or] at h
    obtain ⟨l, ls, hl, ha⟩ := ih h.2
    have hbreak : ¬ lineBreak <+: c :: (a ++ b) := fun hp => h.1 (List.cons_prefix_cons.mp hp).1
    obtain ⟨k, ks, hk, hcons⟩ := crlfLines_cons hbreak
    rw [ha] at hk
    obtain ⟨rfl, rfl⟩ := List.cons.inj hk
    exact ⟨l, ls, hl, hcons⟩

theorem flatMap_append_lineBreak (l : List Char) (ls : List (List Char)) :
    l ++ lineBreak ++ ls.flatMap (· ++ lineBreak) = joinWith lineBreak (l :: ls) ++ lineBreak := by
  induction ls generalizing l with
  | nil => rw [List.flatMap_nil, List.append_nil, joinWith]
  | cons m ls ih =>
    rw [List.flatMap_cons, ih m, joinWith, List.append_assoc (l ++ lineBreak)]

/-- A head is written as its lines, each with a line break behind it, and an empty line. -/
theorem join_map_append_lineBreak (l : String) (ls : List String) :
    String.join ((l :: ls).map (· ++ "\r\n")) ++ "\r\n" =
      String.ofList (joinWith lineBreak ((l :: ls).map String.toList)) ++ "\r\n\r\n" := by
  apply String.toList_inj.mp
  have hjoin := flatMap_append_lineBreak l.toList (ls.map String.toList)
  rw [List.flatMap_map] at hjoin
  have hbreak : "\r\n".toList = lineBreak := rfl
  have hbreaks : "\r\n\r\n".toList = lineBreak ++ lineBreak := rfl
  simp only [String.toList_append, String.toList_ofList, String.toList_join, List.map_cons,
    List.flatMap_cons, List.flatMap_map, hbreak, hbreaks]
  rw [hjoin, List.append_assoc]

/-! ### Lines as bytes -/

/-- A byte below 128 stands for the character of this number and occurs in no other one. -/
theorem mem_utf8EncodeChar_iff {b : UInt8} (hb : b.toNat < 128) {c : Char} :
    b ∈ String.utf8EncodeChar c ↔ c.toNat = b.toNat := by
  have hmem : ∀ n : Nat, b = UInt8.ofNat n ↔ b.toNat = n % 256 := by
    intro n
    rw [← UInt8.toNat_inj, UInt8.toNat_ofNat']
  have hc : c.val.toNat = c.toNat := rfl
  unfold String.utf8EncodeChar
  simp only [hc]
  split
  · rw [List.mem_singleton, hmem]
    omega
  · split
    · simp only [List.mem_cons, List.not_mem_nil, or_false, hmem]
      omega
    · split <;> simp only [List.mem_cons, List.not_mem_nil, or_false, hmem] <;> omega

/-- An ASCII character occurs in a text exactly if its byte occurs among those of the text. -/
theorem Utf8.mem_encode_iff {c : Char} (hc : c.toNat < 128) {s : String} :
    UInt8.ofNat c.toNat ∈ encode s ↔ c ∈ s.toList := by
  have hbyte : (UInt8.ofNat c.toNat).toNat = c.toNat :=
    UInt8.toNat_ofNat_of_lt' (Nat.lt_trans hc (by decide))
  have hmem : ∀ d : Char, UInt8.ofNat c.toNat ∈ String.utf8EncodeChar d ↔ d = c := by
    intro d
    rw [mem_utf8EncodeChar_iff (by omega), hbyte, Char.toNat_inj]
  have hencode : encode s = s.toList.flatMap String.utf8EncodeChar := by
    rw [← encode_ofList, String.ofList_toList]
  rw [hencode, List.mem_flatMap]
  simp only [hmem, exists_eq_right]

theorem Utf8.encode_ofList_cons (c : Char) (cs : List Char) :
    encode (String.ofList (c :: cs)) = String.utf8EncodeChar c ++ encode (String.ofList cs) := by
  rw [encode_ofList, encode_ofList, List.flatMap_cons]

/-- An ASCII character is encoded as one byte. -/
theorem utf8EncodeChar_of_lt {c : Char} (h : c.toNat < 128) :
    String.utf8EncodeChar c = [UInt8.ofNat c.toNat] := by
  have hsize : c.utf8Size = 1 := Char.utf8Size_eq_one_iff.mpr (by
    rw [UInt32.le_iff_toNat_le]
    exact Nat.le_of_lt_succ h)
  rw [String.utf8EncodeChar_eq_singleton hsize]
  rfl

/-- **The byte of an ASCII character cuts a text where the character stands.** -/
theorem Utf8.exists_of_encode_eq {c : Char} (hc : c.toNat < 128) {cs : List Char} {a b : Bytes}
    (h : encode (String.ofList cs) = a ++ UInt8.ofNat c.toNat :: b) :
    ∃ s t, cs = s ++ c :: t ∧ encode (String.ofList s) = a ∧ encode (String.ofList t) = b := by
  induction cs generalizing a with
  | nil => exact absurd h.symm (List.append_ne_nil_of_right_ne_nil a (List.cons_ne_nil _ b))
  | cons d ds ih =>
    have hbyte : (UInt8.ofNat c.toNat).toNat = c.toNat :=
      UInt8.toNat_ofNat_of_lt' (Nat.lt_trans hc (by decide))
    rw [encode_ofList_cons] at h
    rcases List.append_eq_append_iff.mp h with ⟨a', rfl, hrest⟩ | ⟨d', hd, hrest⟩
    · obtain ⟨s, t, rfl, rfl, rfl⟩ := ih hrest
      exact ⟨d :: s, t, rfl, encode_ofList_cons d s, rfl⟩
    · cases d' with
      | nil =>
        rw [List.append_nil] at hd
        have hstart : encode (String.ofList ds) = [] ++ UInt8.ofNat c.toNat :: b := hrest.symm
        obtain ⟨s, t, rfl, hs, rfl⟩ := ih hstart
        refine ⟨d :: s, t, rfl, ?_, rfl⟩
        rw [encode_ofList_cons, hs, hd, List.append_nil]
      | cons x d' =>
        -- The byte belongs to the first character, which is then the whole of it.
        obtain ⟨rfl, rfl⟩ := List.cons.inj hrest
        have hmem : UInt8.ofNat c.toNat ∈ String.utf8EncodeChar d := by
          rw [hd]
          exact List.mem_append_right a List.mem_cons_self
        rw [mem_utf8EncodeChar_iff (by omega), hbyte, Char.toNat_inj] at hmem
        subst hmem
        rw [utf8EncodeChar_of_lt hc] at hd
        rcases List.singleton_eq_append_iff.mp hd with ⟨rfl, hsingle⟩ | ⟨-, hnil⟩
        · exact ⟨[], ds, rfl, rfl, by rw [(List.cons.inj hsingle).2]; rfl⟩
        · cases hnil

/-- The bytes of a line are a line. -/
theorem IsLine.isByteLine {l : List Char} (h : IsLine l) :
    IsByteLine (Utf8.encode (String.ofList l)) := by
  rintro ⟨a, b, hbytes⟩
  have hcr : Utf8.encode (String.ofList l) = a ++ UInt8.ofNat '\r'.toNat :: 10 :: b := by
    rw [← hbytes, List.append_assoc]
    rfl
  obtain ⟨s, t, rfl, -, ht⟩ := Utf8.exists_of_encode_eq (by decide) hcr
  have hlf : Utf8.encode (String.ofList t) = [] ++ UInt8.ofNat '\n'.toNat :: b := ht
  obtain ⟨s', t', rfl, hs', -⟩ := Utf8.exists_of_encode_eq (by decide) hlf
  obtain rfl : s' = [] := by
    by_contra hne
    exact Utf8.encode_ne_nil (mt String.ofList_eq_empty_iff.mp hne) hs'
  exact h ⟨s, t', by rw [List.append_assoc]; rfl⟩

/-- The bytes of lines that are put together are the lines' bytes put together. -/
theorem encode_joinWith (l : List Char) (ls : List (List Char)) :
    Utf8.encode (String.ofList (joinWith lineBreak (l :: ls))) =
      joinWith breakBytes ((l :: ls).map fun m => Utf8.encode (String.ofList m)) := by
  induction ls generalizing l with
  | nil => rfl
  | cons m ls ih =>
    have hbreak : Utf8.encode (String.ofList lineBreak) = breakBytes := rfl
    rw [joinWith, String.ofList_append, String.ofList_append, Utf8.encode_append,
      Utf8.encode_append, ih, hbreak]
    rfl

/-! ### The empty line behind the lines -/

/-- **A head that is written as lines ends at the empty line behind them**, if no line but the first
one is empty. -/
theorem headLength?_joinWith {l : List Char} {ls : List (List Char)}
    (hline : ∀ m ∈ l :: ls, IsLine m) (hne : ∀ m ∈ ls, m ≠ []) (rest : Bytes) :
    headLength? (Utf8.encode (String.ofList (joinWith lineBreak (l :: ls))) ++ emptyLine ++ rest) =
      some (Utf8.encode (String.ofList (joinWith lineBreak (l :: ls)))).length := by
  rw [encode_joinWith, List.map_cons]
  refine headLength?_message ⟨?_, ?_⟩ rest
  · intro bs hbs
    have hmem : bs ∈ (l :: ls).map fun m => Utf8.encode (String.ofList m) := hbs
    obtain ⟨m, hm, rfl⟩ := List.mem_map.mp hmem
    exact (hline m hm).isByteLine
  · intro bs hbs
    obtain ⟨m, hm, rfl⟩ := List.mem_map.mp hbs
    exact Utf8.encode_ne_nil (mt String.ofList_eq_empty_iff.mp (hne m hm))

end PreviewServer
