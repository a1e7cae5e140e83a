import PreviewServer.Proofs.FieldOrders
import Mathlib

/-!
# The format of requests

`Request.encode` writes a request in its shortest spelling: single spaces between the words of the
request line, and no blank around a colon.  The requests that have such a spelling are those that
are well-formed (`Request.IsWellFormed`), which says nothing about reading.

`Request.read_encode` shows that what was written is read, whatever stands behind it.
`Request.isWellFormed_of_read` is the converse: whatever a buffer looks like, the request that was
read from it is well-formed, and its shortest spelling takes no more bytes than were taken from the
buffer (`Request.length_encode_le_of_read`).  `Request.read_encode_and_of_read` puts the two sides
together.
-/

namespace PreviewServer

namespace Request

/-! ### Writing a request -/

/-- The head of a request in its shortest spelling, with the empty line behind it. -/
def written (r : Request) : String :=
  r.method.token ++ " " ++ r.target ++ " " ++ r.version ++ "\r\n" ++
    String.join (r.headers.entries.map fun field => field.1 ++ ":" ++ field.2 ++ "\r\n") ++ "\r\n"

/-- A request in its shortest spelling. -/
def encode (r : Request) : Bytes := Utf8.encode r.written ++ r.body

/-- Whether the length of the body is declared, when the fields come in this order: by a field that
says it, or by none if there is no body. -/
def DeclaresBody (order : FieldOrder) (r : Request) : Prop :=
  match Headers.find? order r.headers "Content-Length" with
  | some v => readDecimal? lengthLimit v.toList = some r.body.length
  | none => r.body = []

/-- Whether a request can be written so that it is read again. -/
structure IsWellFormed (r : Request) : Prop where
  /-- The target is not empty. -/
  target_ne_nil : r.target.toList ≠ []
  /-- The target contains no blank. -/
  target_isBlank : ∀ c ∈ r.target.toList, isBlank c = false
  /-- The version is a supported one. -/
  version_start : versionStart <+: r.version.toList
  /-- The version contains no blank. -/
  version_isBlank : ∀ c ∈ r.version.toList, isBlank c = false
  /-- No two fields have names that differ at most in the case of letters. -/
  names_pairwise : r.headers.keys.Pairwise fun a b => sameIgnoringCase a b = false
  /-- Every field can stand on a line. -/
  isField : ∀ field ∈ r.headers.entries, IsField field
  /-- The body is sent as it is. -/
  no_encoding : Headers.has r.headers "Transfer-Encoding" = false
  /-- The body is within its limit. -/
  body_le : r.body.length ≤ maxBodySize
  /-- The length of the body is declared, whatever the order of the fields. -/
  declaresBody : ∀ order, r.DeclaresBody order
  /-- The head, which is what is written less the four bytes of the empty line, is within its
  limit. -/
  head_le : (Utf8.encode r.written).length ≤ maxHeadSize + 4

/-- The shortest request line. -/
def writtenLine (r : Request) : List Char :=
  r.method.token.toList ++ ' ' :: (r.target.toList ++ ' ' :: r.version.toList)

/-- What is written are the request line and the lines of the fields. -/
theorem encode_eq (r : Request) :
    r.encode =
      Utf8.encode (String.ofList
        (joinWith lineBreak (r.writtenLine :: r.headers.entries.map writtenField))) ++
      emptyLine ++ r.body := by
  have hlines : ((r.method.token ++ " " ++ r.target ++ " " ++ r.version) ::
      (r.headers.entries.map fun field => field.1 ++ ":" ++ field.2)).map String.toList =
        r.writtenLine :: r.headers.entries.map writtenField := by
    simp [writtenLine, writtenField]
  have hwritten : r.written =
      String.ofList (joinWith lineBreak (r.writtenLine :: r.headers.entries.map writtenField)) ++
        "\r\n\r\n" := by
    rw [← hlines, ← join_map_append_lineBreak, List.map_cons, String.join_cons, List.map_map]
    rfl
  rw [encode, hwritten, Utf8.encode_append]
  rfl

/-! ### Reading what was written -/

theorem isBlank_token (m : Method) : ∀ c ∈ m.token.toList, isBlank c = false := by
  cases m <;> exact isBlank_eq_false_of_any (by decide)

theorem token_ne_nil (m : Method) : m.token.toList ≠ [] := by
  cases m <;> decide

variable {r : Request}

theorem IsWellFormed.version_ne_nil (h : r.IsWellFormed) : r.version.toList ≠ [] := by
  intro hnil
  have hstart := h.version_start
  rw [hnil] at hstart
  exact absurd (List.prefix_nil.mp hstart) (by decide)

/-- The request line is cut into the three words it was written with. -/
theorem IsWellFormed.read_writtenLine (h : r.IsWellFormed) :
    RequestLine.read r.writtenLine =
      .ok { method := r.method, target := r.target, version := r.version } := by
  have hblank : isBlank ' ' := by decide
  have hwords : words r.writtenLine =
      [r.method.token.toList, r.target.toList, r.version.toList] := by
    rw [writtenLine, words_append_cons (token_ne_nil r.method) (isBlank_token r.method) hblank,
      words_append_cons h.target_ne_nil h.target_isBlank hblank,
      words_of_isBlank_eq_false h.version_ne_nil h.version_isBlank]
  exact RequestLine.read_of_words hwords h.version_start

/-- The lines that are written are single lines. -/
theorem IsWellFormed.isLine_of_mem (h : r.IsWellFormed) :
    ∀ l ∈ r.writtenLine :: r.headers.entries.map writtenField, IsLine l := by
  intro l hl
  rcases List.mem_cons.mp hl with rfl | hl
  · apply isLine_of_not_mem
    intro hcr
    -- A carriage return is a blank, and it is no space.
    have hblank : isBlank '\r' = true := by decide
    rw [writtenLine, List.mem_append, List.mem_cons, List.mem_append, List.mem_cons] at hcr
    rcases hcr with hcr | hcr | hcr | hcr | hcr
    · exact absurd hblank (by rw [isBlank_token r.method _ hcr]; decide)
    · exact absurd hcr (by decide)
    · exact absurd hblank (by rw [h.target_isBlank _ hcr]; decide)
    · exact absurd hcr (by decide)
    · exact absurd hblank (by rw [h.version_isBlank _ hcr]; decide)
  · obtain ⟨field, hfield, rfl⟩ := List.mem_map.mp hl
    exact (h.isField field hfield).isLine_writtenField

/-- The declared length is that of the body. -/
theorem IsWellFormed.bodyLength_headers (h : r.IsWellFormed) (order : FieldOrder) :
    bodyLength order r.headers = .ok r.body.length := by
  have hdeclares := h.declaresBody order
  unfold DeclaresBody at hdeclares
  unfold bodyLength
  rw [h.no_encoding, if_neg Bool.false_ne_true]
  cases hfind : Headers.find? order r.headers "Content-Length" with
  | none =>
    rw [hfind] at hdeclares
    dsimp only at hdeclares ⊢
    rw [hdeclares]
    rfl
  | some v =>
    rw [hfind] at hdeclares
    dsimp only at hdeclares ⊢
    rw [hdeclares]
    exact if_pos h.body_le

/-- The head that is written is read. -/
theorem IsWellFormed.read_head (h : r.IsWellFormed) (order : FieldOrder) :
    RequestHead.read order (Utf8.encode (String.ofList
        (joinWith lineBreak (r.writtenLine :: r.headers.entries.map writtenField)))) =
      .ok { line := { method := r.method, target := r.target, version := r.version },
            headers := r.headers, bodyLength := r.body.length } := by
  have hlength : bodyLength order (Dict.ofList r.headers.entries) = .ok r.body.length := by
    rw [Dict.ofList_entries, h.bodyLength_headers order]
  rw [RequestHead.read_of_lines (by rw [String.toList_ofList, crlfLines_joinWith h.isLine_of_mem])
    h.read_writtenLine (readHeaderLines_map_writtenField h.isField) hlength, Dict.ofList_entries]

/-- **What is written is read**, whatever stands behind it. -/
theorem read_encode (h : r.IsWellFormed) (order : FieldOrder) (rest : Bytes) :
    read order (r.encode ++ rest) = .ok (r, r.encode.length) := by
  have hsize := h.head_le
  have hencode := encode_eq r
  generalize htext : Utf8.encode (String.ofList
    (joinWith lineBreak (r.writtenLine :: r.headers.entries.map writtenField))) = text at hencode
  have hbuffer : r.encode ++ rest = text ++ emptyLine ++ (r.body ++ rest) := by
    rw [hencode, List.append_assoc]
  have hhead : headLength? (r.encode ++ rest) = some text.length := by
    rw [hbuffer, ← htext]
    apply headLength?_joinWith h.isLine_of_mem
    intro l hl
    obtain ⟨field, -, rfl⟩ := List.mem_map.mp hl
    exact writtenField_ne_nil field
  have htake : (r.encode ++ rest).take text.length = text := by
    rw [hbuffer, List.append_assoc, List.take_left]
  have hdrop : (r.encode ++ rest).drop (text.length + 4) = r.body ++ rest := by
    have hlen : text.length + 4 = (text ++ emptyLine).length := by rw [List.length_append]; rfl
    rw [hbuffer, hlen, List.drop_left]
  have hlen : r.encode.length = text.length + 4 + r.body.length := by
    rw [hencode, List.length_append, List.length_append]
    rfl
  have hmax : text.length ≤ maxHeadSize := by
    rw [encode, List.length_append] at hlen
    omega
  have hread := h.read_head order
  rw [htext] at hread
  rw [read_of_head hhead hmax (by rw [htake]; exact hread)
    (by rw [hdrop, List.length_append]; exact Nat.le_add_right _ _), hlen, hdrop]
  dsimp only
  rw [List.take_left]

end Request

/-! ### Sizes -/

/-- How many bytes a text takes. -/
def textSize (cs : List Char) : Nat := (Utf8.encode (String.ofList cs)).length

theorem textSize_append (cs ds : List Char) : textSize (cs ++ ds) = textSize cs + textSize ds := by
  rw [textSize, String.ofList_append, Utf8.encode_append, List.length_append]
  rfl

theorem textSize_cons (c : Char) (cs : List Char) :
    textSize (c :: cs) = c.utf8Size + textSize cs := by
  rw [textSize, Utf8.encode_ofList_cons, List.length_append, String.length_utf8EncodeChar]
  rfl

/-- Leaving out characters makes a text no longer. -/
theorem textSize_le_of_sublist {cs ds : List Char} (h : cs.Sublist ds) :
    textSize cs ≤ textSize ds := by
  rw [textSize, textSize, Utf8.encode_ofList, Utf8.encode_ofList]
  exact (h.flatMap String.utf8EncodeChar).length_le

theorem textSize_joinWith (l : List Char) (ls : List (List Char)) :
    textSize (joinWith lineBreak (l :: ls)) =
      textSize l + (ls.map fun m => textSize m + 2).sum := by
  induction ls generalizing l with
  | nil => rfl
  | cons m ls ih =>
    rw [joinWith, textSize_append, textSize_append, ih m, List.map_cons, List.sum_cons]
    have hbreak : textSize lineBreak = 2 := rfl
    omega

/-- Single spaces between the pieces of a text take no more room than the blanks there. -/
theorem sum_textSize_pieces_le (cs : List Char) :
    ((pieces cs).map fun w => textSize w + 1).sum ≤ textSize cs + 1 := by
  have hnil : textSize [] = 0 := rfl
  induction cs with
  | nil => exact Nat.le_refl 1
  | cons c cs ih =>
    have hsize := Char.utf8Size_pos c
    rw [pieces, textSize_cons]
    split
    · rw [List.map_cons, List.sum_cons]
      omega
    · split
      · rw [List.map_singleton, List.sum_singleton, textSize_cons]
        omega
      · rename_i w ws hws
        rw [hws, List.map_cons, List.sum_cons] at ih
        rw [List.map_cons, List.sum_cons, textSize_cons]
        omega

/-- Single spaces between words take no more room than what stood there. -/
theorem sum_textSize_words_le (cs : List Char) :
    ((words cs).map fun w => textSize w + 1).sum ≤ textSize cs + 1 :=
  Nat.le_trans ((List.filter_sublist.map _).sum_le_sum fun _ _ => Nat.zero_le _)
    (sum_textSize_pieces_le cs)

/-- The shortest request line is no longer than one with the same words. -/
theorem textSize_writtenLine_le {r : Request} {line : List Char}
    (h : words line = [r.method.token.toList, r.target.toList, r.version.toList]) :
    textSize r.writtenLine ≤ textSize line := by
  have hsum := sum_textSize_words_le line
  have hspace : ' '.utf8Size = 1 := rfl
  simp only [h, List.map_cons, List.map_nil, List.sum_cons, List.sum_nil] at hsum
  simp only [Request.writtenLine, textSize_append, textSize_cons]
  omega

/-- Trimming and leaving out the blanks around a colon makes a line no longer. -/
theorem textSize_writtenField_le {line : List Char} {field : String × String} (hline : IsLine line)
    (h : readHeaderLine line = .ok field) : textSize (writtenField field) ≤ textSize line := by
  obtain ⟨-, name, value, rfl, -, rfl⟩ := spellsField_of_readHeaderLine hline h
  have hname := textSize_le_of_sublist (isInfix_trimBlanks name).sublist
  have hvalue := textSize_le_of_sublist (isInfix_trimBlanks value).sublist
  rw [writtenField, String.toList_ofList, String.toList_ofList, textSize_append, textSize_append,
    textSize_cons, textSize_cons]
  omega

/-- Fields take no more room than the lines that they were read from. -/
theorem sum_textSize_writtenField_le {lines : List (List Char)} {fields : List (String × String)}
    (hlines : ∀ l ∈ lines, IsLine l)
    (h : List.Forall₂ (fun line field => readHeaderLine line = .ok field) lines fields) :
    (fields.map fun field => textSize (writtenField field) + 2).sum ≤
      (lines.map fun l => textSize l + 2).sum := by
  induction h with
  | nil => exact Nat.le_refl _
  | cons hfield _ ih =>
    have hle := textSize_writtenField_le (hlines _ List.mem_cons_self) hfield
    have hrest := ih fun l hl => hlines l (List.mem_cons_of_mem _ hl)
    simp only [List.map_cons, List.sum_cons]
    omega

namespace Dict

variable {size : String × String → Nat}

theorem sum_map_put_le (key value : String) (es : List (String × String)) :
    ((put key value es).map size).sum ≤ (es.map size).sum + size (key, value) := by
  induction es with
  | nil => simp [put]
  | cons e es ih =>
    rw [put]
    split
    · rw [List.map_cons, List.map_cons, List.sum_cons, List.sum_cons]
      omega
    · rw [List.map_cons, List.map_cons, List.sum_cons, List.sum_cons]
      omega

theorem sum_map_entries_foldl_le (es : List (String × String)) (d : Dict String String) :
    ((es.foldl (fun d e => d.insert e.1 e.2) d).entries.map size).sum ≤
      (d.entries.map size).sum + (es.map size).sum := by
  induction es generalizing d with
  | nil => exact Nat.le_refl _
  | cons e es ih =>
    have hnext := ih (d.insert e.1 e.2)
    have hinsert : ((d.insert e.1 e.2).entries.map size).sum ≤
        (d.entries.map size).sum + size e := sum_map_put_le e.1 e.2 d.entries
    rw [List.foldl_cons, List.map_cons, List.sum_cons]
    omega

/-- Fields that are written over take no room. -/
theorem sum_map_entries_ofList_le (es : List (String × String)) :
    ((ofList es).entries.map size).sum ≤ (es.map size).sum := by
  have hfold : ((ofList es).entries.map size).sum ≤
      ((empty : Dict String String).entries.map size).sum + (es.map size).sum :=
    sum_map_entries_foldl_le es empty
  have hempty : ((empty : Dict String String).entries.map size).sum = 0 := rfl
  rw [hempty, Nat.zero_add] at hfold
  exact hfold

end Dict

namespace Request

variable {order : FieldOrder} {b : Bytes} {r : Request} {n : Nat}

/-- How many bytes the shortest spelling takes. -/
theorem length_encode (r : Request) :
    r.encode.length =
      textSize r.writtenLine +
        (r.headers.entries.map fun field => textSize (writtenField field) + 2).sum + 4 +
        r.body.length := by
  have hjoin := textSize_joinWith r.writtenLine (r.headers.entries.map writtenField)
  rw [List.map_map] at hjoin
  rw [encode_eq, List.length_append, List.length_append]
  exact congrArg (· + 4 + r.body.length) hjoin

/-! ### What was read -/

/-- The room that the request line and the fields of a request take, in their shortest spelling, is
within the head that it was read from. -/
theorem exists_textSize_le_of_read (h : read order b = .ok (r, n)) :
    ∃ m, m ≤ maxHeadSize ∧ n = m + 4 + r.body.length ∧ n ≤ b.length ∧
      r.body = (b.drop (m + 4)).take r.body.length ∧
      textSize r.writtenLine +
        (r.headers.entries.map fun field => textSize (writtenField field) + 2).sum ≤ m := by
  obtain ⟨m, head, hm, hmax, hhead, hlen, rfl, hr⟩ := of_read h
  obtain ⟨text, first, rest, fields, htext, hlines, hline, hfields, hheaders, -⟩ :=
    RequestHead.of_read hhead
  have hbody : r.body = (b.drop (m + 4)).take head.bodyLength := by rw [hr]
  have hlength : r.body.length = head.bodyLength := by
    rw [hbody, List.length_take, List.length_drop]
    omega
  refine ⟨m, hmax, by rw [hlength], hlen, by rw [hlength, hbody], ?_⟩
  -- The head is the text of its lines.
  have hsize : textSize first + (rest.map fun l => textSize l + 2).sum = m := by
    rw [← textSize_joinWith, ← hlines, lineBreak, joinWith_crlfLines, textSize,
      String.ofList_toList, ← htext, List.length_take]
    omega
  have hwords : textSize (writtenLine r) ≤ textSize first := by
    have hwords := (RequestLine.of_read hline).1
    rw [hr]
    exact textSize_writtenLine_le hwords
  have hisLine : ∀ l ∈ rest.filter (· ≠ []), IsLine l := fun l hl =>
    isLine_of_mem_crlfLines (hlines ▸ List.mem_cons_of_mem _ (List.mem_of_mem_filter hl))
  have hkept := sum_textSize_writtenField_le hisLine (forall₂_of_readHeaderLines hfields)
  have hfilter : ((rest.filter (· ≠ [])).map fun l => textSize l + 2).sum ≤
      (rest.map fun l => textSize l + 2).sum :=
    (List.filter_sublist.map _).sum_le_sum fun _ _ => Nat.zero_le _
  have hheaders : r.headers = Dict.ofList fields := by rw [hr, ← hheaders]
  rw [hheaders]
  calc
    _ ≤ textSize first + (fields.map fun field => textSize (writtenField field) + 2).sum :=
      Nat.add_le_add hwords (Dict.sum_map_entries_ofList_le fields)
    _ ≤ textSize first + (rest.map fun l => textSize l + 2).sum :=
      Nat.add_le_add_left (Nat.le_trans hkept hfilter) _
    _ = m := hsize

/-- A request takes no more bytes in its shortest spelling than it was read from. -/
theorem length_encode_le_of_read (h : read order b = .ok (r, n)) :
    r.encode.length ≤ n := by
  obtain ⟨m, -, hn, -, -, hsize⟩ := exists_textSize_le_of_read h
  rw [length_encode]
  omega

/-- The length of the body is declared by the fields of a head that was read. -/
theorem declares_of_bodyLength {headers : Headers} (h : bodyLength order headers = .ok n) :
    Headers.has headers "Transfer-Encoding" = false ∧ n ≤ maxBodySize ∧
      match Headers.find? order headers "Content-Length" with
      | some v => readDecimal? lengthLimit v.toList = some n
      | none => n = 0 := by
  unfold bodyLength at h
  split at h
  · cases h
  · rename_i hencoding
    refine ⟨Bool.eq_false_iff.mpr hencoding, ?_⟩
    split at h
    · rename_i hfind
      cases h
      rw [hfind]
      exact ⟨Nat.zero_le _, rfl⟩
    · rename_i v hfind
      rw [hfind]
      dsimp only
      split at h
      · rename_i k hk
        split at h
        · rename_i hle
          cases h
          exact ⟨hle, hk⟩
        · cases h
      · cases h

/-- The fields of a request that was read declare the length of its body. -/
theorem bodyLength_headers_of_read (h : read order b = .ok (r, n)) :
    bodyLength order r.headers = .ok r.body.length := by
  obtain ⟨m, head, -, -, hhead, hlen, -, rfl⟩ := of_read h
  obtain ⟨-, -, -, -, -, -, -, -, -, hbody⟩ := RequestHead.of_read hhead
  have hlength : ((b.drop (m + 4)).take head.bodyLength).length = head.bodyLength := by
    rw [List.length_take, List.length_drop]
    omega
  exact hbody.trans (congrArg Except.ok hlength.symm)

/-- **What was read is well-formed**, if different header names differ in more than the case of
letters. -/
theorem isWellFormed_of_read (hnames : NamesDiffer b) (h : read order b = .ok (r, n)) :
    r.IsWellFormed := by
  obtain ⟨line, hwords, hversion⟩ := exists_words_of_read h
  have hword : ∀ w ∈ [r.method.token.toList, r.target.toList, r.version.toList],
      w ≠ [] ∧ ∀ c ∈ w, isBlank c = false := fun w hw => mem_words (hwords ▸ hw)
  have htarget := hword r.target.toList (List.mem_cons_of_mem _ List.mem_cons_self)
  obtain ⟨hencoding, hle, -⟩ := declares_of_bodyLength (bodyLength_headers_of_read h)
  obtain ⟨m, hm, -, -, -, hsize⟩ := exists_textSize_le_of_read h
  obtain ⟨_, _, _, _, _, hlength, htext, hlines, hfields, hheaders⟩ := exists_lines_of_read h
  refine
    { target_ne_nil := htarget.1
      target_isBlank := htarget.2
      version_start := hversion
      version_isBlank := (hword r.version.toList (by simp)).2
      names_pairwise := names_pairwise_of_read hnames h
      isField := fun field hfield =>
        (mem_headerNames_of_lines hlength htext hlines hfields (hheaders ▸ hfield)).2
      no_encoding := hencoding
      body_le := hle
      declaresBody := ?_
      head_le := ?_ }
  · intro order'
    -- The same is read in the other order.
    rw [read_eq_read hnames order order'] at h
    obtain ⟨-, -, hfind⟩ := declares_of_bodyLength (bodyLength_headers_of_read h)
    unfold DeclaresBody
    revert hfind
    cases Headers.find? order' r.headers "Content-Length" with
    | none => exact List.eq_nil_of_length_eq_zero
    | some v => exact id
  · have hlen := length_encode r
    rw [encode, List.length_append] at hlen
    omega

/-- **Requests are read exactly in their format.**  A well-formed request is read back from its
shortest spelling, whatever follows.  Conversely a request that was read is well-formed, if
different names on its header lines differ in more than the case of letters; its body is the end of
the bytes it took from the buffer, its shortest spelling takes no more than these, and it is read
back from that spelling. -/
theorem read_encode_and_of_read :
    (∀ r : Request, r.IsWellFormed →
      ∀ order rest, read order (r.encode ++ rest) = .ok (r, r.encode.length)) ∧
    ∀ (b : Bytes) (order : FieldOrder) (r : Request) (n : Nat), NamesDiffer b →
      read order b = .ok (r, n) →
        r.IsWellFormed ∧ n ≤ b.length ∧ r.body <:+ b.take n ∧ r.encode.length ≤ n ∧
          ∀ order', read order' r.encode = .ok (r, r.encode.length) := by
  refine ⟨fun r h order rest => read_encode h order rest, ?_⟩
  intro b order r n hnames h
  have hwell := isWellFormed_of_read hnames h
  obtain ⟨m, -, hn, hle, hbody, -⟩ := exists_textSize_le_of_read h
  refine ⟨hwell, hle, ?_, length_encode_le_of_read h, fun order' => ?_⟩
  · have htake : b.take n = b.take (m + 4) ++ r.body := by
      rw [hn, List.take_add, ← hbody]
    rw [htake]
    exact List.suffix_append _ _
  · have hread := read_encode hwell order' []
    rwa [List.append_nil] at hread

/-- A request that is not in its shortest spelling, with the start of another one behind it. -/
def spacedBytes : Bytes :=
  Utf8.encode "GET  /a\tHTTP/1.1 \r\nHost :  x \r\nContent-length:+2\r\n\r\nhiGET"

/-- The request at the start of `spacedBytes`. -/
def spacedRequest : Request :=
  { method := .get, target := "/a", version := "HTTP/1.1"
    headers := Dict.ofList [("Host", "x"), ("Content-length", "+2")], body := Utf8.encode "hi" }

/-- The blanks of `spacedBytes` are left out when its request is written again. -/
theorem read_encode_spacedRequest :
    NamesDiffer spacedBytes ∧ read .asSet spacedBytes = .ok (spacedRequest, 54) ∧
      spacedRequest.IsWellFormed ∧ spacedRequest.encode.length ≤ 54 ∧
      ∀ order, read order (spacedRequest.encode ++ spacedBytes) =
        .ok (spacedRequest, spacedRequest.encode.length) := by
  have hnames : NamesDiffer spacedBytes := by
    unfold NamesDiffer
    decide +kernel
  have hread : read .asSet spacedBytes = .ok (spacedRequest, 54) := rfl
  obtain ⟨hwell, -, -, hlength, -⟩ := read_encode_and_of_read.2 _ _ _ _ hnames hread
  exact ⟨hnames, hread, hwell, hlength,
    fun order => read_encode_and_of_read.1 _ hwell order spacedBytes⟩

end Request

end PreviewServer
