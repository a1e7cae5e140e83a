import PreviewServer.Proofs.AcceptedRequests
import PreviewServer.Proofs.ConnectionRun
import Mathlib.Data.List.Forall2

/-!
# Declared lengths

A head declares the length of its body by a number, which may be written with as many digits as fit
into a head.  `judgedByValue` says what is to be made of the buffer when the value of the number
alone decides.  Here is shown when this is what is made of it.

Whether a head is well-formed is said of its text, without the reader (`SpellsHead`); all heads that
are read are so (`RequestHead.exists_spellsHead_of_read`).  The reader takes such a head to its last
question, that for the length of the body (`RequestHead.read_of_spellsHead`), which is found in the
one field that declares it (`bodyLength_ofList`).  A value that does not fit into eight bytes is
answered there as if it were no number at all, before it is compared with the limit
(`Request.read_of_declaresLength`).  So numbers below that are judged by their value, zeros in front
or not, and numbers from there on are not (`Request.read_eq_judgedByValue_iff`), although each can
be declared (`IsNumeral.declaresLength`).
-/

namespace PreviewServer

/-! ### Heads that are well-formed -/

/-- Whether bytes are the text of a well-formed head: a first line of three words, of which the
first is a recognised method and the last a supported version, and one line for each field. -/
def SpellsHead (bytes : Bytes) (line : RequestLine) (fields : List (String × String)) : Prop :=
  ∃ text first rest, bytes = Utf8.encode text ∧ crlfLines text.toList = first :: rest ∧
    words first = [line.method.token.toList, line.target.toList, line.version.toList] ∧
    versionStart <+: line.version.toList ∧
    List.Forall₂ SpellsField (rest.filter (· ≠ [])) fields

variable {order : FieldOrder} {bytes : Bytes} {line : RequestLine}
  {fields : List (String × String)}

/-- A well-formed head is judged by the length of the body that its fields declare. -/
theorem RequestHead.read_of_spellsHead (order : FieldOrder) (h : SpellsHead bytes line fields) :
    RequestHead.read order bytes =
      (PreviewServer.bodyLength order (Dict.ofList fields)).map fun n =>
        { line := line, headers := Dict.ofList fields, bodyLength := n } := by
  obtain ⟨text, first, rest, rfl, hlines, hwords, hversion, hspelled⟩ := h
  have hread : List.Forall₂ (fun l field => readHeaderLine l = .ok field)
      (rest.filter (· ≠ [])) fields :=
    hspelled.imp fun _ _ hfield => readHeaderLine_of_spellsField hfield
  exact RequestHead.read_eq_of_lines order hlines (RequestLine.read_of_words hwords hversion)
    (readHeaderLines_of_forall₂ hread)

/-- Every head that is read is well-formed. -/
theorem RequestHead.exists_spellsHead_of_read {head : RequestHead}
    (h : RequestHead.read order bytes = .ok head) :
    ∃ fields, SpellsHead bytes head.line fields ∧ head.headers = Dict.ofList fields := by
  obtain ⟨text, first, rest, fields, htext, hlines, hline, hfields, hheaders, -⟩ :=
    RequestHead.of_read h
  obtain ⟨hwords, hversion⟩ := RequestLine.of_read hline
  have hread := List.forall₂_iff_get.mp (forall₂_of_readHeaderLines hfields)
  refine ⟨fields, ⟨text, first, rest, htext, hlines, hwords, hversion, ?_⟩, hheaders⟩
  refine List.forall₂_iff_get.mpr ⟨hread.1, fun i hi hi' => ?_⟩
  -- What is read from a line is a field only if the line has no break, as all lines of a text.
  have hmem : (rest.filter (· ≠ [])).get ⟨i, hi⟩ ∈ rest :=
    List.mem_of_mem_filter (List.get_mem _ _)
  have hisLine := isLine_of_mem_crlfLines (hlines ▸ List.mem_cons_of_mem first hmem)
  exact spellsField_of_readHeaderLine hisLine (hread.2 i hi hi')

/-! ### The field that declares the length -/

/-- Whether a text consists of digits, at least one, that denote a number. -/
def IsNumeral (text : String) (n : Nat) : Prop :=
  text.toList ≠ [] ∧ (∀ c ∈ text.toList, c.isDigit = true) ∧
    Nat.ofDigitChars 10 text.toList 0 = n

/-- The only field of its name, in any case of letters, is the one that is found. -/
theorem Headers.find?_ofList (order : FieldOrder) {name : String} {field : String × String}
    (h : fields.filter (fun f => sameIgnoringCase f.1 name) = [field]) :
    Headers.find? order (Dict.ofList fields) name = some field.2 := by
  have hnodup : ((fields.filter fun f => sameIgnoringCase f.1 name).map Prod.fst).Nodup := by
    rw [h]
    exact List.nodup_cons.mpr ⟨List.not_mem_nil, List.nodup_nil⟩
  have hfilter := Dict.filter_entries_ofList (p := fun key => sameIgnoringCase key name) hnodup
  have hperm := (order.arrange_perm (Dict.ofList fields).entries).filter
    fun f => sameIgnoringCase f.1 name
  rw [hfilter, h, List.perm_singleton] at hperm
  rw [Headers.find?, ← List.head?_filter, hperm]
  rfl

/-- No field of a name is found where none was written. -/
theorem Headers.has_ofList_eq_false {name : String}
    (h : ∀ f ∈ fields, sameIgnoringCase f.1 name = false) :
    Headers.has (Dict.ofList fields) name = false := by
  refine List.any_eq_false.mpr fun f hf => ?_
  rw [h f (Dict.mem_of_mem_entries_ofList hf)]
  exact Bool.false_ne_true

/-- **The declared length.**  A number that does not fit into eight bytes is taken for none; of the
others, those up to the limit are accepted. -/
theorem bodyLength_ofList (order : FieldOrder) {field : String × String} {n : Nat}
    (hencoding : ∀ f ∈ fields, sameIgnoringCase f.1 "Transfer-Encoding" = false)
    (hfield : fields.filter (fun f => sameIgnoringCase f.1 "Content-Length") = [field])
    (hn : IsNumeral field.2 n) :
    bodyLength order (Dict.ofList fields) =
      if n < lengthLimit then if n ≤ maxBodySize then .ok n else .error .bodyTooLarge
      else .error .badLength := by
  obtain ⟨hne, hdigit, rfl⟩ := hn
  have hread := readDecimal?_of_isDigit lengthLimit hne hdigit
  rw [bodyLength, Headers.has_ofList_eq_false hencoding, if_neg Bool.false_ne_true,
    Headers.find?_ofList order hfield]
  dsimp only
  rw [hread]
  by_cases hlimit : Nat.ofDigitChars 10 field.2.toList 0 < lengthLimit
  · rw [if_pos hlimit, if_pos hlimit]
  · rw [if_neg hlimit, if_neg hlimit]

/-! ### Buffers whose head declares a length -/

/-- What is to be made of a buffer with a head of `m` bytes that declares a body of `n` bytes, when
the number alone decides. -/
def judgedByValue (b : Bytes) (m : Nat) (line : RequestLine) (headers : Headers) (n : Nat) :
    Except ReadError (Request × Nat) :=
  if maxBodySize < n then .error .bodyTooLarge
  else if (b.drop (m + 4)).length < n then .error .incomplete
  else
    .ok ({ method := line.method, target := line.target, version := line.version,
           headers := headers, body := (b.drop (m + 4)).take n }, m + 4 + n)

/-- Whether a buffer starts with a well-formed head within its limit that declares a body of `n`
bytes. -/
structure DeclaresLength (b : Bytes) (m : Nat) (line : RequestLine)
    (fields : List (String × String)) (n : Nat) : Prop where
  /-- The head is complete. -/
  headLength?_eq : headLength? b = some m
  /-- The head is within its limit. -/
  head_le : m ≤ maxHeadSize
  /-- The head is well-formed. -/
  spellsHead : SpellsHead (b.take m) line fields
  /-- The body is sent as it is. -/
  no_encoding : ∀ f ∈ fields, sameIgnoringCase f.1 "Transfer-Encoding" = false
  /-- One field alone declares a length, which is a number. -/
  declared : ∃ field, fields.filter (fun f => sameIgnoringCase f.1 "Content-Length") = [field] ∧
    IsNumeral field.2 n

/-! ### Every number can be declared -/

/-- A field that declares a length can stand on a line. -/
theorem IsNumeral.isField {value : String} {n : Nat} (h : IsNumeral value n) :
    IsField ("Content-Length", value) := by
  have hblank : ∀ c ∈ value.toList, isBlank c = false :=
    fun c hc => isBlank_eq_false_of_isDigit (h.2.1 c hc)
  have hne : "Content-Length".toList ≠ [] := by decide
  have hname : ∀ c ∈ "Content-Length".toList, isBlank c = false ∧ c ≠ ':' :=
    forall_mem_of_all (by decide)
  exact
    { name_ne_nil := hne
      name_isBlank := fun c hc => (hname c hc).1
      colon_not_mem := fun hc => (hname ':' hc).2 rfl
      value_trimmed := trimBlanks_of_isBlank_eq_false hblank
      value_isLine := isLine_of_not_mem fun hcr => absurd (hblank _ hcr) (by decide) }

/-- A head that declares a length, and nothing else. -/
def headDeclaring (value : String) : Bytes :=
  Utf8.encode (String.ofList
    (joinWith lineBreak [getLine ['/'], writtenField ("Content-Length", value)]))

/-- Every number is declared by a head, in any number of digits that fit into one. -/
theorem IsNumeral.declaresLength {value : String} {n : Nat} (h : IsNumeral value n)
    (hsize : (headDeclaring value).length ≤ maxHeadSize) (body : Bytes) :
    DeclaresLength (headDeclaring value ++ emptyLine ++ body) (headDeclaring value).length
      { method := .get, target := "/", version := "HTTP/1.1" } [("Content-Length", value)] n := by
  have hlines : ∀ l ∈ [getLine ['/'], writtenField ("Content-Length", value)], IsLine l := by
    intro l hl
    rcases List.mem_pair.mp hl with rfl | rfl
    · exact isLine_of_not_mem (by decide)
    · exact h.isField.isLine_writtenField
  have hne : ∀ l ∈ [writtenField ("Content-Length", value)], l ≠ [] := by
    intro l hl
    rw [List.mem_singleton.mp hl]
    exact writtenField_ne_nil _
  have htake : (headDeclaring value ++ emptyLine ++ body).take (headDeclaring value).length =
      headDeclaring value := by
    rw [List.append_assoc, List.take_left]
  refine
    { headLength?_eq := headLength?_joinWith hlines hne body
      head_le := hsize
      spellsHead := ?_
      no_encoding := ?_
      declared := ⟨("Content-Length", value), ?_, h⟩ }
  · rw [htake]
    refine ⟨_, getLine ['/'], [writtenField ("Content-Length", value)], rfl, ?_, by decide,
      by decide, ?_⟩
    · rw [String.toList_ofList, crlfLines_joinWith hlines]
    · have hread := readHeaderLine_writtenField h.isField
      rw [List.filter_eq_self.mpr fun l hl => decide_eq_true (hne l hl)]
      exact .cons (spellsField_of_readHeaderLine h.isField.isLine_writtenField hread) .nil
  · have hdiffer : sameIgnoringCase "Content-Length" "Transfer-Encoding" = false := by decide
    intro f hf
    rw [List.mem_singleton.mp hf]
    exact hdiffer
  · refine List.filter_eq_self.mpr fun f hf => ?_
    rw [List.mem_singleton.mp hf]
    exact sameIgnoringCase_refl "Content-Length"

namespace Request

variable {b : Bytes} {m n : Nat}

/-- What is made of a buffer whose head declares a length. -/
theorem read_of_declaresLength (order : FieldOrder) (h : DeclaresLength b m line fields n) :
    read order b = if n < lengthLimit then judgedByValue b m line (Dict.ofList fields) n
      else .error .badLength := by
  obtain ⟨field, hfield, hnumeral⟩ := h.declared
  have hhead := RequestHead.read_of_spellsHead order h.spellsHead
  rw [bodyLength_ofList order h.no_encoding hfield hnumeral] at hhead
  have hsize := h.head_le
  unfold read judgedByValue
  rw [h.headLength?_eq]
  dsimp only
  rw [if_neg (by omega), hhead]
  -- The size of the number is looked at twice: when it is read, and against the limit of a body.
  by_cases hlimit : n < lengthLimit
  · rw [if_pos hlimit, if_pos hlimit]
    by_cases hbody : n ≤ maxBodySize
    · rw [if_pos hbody, if_neg (by omega)]
      rfl
    · rw [if_neg hbody, if_pos (by omega)]
      rfl
  · rw [if_neg hlimit, if_neg hlimit]
    rfl

/-- A number that does not fit into eight bytes is over the limit of a body. -/
theorem maxBodySize_lt_of_lengthLimit_le (h : lengthLimit ≤ n) : maxBodySize < n :=
  Nat.lt_of_lt_of_le (by decide) h

/-- **Declared lengths are judged by their value exactly when it fits into eight bytes.**  A larger
one is over every limit and is taken for no number, so that the connection ends with another status
than the one for a body over the limit. -/
theorem read_eq_judgedByValue_iff (h : DeclaresLength b m line fields n) :
    (∀ order, read order b = judgedByValue b m line (Dict.ofList fields) n ↔ n < lengthLimit) ∧
    (lengthLimit ≤ n → ∀ order, read order b = .error .badLength) ∧
    ∀ order respond chunks, maxBodySize < n →
      ∃ reply, converse order respond b chunks = [reply] ∧
        reply.response.status.code = if n < lengthLimit then 413 else 400 := by
  have hread := fun order => read_of_declaresLength order h
  refine ⟨fun order => ?_, ?_, ?_⟩
  · constructor
    · intro hjudged
      by_contra hlimit
      have hlarge := maxBodySize_lt_of_lengthLimit_le (Nat.le_of_not_lt hlimit)
      rw [hread, if_neg hlimit, judgedByValue, if_pos hlarge] at hjudged
      cases hjudged
    · intro hlimit
      rw [hread, if_pos hlimit]
  · intro hlimit order
    rw [hread, if_neg (Nat.not_lt_of_le hlimit)]
  · intro order respond chunks hlarge
    have hread := hread order
    by_cases hlimit : n < lengthLimit
    · rw [if_pos hlimit, judgedByValue, if_pos hlarge] at hread
      refine ⟨_, converse_of_read_error hread (by decide), ?_⟩
      rw [if_pos hlimit, (Reply.status_rejection .bodyTooLarge).1]
      rfl
    · rw [if_neg hlimit] at hread
      refine ⟨_, converse_of_read_error hread (by decide), ?_⟩
      rw [if_neg hlimit, (Reply.status_rejection .badLength).1]
      rfl

/-- Zeros in front of a number are skipped, however many there are. -/
theorem read_zerosInFront :
    DeclaresLength
      (Utf8.encode "GET / HTTP/1.1\r\nContent-Length:00000000000000000002\r\n\r\nhi, there") 51
      { method := .get, target := "/", version := "HTTP/1.1" }
      [("Content-Length", "00000000000000000002")] 2 ∧
    read .asSet (Utf8.encode "GET / HTTP/1.1\r\nContent-Length:00000000000000000002\r\n\r\nhi, there") =
      .ok ({ method := .get, target := "/", version := "HTTP/1.1",
             headers := Dict.ofList [("Content-Length", "00000000000000000002")],
             body := Utf8.encode "hi" }, 57) := by
  have hnumeral : IsNumeral "00000000000000000002" 2 :=
    ⟨by decide, forall_mem_of_all (by decide), by decide⟩
  have hdeclares := hnumeral.declaresLength (by decide) (Utf8.encode "hi, there")
  exact ⟨hdeclares, ((read_eq_judgedByValue_iff hdeclares).1 .asSet).mpr (by decide)⟩

/-- **A length that is not judged by its value.**  The first number that takes nine bytes is over
the limit of a body, and is taken for no number. -/
theorem read_nineBytes :
    DeclaresLength
      (Utf8.encode "GET / HTTP/1.1\r\nContent-Length:18446744073709551616\r\n\r\n") 51
      { method := .get, target := "/", version := "HTTP/1.1" }
      [("Content-Length", "18446744073709551616")] 18446744073709551616 ∧
    maxBodySize < 18446744073709551616 ∧
    read .asSet (Utf8.encode "GET / HTTP/1.1\r\nContent-Length:18446744073709551616\r\n\r\n") =
      .error .badLength ∧
    read .asSet (Utf8.encode "GET / HTTP/1.1\r\nContent-Length:18446744073709551616\r\n\r\n") ≠
      .error .bodyTooLarge := by
  have hnumeral : IsNumeral "18446744073709551616" 18446744073709551616 :=
    ⟨by decide, forall_mem_of_all (by decide), by decide⟩
  have hdeclares := hnumeral.declaresLength (by decide) []
  have hread :
      read .asSet (Utf8.encode "GET / HTTP/1.1\r\nContent-Length:18446744073709551616\r\n\r\n") =
        .error .badLength :=
    read_of_declaresLength .asSet hdeclares
  refine ⟨hdeclares, by decide, hread, ?_⟩
  rw [hread]
  nofun

end Request

end PreviewServer
