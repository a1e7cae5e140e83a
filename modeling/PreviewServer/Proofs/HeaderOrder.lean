import PreviewServer.Proofs.FieldOrders
import PreviewServer.Proofs.NameCase
import Mathlib

/-!
# The order of header lines

Two servers that read one request must not understand it differently because its header lines come
in another order, or because the names on them are written with other letter case.

A head is judged line by line (`RequestHead.read_joinWith`): all lines have to be text, the first
one has to be a request line, and each other one has to be read as a field.  A head with its lines
rearranged has the same fields in another order, up to the letter case of their names
(`Rearranges.perm_map`), and what is found among fields of different names does not depend on their
order (`Headers.find?_ofList_eq`), neither on the one in which they were written nor on the one in
which they come.
-/

namespace PreviewServer

/-! ### Heads, line by line -/

/-- The texts of lines that are put together. -/
theorem exists_texts_of_joinWith {l : Bytes} {ls : List Bytes} {cs : List Char}
    (h : Utf8.encode (String.ofList cs) = joinWith breakBytes (l :: ls)) :
    ∃ t ts, l = Utf8.encode (String.ofList t) ∧
      ls = ts.map (fun t => Utf8.encode (String.ofList t)) ∧ cs = joinWith lineBreak (t :: ts) := by
  induction ls generalizing l cs with
  | nil => exact ⟨cs, [], h.symm, rfl, rfl⟩
  | cons m ls ih =>
    have hcr : Utf8.encode (String.ofList cs) =
        l ++ UInt8.ofNat '\r'.toNat :: 10 :: joinWith breakBytes (m :: ls) := by
      rw [h, joinWith, List.append_assoc]
      rfl
    obtain ⟨t, rest, rfl, rfl, hrest⟩ := Utf8.exists_of_encode_eq (by decide) hcr
    have hlf : Utf8.encode (String.ofList rest) =
        [] ++ UInt8.ofNat '\n'.toNat :: joinWith breakBytes (m :: ls) := hrest
    obtain ⟨s, rest', rfl, hs, hrest'⟩ := Utf8.exists_of_encode_eq (by decide) hlf
    obtain rfl : s = [] := by
      by_contra hne
      exact Utf8.encode_ne_nil (mt String.ofList_eq_empty_iff.mp hne) hs
    obtain ⟨u, us, rfl, rfl, rfl⟩ := ih hrest'
    refine ⟨t, u :: us, rfl, rfl, ?_⟩
    rw [joinWith, List.append_assoc]
    rfl

/-- All lines that are no field are refused alike. -/
theorem eq_badHeader_of_readHeaderLine {cs : List Char} {e : ReadError}
    (h : readHeaderLine cs = .error e) : e = .badHeader := by
  unfold readHeaderLine at h
  split at h
  · cases h
    rfl
  · dsimp only at h
    split at h
    · cases h
      rfl
    · cases h

/-- **Lines that are not empty are read if each of them is a field.** -/
theorem readHeaderLines_eq {ts : List (List Char)} (h : ∀ t ∈ ts, t ≠ []) :
    readHeaderLines ts =
      if ∀ t ∈ ts, (readHeaderLine t).toOption.isSome then
        .ok (ts.filterMap fun t => (readHeaderLine t).toOption)
      else .error .badHeader := by
  induction ts with
  | nil => rfl
  | cons t ts ih =>
    rw [List.forall_mem_cons] at h
    rw [readHeaderLines_cons h.1, ih h.2]
    simp only [List.forall_mem_cons, List.filterMap_cons]
    cases ht : readHeaderLine t with
    | error e =>
      rw [eq_badHeader_of_readHeaderLine ht]
      rfl
    | ok field =>
      by_cases hall : ∀ t ∈ ts, (readHeaderLine t).toOption.isSome
      · rw [if_pos hall, if_pos ⟨rfl, hall⟩]
        rfl
      · rw [if_neg hall, if_neg fun hboth => hall hboth.2]

theorem field?_encode (t : List Char) :
    field? (Utf8.encode (String.ofList t)) = (readHeaderLine t).toOption := by
  rw [field?, Utf8.decode?_encode, Option.bind_some, String.toList_ofList]

/-- A text is a line if its bytes are. -/
theorem isLine_of_isByteLine {t : List Char} (h : IsByteLine (Utf8.encode (String.ofList t))) :
    IsLine t := by
  rintro ⟨a, b, rfl⟩
  apply h
  rw [String.ofList_append, String.ofList_append, Utf8.encode_append, Utf8.encode_append]
  exact ⟨_, _, rfl⟩

/-- Lines that are text each are the bytes of texts. -/
theorem exists_texts {ls : List Bytes} (h : ∀ l ∈ ls, (Utf8.decode? l).isSome) :
    ∃ ts : List (List Char), ls = ts.map fun t => Utf8.encode (String.ofList t) := by
  have hrange : ls ∈ Set.range (List.map fun t : List Char => Utf8.encode (String.ofList t)) := by
    rw [Set.range_list_map]
    intro l hl
    obtain ⟨s, hs⟩ := Option.isSome_iff_exists.mp (h l hl)
    refine ⟨s.toList, ?_⟩
    dsimp only
    rw [String.ofList_toList]
    exact (Utf8.decode?_eq_some_iff.mp hs).symm
  obtain ⟨ts, hts⟩ := hrange
  exact ⟨ts, hts.symm⟩

/-- **A head is judged line by line.**  All lines have to be text, then the first one has to be a
request line, then each other one a field, and then the fields have to declare a length. -/
theorem RequestHead.read_joinWith (order : FieldOrder) {first : Bytes} {lines : List Bytes}
    (h : IsHead first lines) :
    RequestHead.read order (joinWith breakBytes (first :: lines)) =
      if ∀ l ∈ first :: lines, (Utf8.decode? l).isSome then
        match RequestLine.read ((Utf8.decode? first).getD "").toList with
        | .error e => .error e
        | .ok line =>
          if ∀ l ∈ lines, (field? l).isSome then
            (PreviewServer.bodyLength order (Dict.ofList (lines.filterMap field?))).map fun n =>
              { line := line, headers := Dict.ofList (lines.filterMap field?), bodyLength := n }
          else .error .badHeader
      else .error .badRequestLine := by
  by_cases htext : ∀ l ∈ first :: lines, (Utf8.decode? l).isSome
  · obtain ⟨ts, hts⟩ := exists_texts htext
    cases ts with
    | nil => cases hts
    | cons t ts =>
      have hisLine : ∀ u ∈ t :: ts, IsLine u := fun u hu =>
        isLine_of_isByteLine (h.isByteLine _ (hts ▸ List.mem_map_of_mem hu))
      have hjoin : joinWith breakBytes (first :: lines) =
          Utf8.encode (String.ofList (joinWith lineBreak (t :: ts))) := by
        rw [encode_joinWith, hts]
      rw [if_pos htext, hjoin, RequestHead.read, Utf8.decode?_encode]
      rw [List.map_cons] at hts
      obtain ⟨rfl, rfl⟩ := List.cons.inj hts
      have hne : ∀ u ∈ ts, u ≠ [] := by
        rintro u hu rfl
        exact h.ne_nil _ (List.mem_map_of_mem hu) rfl
      dsimp only
      rw [String.toList_ofList, crlfLines_joinWith hisLine, Utf8.decode?_encode]
      dsimp only [Option.getD_some]
      rw [String.toList_ofList]
      cases RequestLine.read t with
      | error e => rfl
      | ok line =>
        dsimp only
        rw [readHeaderLines_eq hne]
        simp only [List.forall_mem_map, List.filterMap_map, Function.comp_def, field?_encode]
        by_cases hall : ∀ u ∈ ts, (readHeaderLine u).toOption.isSome
        · rw [if_pos hall, if_pos hall]
          dsimp only
          cases PreviewServer.bodyLength order
            (Dict.ofList (ts.filterMap fun u => (readHeaderLine u).toOption)) <;> rfl
        · rw [if_neg hall, if_neg hall]
  · rw [if_neg htext, RequestHead.read]
    cases hd : Utf8.decode? (joinWith breakBytes (first :: lines)) with
    | none => rfl
    | some text =>
      -- The lines of a text are texts.
      have hbytes := Utf8.decode?_eq_some_iff.mp hd
      rw [← String.ofList_toList (s := text)] at hbytes
      obtain ⟨t, ts, rfl, rfl, -⟩ := exists_texts_of_joinWith hbytes.symm
      refine absurd (fun l hl => ?_) htext
      have hmem : l ∈ (t :: ts).map fun u => Utf8.encode (String.ofList u) := hl
      obtain ⟨u, -, rfl⟩ := List.mem_map.mp hmem
      rw [Utf8.decode?_encode]
      rfl

/-! ### Fields without regard to order and letter case -/

/-- Fields whose names are different in lower case, keyed by these. -/
def loweredFields (fields : List (String × String))
    (h : ((fields.map lowered).map Prod.fst).Nodup) : Dict String String :=
  ⟨fields.map lowered, h⟩

/-- **Fields of different names are found by their names in lower case.** -/
theorem Headers.find?_ofList_eq (order : FieldOrder) {fields : List (String × String)}
    (h : ((fields.map lowered).map Prod.fst).Nodup) (name : String) :
    Headers.find? order (Dict.ofList fields) name =
      (loweredFields fields h).get? (asciiLower name) := by
  have hcomp : (fields.map lowered).map Prod.fst = (fields.map Prod.fst).map asciiLower := by
    rw [List.map_map, List.map_map]
    rfl
  have hlower : ((fields.map Prod.fst).map asciiLower).Nodup := hcomp ▸ h
  have hnodup : (fields.map Prod.fst).Nodup := List.Nodup.of_map asciiLower hlower
  have hentries : Dict.ofList fields = ⟨fields, hnodup⟩ := Dict.ofList_entries ⟨fields, hnodup⟩
  have hsame : ∀ f : String × String,
      sameIgnoringCase f.1 name = decide ((lowered f).1 = asciiLower name) := by
    intro f
    rw [Bool.eq_iff_iff, sameIgnoringCase_iff, decide_eq_true_iff]
    rfl
  -- The names differ without regard to case, and so the fields can be taken as they were set.
  have hnames : (Dict.ofList fields).keys.Pairwise fun a b => sameIgnoringCase a b = false := by
    rw [List.Nodup, List.pairwise_map] at hlower
    rw [hentries]
    exact hlower.imp fun hne => Bool.eq_false_iff.mpr (mt sameIgnoringCase_iff.mp hne)
  rw [Headers.find?_eq_find? hnames order .asSet, hentries, Headers.find?, Dict.get?,
    loweredFields, FieldOrder.asSet]
  dsimp only [id]
  rw [List.find?_map, Option.map_map]
  simp only [hsame]
  rfl

/-- The length of the body depends on what is found in the fields only. -/
theorem bodyLength_eq_of_find?_eq {order order' : FieldOrder} {headers headers' : Headers}
    (h : ∀ name, headers.find? order name = headers'.find? order' name) :
    bodyLength order headers = bodyLength order' headers' := by
  unfold bodyLength
  rw [← Headers.isSome_find? order, ← Headers.isSome_find? order', h, h]

/-! ### Heads with their lines rearranged -/

/-- Whether header lines are other ones in another order and with other letter case of the names. -/
def Rearranges (lines lines' : List Bytes) : Prop :=
  ∃ between, lines.Perm between ∧ List.Forall₂ RecasesName between lines'

variable {first rest : Bytes} {lines lines' : List Bytes}

/-- **What does not depend on the case of names is the same for rearranged lines**, in another
order. -/
theorem Rearranges.perm_map {β : Type} (h : Rearranges lines lines') {g : Bytes → β}
    (hg : ∀ {l l' : Bytes}, RecasesName l l' → g l = g l') : (lines.map g).Perm (lines'.map g) := by
  obtain ⟨between, hperm, hcase⟩ := h
  have hmap : between.map g = lines'.map g := by
    clear hperm
    induction hcase with
    | nil => rfl
    | cons hline _ ih => rw [List.map_cons, List.map_cons, hg hline, ih]
  exact hmap ▸ hperm.map g

/-- A test that does not depend on the case of names is passed by all rearranged lines or by none of
the two. -/
theorem Rearranges.forall_mem_iff (h : Rearranges lines lines') {p : Bytes → Prop}
    (hp : ∀ {l l' : Bytes}, RecasesName l l' → (p l ↔ p l')) :
    (∀ l ∈ lines, p l) ↔ ∀ l ∈ lines', p l := by
  have hperm := h.perm_map (g := p) fun hline => propext (hp hline)
  have hall : ∀ ls : List Bytes, (∀ l ∈ ls, p l) ↔ ∀ q ∈ ls.map p, q := by
    intro ls
    rw [List.forall_mem_map]
  rw [hall, hall]
  simp only [hperm.mem_iff]

/-- The lines of a head are those of a head when they are rearranged. -/
theorem IsHead.of_rearranges (h : IsHead first lines) (hlines : Rearranges lines lines') :
    IsHead first lines' := by
  have hline := h.isByteLine
  rw [List.forall_mem_cons] at hline
  constructor
  · rw [List.forall_mem_cons]
    refine ⟨hline.1, (hlines.forall_mem_iff fun hcase => ?_).mp hline.2⟩
    exact isByteLine_iff_of_map_lowerByte_eq hcase.map_lowerByte_eq
  · refine (hlines.forall_mem_iff fun hcase => ?_).mp h.ne_nil
    rw [Ne, Ne, ← List.map_eq_nil_iff (f := lowerByte), hcase.map_lowerByte_eq,
      List.map_eq_nil_iff]

theorem length_joinWith (first : Bytes) (lines : List Bytes) :
    (joinWith breakBytes (first :: lines)).length =
      first.length + (lines.map fun l => l.length + 2).sum := by
  have hbreak : breakBytes.length = 2 := rfl
  induction lines generalizing first with
  | nil => rfl
  | cons l lines ih =>
    rw [joinWith, List.length_append, List.length_append, ih, hbreak, List.map_cons, List.sum_cons]
    omega

/-- Heads with rearranged lines have the same length. -/
theorem Rearranges.length_eq (h : Rearranges lines lines') (first : Bytes) :
    (joinWith breakBytes (first :: lines)).length =
      (joinWith breakBytes (first :: lines')).length := by
  rw [length_joinWith, length_joinWith]
  congr 1
  refine (h.perm_map fun hcase => ?_).sum_eq
  rw [← List.length_map lowerByte, hcase.map_lowerByte_eq, List.length_map]

/-- Whether the names on header lines are different, whatever their letter case. -/
def DifferentNames (lines : List Bytes) : Prop :=
  (lines.filterMap headerName?).Pairwise fun a b => sameIgnoringCase a b = false

/-- **Rearranged lines of different names have the same fields to be found.** -/
theorem Rearranges.find?_eq (h : Rearranges lines lines') (hnames : DifferentNames lines)
    (order order' : FieldOrder) (name : String) :
    Headers.find? order (Dict.ofList (lines.filterMap field?)) name =
      Headers.find? order' (Dict.ofList (lines'.filterMap field?)) name := by
  have hlowered : ∀ ls : List Bytes,
      (ls.filterMap field?).map lowered = (ls.map loweredField?).filterMap id := by
    intro ls
    rw [List.map_filterMap, List.filterMap_map]
    rfl
  have hperm : ((lines.filterMap field?).map lowered).Perm
      ((lines'.filterMap field?).map lowered) := by
    rw [hlowered, hlowered]
    exact (h.perm_map fun hcase => hcase.loweredField?_eq.2).filterMap id
  -- Names that differ without regard to case are different keys in lower case.
  have hnodup : (((lines.filterMap field?).map lowered).map Prod.fst).Nodup := by
    rw [List.map_map, List.Nodup, List.pairwise_map, List.pairwise_filterMap]
    rw [DifferentNames, List.pairwise_filterMap] at hnames
    refine hnames.imp fun hdiffer f hf g hg heq => ?_
    have hfalse := hdiffer f.1 (headerName?_of_field? hf) g.1 (headerName?_of_field? hg)
    rw [sameIgnoringCase_iff.mpr heq] at hfalse
    cases hfalse
  have hnodup' := (hperm.map Prod.fst).nodup_iff.mp hnodup
  have hentries : (loweredFields _ hnodup).entries.Perm (loweredFields _ hnodup').entries := hperm
  rw [Headers.find?_ofList_eq order hnodup, Headers.find?_ofList_eq order' hnodup']
  exact Dict.get?_eq_of_perm hentries (asciiLower name)

/-- **Heads with rearranged lines are refused alike, or say the same.** -/
theorem RequestHead.read_of_rearranges (h : IsHead first lines) (hnames : DifferentNames lines)
    (hlines : Rearranges lines lines') (order order' : FieldOrder) :
    (∃ e, RequestHead.read order (joinWith breakBytes (first :: lines)) = .error e ∧
      RequestHead.read order' (joinWith breakBytes (first :: lines')) = .error e) ∨
    ∃ head head', RequestHead.read order (joinWith breakBytes (first :: lines)) = .ok head ∧
      RequestHead.read order' (joinWith breakBytes (first :: lines')) = .ok head' ∧
      head.line = head'.line ∧ head.bodyLength = head'.bodyLength ∧
      ∀ written written' name,
        head.headers.find? written name = head'.headers.find? written' name := by
  have htext : (∀ l ∈ first :: lines, (Utf8.decode? l).isSome) ↔
      ∀ l ∈ first :: lines', (Utf8.decode? l).isSome := by
    rw [List.forall_mem_cons, List.forall_mem_cons, hlines.forall_mem_iff fun hcase => ?_]
    rw [hcase.loweredField?_eq.1]
  have hfields : (∀ l ∈ lines, (field? l).isSome) ↔ ∀ l ∈ lines', (field? l).isSome := by
    have hlowered : ∀ l, (field? l).isSome = (loweredField? l).isSome := by
      intro l
      rw [loweredField?, Option.isSome_map]
    simp only [hlowered]
    refine hlines.forall_mem_iff fun hcase => ?_
    rw [hcase.loweredField?_eq.2]
  have hfind := hlines.find?_eq hnames
  rw [RequestHead.read_joinWith order h, RequestHead.read_joinWith order' (h.of_rearranges hlines),
    bodyLength_eq_of_find?_eq (hfind order order')]
  simp only [htext, hfields]
  by_cases hall : ∀ l ∈ first :: lines', (Utf8.decode? l).isSome
  · rw [if_pos hall, if_pos hall]
    cases RequestLine.read ((Utf8.decode? first).getD "").toList with
    | error e => exact .inl ⟨e, rfl, rfl⟩
    | ok line =>
      dsimp only
      by_cases hfield : ∀ l ∈ lines', (field? l).isSome
      · rw [if_pos hfield, if_pos hfield]
        cases PreviewServer.bodyLength order' (Dict.ofList (lines'.filterMap field?)) with
        | error e => exact .inl ⟨e, rfl, rfl⟩
        | ok n => exact .inr ⟨_, _, rfl, rfl, rfl, rfl, hfind⟩
      · rw [if_neg hfield, if_neg hfield]
        exact .inl ⟨_, rfl, rfl⟩
  · rw [if_neg hall, if_neg hall]
    exact .inl ⟨_, rfl, rfl⟩

namespace Request

/-! ### What is made of a buffer -/

/-- A message is judged by its head, and then by whether its body is there. -/
theorem read_message (order : FieldOrder) (h : IsHead first lines) (rest : Bytes) :
    read order (message first lines rest) =
      if maxHeadSize < (joinWith breakBytes (first :: lines)).length then .error .headTooLarge
      else
        match RequestHead.read order (joinWith breakBytes (first :: lines)) with
        | .error e => .error e
        | .ok head =>
          if rest.length < head.bodyLength then .error .incomplete
          else
            .ok ({ method := head.line.method, target := head.line.target,
                   version := head.line.version, headers := head.headers,
                   body := rest.take head.bodyLength },
              (joinWith breakBytes (first :: lines)).length + 4 + head.bodyLength) := by
  rw [read, headLength?_message h]
  dsimp only
  rw [take_message]
  by_cases hsize : maxHeadSize < (joinWith breakBytes (first :: lines)).length
  · rw [if_pos hsize, if_pos hsize]
  · rw [if_neg hsize, if_neg hsize]
    cases RequestHead.read order (joinWith breakBytes (first :: lines)) with
    | error e => rfl
    | ok head =>
      dsimp only
      rw [drop_message]

/-- Whether the same is read from two buffers: the same fault, or requests of the same length that
do not differ but in the order and the letter case of their fields, and say the same in whatever
orders these come. -/
inductive ReadAlike :
    Except ReadError (Request × Nat) → Except ReadError (Request × Nat) → Prop where
  /-- Both are refused for the same reason. -/
  | refused (e : ReadError) : ReadAlike (.error e) (.error e)
  /-- Both are read. -/
  | read {r r' : Request} (n : Nat) (method_eq : r.method = r'.method)
      (target_eq : r.target = r'.target) (version_eq : r.version = r'.version)
      (body_eq : r.body = r'.body)
      (keepAlive_eq : ∀ order order', r.keepAlive order = r'.keepAlive order')
      (find?_eq : ∀ order order' name, r.headers.find? order name = r'.headers.find? order' name) :
      ReadAlike (.ok (r, n)) (.ok (r', n))

/-- **Neither the order of header lines nor the letter case of their names matters.**  Every buffer
whose head is complete is a message; and if its header lines, well-formed or not, have different
names, the same is read when they are put into any other order and their names are written in any
letter case.  The fields may come in whatever orders. -/
theorem readAlike_of_rearranges :
    (∀ (b : Bytes) (n : Nat), headLength? b = some n →
      ∃ first lines, IsHead first lines ∧ b = message first lines (b.drop (n + 4))) ∧
    ∀ (first : Bytes) (lines lines' : List Bytes) (rest : Bytes), IsHead first lines →
      DifferentNames lines → Rearranges lines lines' →
      ∀ order order',
        ReadAlike (read order (message first lines rest))
          (read order' (message first lines' rest)) := by
  refine ⟨fun b n h => exists_isHead h, ?_⟩
  intro first lines lines' rest h hnames hlines order order'
  rw [read_message order h, read_message order' (h.of_rearranges hlines), hlines.length_eq first]
  by_cases hsize : maxHeadSize < (joinWith breakBytes (first :: lines')).length
  · rw [if_pos hsize, if_pos hsize]
    exact .refused _
  · rw [if_neg hsize, if_neg hsize]
    rcases RequestHead.read_of_rearranges h hnames hlines order order' with
      ⟨e, he, he'⟩ | ⟨head, head', hhead, hhead', hline, hlength, hfind⟩
    · rw [he, he']
      exact .refused e
    · rw [hhead, hhead']
      dsimp only
      rw [hlength, hline]
      by_cases hbody : rest.length < head'.bodyLength
      · rw [if_pos hbody, if_pos hbody]
        exact .refused _
      · rw [if_neg hbody, if_neg hbody]
        refine .read _ rfl rfl rfl rfl ?_ hfind
        intro written written'
        rw [keepAlive, keepAlive]
        dsimp only
        rw [hfind written written']

/-- A request line. -/
def putLine : Bytes := Utf8.encode "PUT / HTTP/1.1"

/-- Header lines of different names. -/
def headerLines : List Bytes :=
  [Utf8.encode "Host: localhost", Utf8.encode "content-length:2", Utf8.encode "Connection:close"]

/-- The same lines in another order and with other letter case. -/
def otherHeaderLines : List Bytes :=
  [Utf8.encode "CONTENT-Length:2", Utf8.encode "connection:close", Utf8.encode "Host: localhost"]

theorem rearranges_headerLines : Rearranges headerLines otherHeaderLines := by
  have hlength : RecasesName (Utf8.encode "content-length:2") (Utf8.encode "CONTENT-Length:2") :=
    @RecasesName.named (Utf8.encode "content-length") (Utf8.encode "CONTENT-Length")
      (Utf8.encode "2") (by decide) (by decide)
  have hconnection :
      RecasesName (Utf8.encode "Connection:close") (Utf8.encode "connection:close") :=
    @RecasesName.named (Utf8.encode "Connection") (Utf8.encode "connection")
      (Utf8.encode "close") (by decide) (by decide)
  have hhost : RecasesName (Utf8.encode "Host: localhost") (Utf8.encode "Host: localhost") :=
    @RecasesName.named (Utf8.encode "Host") (Utf8.encode "Host") (Utf8.encode " localhost")
      (by decide) rfl
  refine ⟨[Utf8.encode "content-length:2", Utf8.encode "Connection:close",
    Utf8.encode "Host: localhost"], by decide, ?_⟩
  exact .cons hlength (.cons hconnection (.cons hhost .nil))

/-- Both the body and the end of the connection are found in the other head, in whatever order its
fields come. -/
theorem readAlike_headerLines :
    IsHead putLine headerLines ∧ DifferentNames headerLines ∧
    Rearranges headerLines otherHeaderLines ∧
    ∀ order, ∃ r n,
      read order (message putLine otherHeaderLines (Utf8.encode "hi, there")) = .ok (r, n) ∧
        r.body = Utf8.encode "hi" ∧ r.keepAlive order = false := by
  have hhead : IsHead putLine headerLines := ⟨by unfold IsByteLine; decide, by decide⟩
  have hnames : DifferentNames headerLines := by
    unfold DifferentNames
    decide
  refine ⟨hhead, hnames, rearranges_headerLines, fun order => ?_⟩
  have halike := readAlike_of_rearranges.2 putLine headerLines otherHeaderLines
    (Utf8.encode "hi, there") hhead hnames rearranges_headerLines .asSet order
  have hread : ∃ r n,
      read .asSet (message putLine headerLines (Utf8.encode "hi, there")) = .ok (r, n) ∧
        r.body = Utf8.encode "hi" ∧ r.keepAlive .asSet = false := ⟨_, _, rfl, rfl, rfl⟩
  obtain ⟨r, n, hr, hbody, hkeep⟩ := hread
  rw [hr] at halike
  generalize read order (message putLine otherHeaderLines (Utf8.encode "hi, there")) = other
    at halike
  cases halike with
  | @read _ r' _ _ _ _ body_eq keepAlive_eq _ =>
    exact ⟨r', n, rfl, body_eq ▸ hbody, (keepAlive_eq .asSet order).symm.trans hkeep⟩

end Request

end PreviewServer
