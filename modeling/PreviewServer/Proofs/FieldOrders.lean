import PreviewServer.Proofs.AcceptedRequests

/-!
# The order in which fields come

Header fields have no order of their own, and one that is looked for is the first one that comes
(`FieldOrder`).  Which one this is matters only where names differ in nothing but the case of
letters: otherwise at most one field has the name (`Headers.find?_eq_some_iff`).

So a buffer is read alike in every order if different names on its header lines differ in more than
the case of letters (`Request.NamesDiffer`, `Request.read_eq_read`), and what was read says alike
whether the connection stays open (`Request.keepAlive_eq_keepAlive`).
-/

namespace PreviewServer

/-! ### Fields of different names -/

namespace Headers

variable {h : Headers} (hnames : h.keys.Pairwise fun a b => sameIgnoringCase a b = false)
include hnames

/-- Two fields of one name are the same. -/
theorem eq_of_sameIgnoringCase {field field' : String × String} (hfield : field ∈ h.entries)
    (hfield' : field' ∈ h.entries) (hsame : sameIgnoringCase field.1 field'.1) :
    field = field' := by
  have hdiffer : h.entries.Pairwise fun e e' => sameIgnoringCase e.1 e'.1 = false :=
    List.pairwise_map.mp hnames
  -- Which of the two comes first is not known, so both directions are needed.
  refine List.Pairwise.forall_of_forall_of_flip
    (R := fun e e' : String × String => sameIgnoringCase e.1 e'.1 → e = e')
    (fun _ _ _ => rfl) (hdiffer.imp ?_) (hdiffer.imp ?_) hfield hfield' hsame
  · intro e e' hne hsame
    rw [hne] at hsame
    cases hsame
  · intro e e' hne hsame
    rw [sameIgnoringCase_comm, hne] at hsame
    cases hsame

/-- **What is found is the value of the one field with this name.** -/
theorem find?_eq_some_iff (order : FieldOrder) {name value : String} :
    h.find? order name = some value ↔
      ∃ field ∈ h.entries, sameIgnoringCase field.1 name ∧ field.2 = value := by
  rw [find?, Option.map_eq_some_iff]
  have hspec : ∀ {field : String × String},
      ((order.arrange h.entries).find? fun e => sameIgnoringCase e.1 name) = some field →
        field ∈ h.entries ∧ sameIgnoringCase field.1 name := by
    intro field hfind
    have hname := List.find?_some hfind
    exact ⟨FieldOrder.mem_arrange.mp (List.mem_of_find?_eq_some hfind), hname⟩
  constructor
  · rintro ⟨field, hfind, rfl⟩
    exact ⟨field, (hspec hfind).1, (hspec hfind).2, rfl⟩
  · rintro ⟨field, hfield, hname, rfl⟩
    have hsome : ((order.arrange h.entries).find? fun e => sameIgnoringCase e.1 name).isSome := by
      rw [List.find?_isSome]
      exact ⟨field, FieldOrder.mem_arrange.mpr hfield, hname⟩
    obtain ⟨found, hfound⟩ := Option.isSome_iff_exists.mp hsome
    -- Whichever field comes first, it has the same name and so is the same.
    obtain ⟨hmem, hfoundName⟩ := hspec hfound
    have hsame : sameIgnoringCase found.1 field.1 :=
      sameIgnoringCase_trans hfoundName ((sameIgnoringCase_comm _ _).trans hname)
    exact ⟨found, hfound, congrArg Prod.snd (eq_of_sameIgnoringCase hnames hmem hfield hsame)⟩

/-- What is found is the same in every order. -/
theorem find?_eq_find? (order order' : FieldOrder) (name : String) :
    h.find? order name = h.find? order' name := by
  apply Option.ext
  intro value
  rw [find?_eq_some_iff hnames, find?_eq_some_iff hnames]

theorem bodyLength_eq_bodyLength (order order' : FieldOrder) :
    bodyLength order h = bodyLength order' h := by
  rw [bodyLength, bodyLength, find?_eq_find? hnames order order']

omit hnames in
/-- Without fields there is no body. -/
theorem bodyLength_empty (order : FieldOrder) : bodyLength order Dict.empty = .ok 0 :=
  bodyLength_eq_bodyLength List.Pairwise.nil order .asSet

end Headers

namespace Request

/-- Whether the connection stays open is the same in every order. -/
theorem keepAlive_eq_keepAlive {r : Request}
    (hnames : r.headers.keys.Pairwise fun a b => sameIgnoringCase a b = false)
    (order order' : FieldOrder) : r.keepAlive order = r.keepAlive order' := by
  rw [keepAlive, keepAlive, Headers.find?_eq_find? hnames order order']

/-! ### Names on the header lines -/

/-- The names on the header lines of a buffer: what stands before the first colon of a line, or all
of it, trimmed. -/
def headerNames (buffer : Bytes) : List String :=
  match headLength? buffer with
  | none => []
  | some m =>
    match Utf8.decode? (buffer.take m) with
    | none => []
    | some text =>
      (crlfLines text.toList).tail.map fun line => String.ofList (trimBlanks (before ':' line))

/-- Whether different names on the header lines of a buffer differ in more than the case of
letters. -/
def NamesDiffer (buffer : Bytes) : Prop :=
  ∀ a ∈ headerNames buffer, ∀ b ∈ headerNames buffer, sameIgnoringCase a b → a = b

theorem exists_of_mem_of_forall₂ {lines : List (List Char)} {fields : List (String × String)}
    (h : List.Forall₂ (fun line field => readHeaderLine line = .ok field) lines fields)
    {field : String × String} (hfield : field ∈ fields) :
    ∃ line ∈ lines, readHeaderLine line = .ok field := by
  induction h with
  | nil => cases hfield
  | cons hline _ ih =>
    rcases List.mem_cons.mp hfield with rfl | hfield
    · exact ⟨_, List.mem_cons_self, hline⟩
    · obtain ⟨line, hmem, hread⟩ := ih hfield
      exact ⟨line, List.mem_cons_of_mem _ hmem, hread⟩

/-- Every field of a request stands on one of the lines it was read from. -/
theorem exists_line_of_mem {lines : List (List Char)} {fields : List (String × String)}
    (h : readHeaderLines lines = .ok fields) {field : String × String}
    (hfield : field ∈ (Dict.ofList fields).entries) :
    ∃ line ∈ lines, readHeaderLine line = .ok field := by
  obtain ⟨line, hline, hread⟩ := exists_of_mem_of_forall₂ (forall₂_of_readHeaderLines h)
    (Dict.mem_of_mem_entries_ofList hfield)
  exact ⟨line, List.mem_of_mem_filter hline, hread⟩

variable {b : Bytes} {m : Nat} {text : String} {first : List Char} {rest : List (List Char)}
variable {fields : List (String × String)}

/-- The name of a field that was read stands on one of the header lines. -/
theorem mem_headerNames_of_lines (hm : headLength? b = some m)
    (htext : Utf8.decode? (b.take m) = some text) (hlines : crlfLines text.toList = first :: rest)
    (hfields : readHeaderLines rest = .ok fields) {field : String × String}
    (hfield : field ∈ (Dict.ofList fields).entries) :
    field.1 ∈ headerNames b ∧ IsField field := by
  obtain ⟨line, hline, hread⟩ := exists_line_of_mem hfields hfield
  have hisLine := isLine_of_mem_crlfLines (hlines ▸ List.mem_cons_of_mem _ hline)
  obtain ⟨hisField, name, value, rfl, hcolon, rfl⟩ := spellsField_of_readHeaderLine hisLine hread
  refine ⟨?_, hisField⟩
  unfold headerNames
  rw [hm]
  dsimp only
  rw [htext]
  dsimp only
  rw [hlines, List.tail_cons]
  refine List.mem_map.mpr ⟨_, hline, ?_⟩
  rw [before, cut?_append hcolon]

/-- If different names on the lines differ in more than the case of letters, those of the fields
do. -/
theorem names_pairwise_of_lines (hnames : NamesDiffer b) (hm : headLength? b = some m)
    (htext : Utf8.decode? (b.take m) = some text) (hlines : crlfLines text.toList = first :: rest)
    (hfields : readHeaderLines rest = .ok fields) :
    (Dict.ofList fields).keys.Pairwise fun x y => sameIgnoringCase x y = false := by
  refine (Dict.ofList fields).keys_nodup.imp_of_mem ?_
  intro x y hx hy hne
  obtain ⟨field, hfield, rfl⟩ := List.mem_map.mp hx
  obtain ⟨field', hfield', rfl⟩ := List.mem_map.mp hy
  refine Bool.eq_false_iff.mpr fun hsame => hne ?_
  exact hnames _ (mem_headerNames_of_lines hm htext hlines hfields hfield).1 _
    (mem_headerNames_of_lines hm htext hlines hfields hfield').1 hsame

/-- The fields of a request that was read stand on lines of the buffer. -/
theorem exists_lines_of_read {order : FieldOrder} {r : Request} {n : Nat}
    (h : read order b = .ok (r, n)) :
    ∃ m text first rest fields, headLength? b = some m ∧
      Utf8.decode? (b.take m) = some text ∧ crlfLines text.toList = first :: rest ∧
      readHeaderLines rest = .ok fields ∧ r.headers = Dict.ofList fields := by
  obtain ⟨m, head, hm, -, hhead, -, -, rfl⟩ := of_read h
  obtain ⟨text, first, rest, fields, htext, hlines, -, hfields, hheaders, -⟩ :=
    RequestHead.of_read hhead
  exact ⟨m, text, first, rest, fields, hm, Utf8.decode?_eq_some_iff.mpr htext, hlines, hfields,
    hheaders⟩

/-- If different names on the lines differ in more than the case of letters, so do those of the
request. -/
theorem names_pairwise_of_read {order : FieldOrder} {r : Request} {n : Nat}
    (hnames : NamesDiffer b) (h : read order b = .ok (r, n)) :
    r.headers.keys.Pairwise fun x y => sameIgnoringCase x y = false := by
  obtain ⟨m, text, first, rest, fields, hm, htext, hlines, hfields, hheaders⟩ :=
    exists_lines_of_read h
  rw [hheaders]
  exact names_pairwise_of_lines hnames hm htext hlines hfields

/-! ### Reading in any order -/

/-- A head is read alike in every order. -/
theorem read_head_eq (hnames : NamesDiffer b) (hm : headLength? b = some m)
    (order order' : FieldOrder) :
    RequestHead.read order (b.take m) = RequestHead.read order' (b.take m) := by
  unfold RequestHead.read
  cases htext : Utf8.decode? (b.take m) with
  | none => rfl
  | some text =>
    dsimp only
    cases hlines : crlfLines text.toList with
    | nil => rfl
    | cons first rest =>
      dsimp only
      cases RequestLine.read first with
      | error e => rfl
      | ok line =>
        dsimp only
        cases hfields : readHeaderLines rest with
        | error e => rfl
        | ok fields =>
          dsimp only
          rw [Headers.bodyLength_eq_bodyLength
            (names_pairwise_of_lines hnames hm htext hlines hfields) order order']

/-- **A buffer is read alike in every order**, if different names on its header lines differ in more
than the case of letters. -/
theorem read_eq_read (hnames : NamesDiffer b) (order order' : FieldOrder) :
    read order b = read order' b := by
  unfold read
  cases hm : headLength? b with
  | none => rfl
  | some m =>
    dsimp only
    rw [read_head_eq hnames hm order order']

end Request

end PreviewServer
