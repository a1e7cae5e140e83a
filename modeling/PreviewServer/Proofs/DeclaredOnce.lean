import PreviewServer.Proofs.DraftSteps
import PreviewServer.Proofs.HeaderLines

/-!
# Lengths that are declared once

On the wire the fields of a response are lines one after another, each of which is cut by itself
(`Response.lengthLines_headText`).  A field that declares a length is seen in at least one line
(`one_le_length_lengthLines`), and in no other one unless there are line breaks in its value; any
other field adds no length as long as it is a line of its own (`IsOwnLine.addsNoLength`).

A response that is built in steps declares as many lengths as there are spellings of the name.  So
one length is declared, and one line written for it, exactly if the name is spelled in one way
(`Response.declaresOnce_builtBy_iff`).
-/

namespace PreviewServer

open DraftStep

/-! ### Lines that declare a length -/

/-- Whether a line declares a length: what stands before its first colon is the name of one. -/
def isLengthLine (l : List Char) : Bool :=
  (cut? ':' l).any fun parts => isLengthName (String.ofList parts.1)

/-- The lines of a text that declare a length. -/
def lengthLines (text : String) : List (List Char) := (crlfLines text.toList).filter isLengthLine

/-- Whether a field is written with one line that declares a length if it declares one, and with
none otherwise. -/
def AddsNoLength (field : String × String) : Prop :=
  (lengthLines (Response.headerLine field)).length = if isLengthName field.1 then 1 else 0

/-- Whether a field is written as one line that has the name of the field before its first colon. -/
def IsOwnLine (field : String × String) : Prop :=
  IsUnbroken field.1 ∧ ':' ∉ field.1.toList ∧ IsUnbroken field.2

instance (field : String × String) : Decidable (IsOwnLine field) :=
  inferInstanceAs (Decidable (_ ∧ _ ∧ _))

variable {field : String × String}

/-- A name of the length is part of one line, and ends at the colon. -/
theorem not_mem_of_isLengthName {name : String} (h : isLengthName name) :
    '\r' ∉ name.toList ∧ ':' ∉ name.toList := by
  have hmap : name.toList.map Char.toLower = "Content-Length".toList.map Char.toLower :=
    of_decide_eq_true h
  have hmem : ∀ c ∈ name.toList, c.toLower ∈ "Content-Length".toList.map Char.toLower := by
    intro c hc
    rw [← hmap]
    exact List.mem_map_of_mem hc
  exact ⟨fun hc => absurd (hmem _ hc) (by decide), fun hc => absurd (hmem _ hc) (by decide)⟩

theorem isLengthLine_append {name : List Char} (h : ':' ∉ name) (rest : List Char) :
    isLengthLine (name ++ ':' :: rest) = isLengthName (String.ofList name) := by
  rw [isLengthLine, cut?_append h]
  rfl

theorem toList_headerLine (field : String × String) :
    (Response.headerLine field).toList = field.1.toList ++ ':' :: ' ' :: field.2.toList := by
  simp [Response.headerLine]

/-- **A field that declares a length is seen**, whatever its value is. -/
theorem one_le_length_lengthLines (h : isLengthName field.1) :
    1 ≤ (lengthLines (Response.headerLine field)).length := by
  obtain ⟨hcr, hcolon⟩ := not_mem_of_isLengthName h
  have hstart : '\r' ∉ field.1.toList ++ [':', ' '] := by
    rw [List.mem_append, not_or]
    exact ⟨hcr, by decide⟩
  have htext : (Response.headerLine field).toList =
      field.1.toList ++ [':', ' '] ++ field.2.toList := by
    rw [toList_headerLine, List.append_assoc]
    rfl
  -- Line breaks of the value come behind the colon.
  obtain ⟨l, ls, -, hlines⟩ := crlfLines_append_of_not_mem hstart field.2.toList
  have hline : isLengthLine (field.1.toList ++ [':', ' '] ++ l) = true := by
    have hcut := isLengthLine_append hcolon (' ' :: l)
    rw [String.ofList_toList, h] at hcut
    rw [List.append_assoc]
    exact hcut
  rw [lengthLines, htext, hlines, List.filter_cons_of_pos hline, List.length_cons]
  exact Nat.le_add_left 1 _

/-- A field that is written as one line adds no length to it. -/
theorem IsOwnLine.addsNoLength (h : IsOwnLine field) : AddsNoLength field := by
  obtain ⟨hname, hcolon, hvalue⟩ := h
  have hline : IsUnbroken (Response.headerLine field) :=
    isUnbroken_append_iff.mpr ⟨isUnbroken_append_iff.mpr ⟨hname, by decide⟩, hvalue⟩
  have hlength := isLengthLine_append hcolon (' ' :: field.2.toList)
  rw [String.ofList_toList, ← toList_headerLine] at hlength
  rw [AddsNoLength, lengthLines, crlfLines_of_isLine hline.isLine, ← hlength, List.filter_singleton]
  cases isLengthLine (Response.headerLine field).toList <;> rfl

/-- There are at least as many lines that declare a length as fields that do. -/
theorem countP_le_length_lengthLines (fields : List (String × String)) :
    fields.countP (fun field => isLengthName field.1) ≤
      (fields.flatMap fun field => lengthLines (Response.headerLine field)).length := by
  induction fields with
  | nil => exact Nat.le_refl 0
  | cons field fields ih =>
    rw [List.countP_cons, List.flatMap_cons, List.length_append]
    split
    · rename_i hname
      have hone := one_le_length_lengthLines hname
      omega
    · omega

/-- There are as many exactly if no field adds one. -/
theorem length_lengthLines_eq_countP_iff (fields : List (String × String)) :
    (fields.flatMap fun field => lengthLines (Response.headerLine field)).length =
        fields.countP (fun field => isLengthName field.1) ↔
      ∀ field ∈ fields, AddsNoLength field := by
  induction fields with
  | nil => simp
  | cons field fields ih =>
    have hle := countP_le_length_lengthLines fields
    rw [List.forall_mem_cons, ← ih, AddsNoLength, List.countP_cons, List.flatMap_cons,
      List.length_append]
    split
    · rename_i hname
      have hone := one_le_length_lengthLines hname
      omega
    · omega

namespace Response

/-! ### The bytes of a response -/

/-- Whether a response declares one length, and this one, and is written with one line for it among
those of its fields. -/
structure DeclaresOnce (r : Response) (value : String) : Prop where
  /-- One field alone is named as the length is, in any letter case. -/
  exists_field : ∃ name, r.lengthFields = [(name, value)]
  /-- One line alone is written for a field of such a name, in whatever order the fields come. -/
  exists_line : ∀ order, ∃ before name after, isLengthName name ∧
    (∀ field ∈ before ++ after, ¬ isLengthName field.1) ∧
    ∀ withBody, r.serialize order withBody =
      Utf8.encode (String.join ((r.statusLine :: (r.serverLine ++
        (before ++ (name, value) :: after).map headerLine)).map (· ++ crlf)) ++ crlf) ++
      if withBody then r.body else []

/-- Whether the bytes of a response, cut at all line breaks before the body, show so many lines that
declare a length, in whatever order the fields come. -/
def ShowsLengths (r : Response) (n : Nat) : Prop :=
  ∀ order withBody, ∃ head, r.serialize order withBody =
    Utf8.encode head ++ (if withBody then r.body else []) ∧ (lengthLines head).length = n

variable {status : Status} {steps : List DraftStep}

/-- A field is written as a line, so it is enough to look at the fields. -/
theorem declaresOnce_iff {r : Response} {value : String} :
    r.DeclaresOnce value ↔ ∃ name, r.lengthFields = [(name, value)] := by
  refine ⟨DeclaresOnce.exists_field, fun h => ⟨h, fun order => ?_⟩⟩
  obtain ⟨name, hfields⟩ := h
  have hperm : ((order.arrange r.headers.entries).filter fun field => isLengthName field.1).Perm
      r.lengthFields :=
    (order.arrange_perm r.headers.entries).filter _
  rw [hfields, List.perm_singleton] at hperm
  obtain ⟨before, after, hentries, hbefore, hname, hafter⟩ := List.filter_eq_cons_iff.mp hperm
  refine ⟨before, name, after, hname, ?_, fun withBody => ?_⟩
  · intro field hfield
    exact (List.mem_append.mp hfield).elim (hbefore field)
      (List.filter_eq_nil_iff.mp hafter field)
  · rw [← hentries]
    rfl

theorem lengthLines_statusLine (r : Response) : lengthLines r.statusLine = [] := by
  rw [statusLine]
  cases r.status <;> decide

theorem lengthLines_of_mem_serverLine {r : Response} {line : String} (h : line ∈ r.serverLine) :
    lengthLines line = [] := by
  rw [serverLine] at h
  split at h
  · cases h
  · rw [List.mem_singleton.mp h]
    decide

/-- A head is cut into the lines of the texts that it was put together from, and two empty lines. -/
theorem crlfLines_headText (order : FieldOrder) (r : Response) :
    crlfLines (r.headText order).toList =
      (r.headLines order).flatMap (fun line => crlfLines line.toList) ++ [[], []] := by
  have hcons : r.headLines order = r.statusLine :: (r.headLines order).tail := rfl
  have htext : (r.headText order).toList =
      joinWith lineBreak ((r.headLines order).map String.toList) ++ lineBreak ++ lineBreak := by
    rw [headText, hcons, crlf, join_map_append_lineBreak, String.toList_append,
      String.toList_ofList, List.append_assoc]
    rfl
  have hbreak : crlfLines lineBreak = [[], []] := rfl
  rw [htext, crlfLines_append_lineBreak, hbreak, hcons, List.map_cons,
    crlfLines_joinWith_eq_flatMap, ← List.map_cons, List.flatMap_map]

/-- **The lines of a head that declare a length are those of its fields**, each cut by itself. -/
theorem lengthLines_headText (order : FieldOrder) (r : Response) :
    lengthLines (r.headText order) =
      (order.arrange r.headers.entries).flatMap fun field => lengthLines (headerLine field) := by
  have hall : lengthLines (r.headText order) = (r.headLines order).flatMap lengthLines := by
    rw [lengthLines, crlfLines_headText, List.filter_append, List.filter_flatMap]
    exact List.append_nil _
  have hserver : r.serverLine.flatMap lengthLines = [] :=
    List.flatMap_eq_nil_iff.mpr fun _ h => lengthLines_of_mem_serverLine h
  rw [hall, headLines, List.flatMap_cons, lengthLines_statusLine, List.nil_append,
    List.flatMap_append, hserver, List.nil_append, List.flatMap_map]

/-- The number of lines that declare a length does not depend on the order of the fields. -/
theorem length_lengthLines_headText (order : FieldOrder) (r : Response) :
    (lengthLines (r.headText order)).length =
      (r.headers.entries.flatMap fun field => lengthLines (headerLine field)).length := by
  rw [lengthLines_headText]
  exact ((order.arrange_perm r.headers.entries).flatMap_right _).length_eq

theorem showsLengths_iff {r : Response} {n : Nat} :
    r.ShowsLengths n ↔
      (r.headers.entries.flatMap fun field => lengthLines (headerLine field)).length = n := by
  constructor
  · intro h
    obtain ⟨head, hbytes, hlength⟩ := h .asSet false
    rw [serialize] at hbytes
    rwa [← length_lengthLines_headText .asSet,
      Utf8.encode_injective (List.append_cancel_right hbytes)]
  · intro h order withBody
    exact ⟨r.headText order, rfl, (length_lengthLines_headText order r).trans h⟩

/-- The bytes show as many lengths as the response declares exactly if no field adds one. -/
theorem showsLengths_length_lengthFields_iff {r : Response} :
    r.ShowsLengths r.lengthFields.length ↔ ∀ field ∈ r.headers.entries, AddsNoLength field := by
  rw [showsLengths_iff, ← length_lengthLines_eq_countP_iff, List.countP_eq_length_filter]
  rfl

/-- The length that is added stays a line of its own, so only what is set can add another one. -/
theorem forall_addsNoLength_builtBy_iff (status : Status) (steps : List DraftStep) :
    (∀ field ∈ (builtBy status steps).headers.entries, AddsNoLength field) ↔
      ∀ name value, lastValue? steps (· = name) = some value → AddsNoLength (name, value) := by
  constructor
  · exact fun h name value hset => h (name, value) (mem_entries_builtBy_iff.mpr (.inl hset))
  · intro h field hfield
    rcases mem_entries_builtBy_iff.mp hfield with hset | ⟨-, rfl⟩
    · exact h field.1 field.2 hset
    · have hname : IsUnbroken "Content-Length" := by decide
      have hcolon : ':' ∉ "Content-Length".toList := by decide
      exact IsOwnLine.addsNoLength ⟨hname, hcolon, isUnbroken_toString _⟩

/-- **Fields that are lines of their own show what is declared**: as many lengths as there are
spellings of the name. -/
theorem showsLengths_builtBy (h : ∀ field ∈ fieldsSet steps, IsOwnLine field) :
    (builtBy status steps).ShowsLengths (lengthNames steps).card := by
  rw [← length_lengthFields_builtBy status, showsLengths_length_lengthFields_iff,
    forall_addsNoLength_builtBy_iff]
  intro name value hset
  exact (h (name, value) (mem_fieldsSet_of_lastValue?_eq_some hset)).addsNoLength

/-- **A length is declared once exactly if its name is spelled in one way.**  Then it is the right
one, and one line is written for it.  The bytes, cut again, show this line and no other one exactly
if, besides, no field that is set last adds one; and if all fields that are set are lines of their
own, they show as many lengths as there are spellings. -/
theorem declaresOnce_builtBy_iff (status : Status) (steps : List DraftStep) :
    ((builtBy status steps).DeclaresOnce (lengthToDeclare steps) ↔ SpellsOneLength steps) ∧
    ((builtBy status steps).DeclaresOnce (lengthToDeclare steps) ∧
        (builtBy status steps).ShowsLengths 1 ↔
      SpellsOneLength steps ∧ ∀ name value, lastValue? steps (· = name) = some value →
        AddsNoLength (name, value)) ∧
    ((∀ field ∈ fieldsSet steps, IsOwnLine field) →
      (builtBy status steps).ShowsLengths (lengthNames steps).card) := by
  have honce : (builtBy status steps).DeclaresOnce (lengthToDeclare steps) ↔
      SpellsOneLength steps :=
    declaresOnce_iff.trans (exists_lengthFields_eq_iff status steps)
  refine ⟨honce, ?_, showsLengths_builtBy⟩
  rw [honce]
  -- Once there is one field, one length is shown exactly if as many are shown as are declared.
  refine and_congr_right fun hspelled => ?_
  have hone : (builtBy status steps).lengthFields.length = 1 := by
    rw [length_lengthFields_builtBy, spellsOneLength_iff.mp hspelled, Finset.card_singleton]
  rw [← forall_addsNoLength_builtBy_iff status, ← showsLengths_length_lengthFields_iff, hone]

/-- Steps that set the length twice, under its usual name, and the body between them. -/
def lengthSetTwice : List DraftStep :=
  [.header "Content-Length" "7", .body (Utf8.encode "test"), .header "Content-Type" "text/plain",
    .header "Content-Length" "999"]

/-- The length that is set last is declared, though the body has another one. -/
theorem declaresOnce_lengthSetTwice :
    (∀ field ∈ fieldsSet lengthSetTwice, IsOwnLine field) ∧
    (builtBy .ok lengthSetTwice).DeclaresOnce "999" ∧
    (builtBy .ok lengthSetTwice).ShowsLengths 1 := by
  have hlines : ∀ field ∈ fieldsSet lengthSetTwice, IsOwnLine field := by decide
  have hspelled : SpellsOneLength lengthSetTwice := by
    unfold SpellsOneLength
    decide
  have hone : (lengthNames lengthSetTwice).card = 1 := by decide
  obtain ⟨honce, -, hshows⟩ := declaresOnce_builtBy_iff .ok lengthSetTwice
  exact ⟨hlines, honce.mpr hspelled, hone ▸ hshows hlines⟩

/-- Steps that set the length under its name in lower case, and a body of another length. -/
def lengthInLowerCase : List DraftStep :=
  [.header "content-length" "999", .body (Utf8.encode "test")]

/-- **A length that is declared twice.**  The length that is set under the name in lower case stays,
that of the body is added to it, and the bytes show both, which are not the same. -/
theorem not_declaresOnce_lengthInLowerCase :
    lengthToDeclare lengthInLowerCase = "999" ∧
    (builtBy .ok lengthInLowerCase).lengthFields =
      [("content-length", "999"), ("Content-Length", "4")] ∧
    ¬ (builtBy .ok lengthInLowerCase).DeclaresOnce (lengthToDeclare lengthInLowerCase) ∧
    (builtBy .ok lengthInLowerCase).ShowsLengths 2 := by
  have hfields : (builtBy .ok lengthInLowerCase).lengthFields =
      [("content-length", "999"), ("Content-Length", "4")] := by decide
  have hlines : ∀ field ∈ fieldsSet lengthInLowerCase, IsOwnLine field := by decide
  have htwo : (lengthNames lengthInLowerCase).card = 2 := by decide
  refine ⟨by decide, hfields, ?_, htwo ▸ showsLengths_builtBy hlines⟩
  rw [declaresOnce_iff, hfields]
  rintro ⟨name, heq⟩
  cases heq

end Response

end PreviewServer
