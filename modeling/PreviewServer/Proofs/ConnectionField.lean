import PreviewServer.Connection
import PreviewServer.Proofs.AnswerForms

/-!
# The `Connection` field of responses

A site never sets a `Connection` field, in whatever case of letters (`connectionFields_handle`).
The only one is set when a response is marked as the last of its connection, and then it is exactly
`Connection: close` (`connectionFields_closing`).  So the field tells the client which responses
were marked, and nothing else.
-/

namespace PreviewServer

/-- The header fields of a response that are named `Connection`, in any case of letters. -/
def Response.connectionFields (r : Response) : List (String × String) :=
  r.headers.entries.filter fun e => sameIgnoringCase e.1 "Connection"

namespace Response

/-- A field of another name changes nothing. -/
theorem connectionFields_withHeader (r : Response) {name : String} (value : String)
    (h : sameIgnoringCase name "Connection" = false) :
    (r.withHeader name value).connectionFields = r.connectionFields :=
  r.headers.filter_entries_insert (p := fun n => sameIgnoringCase n "Connection") value h

/-- A finished draft has the fields that were set, and perhaps a length. -/
theorem connectionFields_build (d : ResponseDraft) :
    d.build.connectionFields =
      d.headers.entries.filter fun e => sameIgnoringCase e.1 "Connection" := by
  unfold ResponseDraft.build connectionFields
  dsimp only
  split
  · rfl
  · exact d.headers.filter_entries_insert (p := fun n => sameIgnoringCase n "Connection") _
      (by decide)

theorem connectionFields_ok (mediaType : String) (body : Bytes) :
    (ok mediaType body).connectionFields = [] := by
  unfold ok
  rw [connectionFields_build]
  exact Dict.empty.filter_entries_insert (p := fun n => sameIgnoringCase n "Connection") mediaType
    (by decide)

theorem connectionFields_page (s : Status) : (page s).connectionFields = [] := by
  unfold page
  rw [connectionFields_build]
  exact Dict.empty.filter_entries_insert (p := fun n => sameIgnoringCase n "Connection") _
    (by decide)

theorem connectionFields_movedPermanently (location : String) :
    (movedPermanently location).connectionFields = [] := by
  rw [movedPermanently, connectionFields_withHeader _ _ (by decide), connectionFields_page]

theorem connectionFields_methodNotAllowed : methodNotAllowed.connectionFields = [] := by
  rw [methodNotAllowed, connectionFields_withHeader _ _ (by decide), connectionFields_page]

/-- A marked response has the one field that says so. -/
theorem connectionFields_closing {r : Response} (h : r.connectionFields = []) :
    (Reply.closing r).connectionFields = [("Connection", "close")] := by
  have hnew : "Connection" ∉ r.headers.keys := by
    intro hmem
    obtain ⟨e, he, hname⟩ := List.mem_map.mp hmem
    have hf : e ∈ r.connectionFields :=
      List.mem_filter.mpr ⟨he, by rw [hname]; exact sameIgnoringCase_refl _⟩
    rw [h] at hf
    cases hf
  unfold connectionFields at h ⊢
  rw [Reply.closing, withHeader, Dict.entries_insert_of_not_mem hnew, List.filter_append, h]
  rfl

end Response

/-! ### The responses of a site -/

theorem ServeError.connectionFields_toResponse (e : ServeError) :
    e.toResponse.connectionFields = [] := by
  cases e <;> exact Response.connectionFields_page _

/-- **A site sets no `Connection` field.** -/
theorem Site.connectionFields_handle {s : Site} {t : FileTree} {r : Request} {response : Response}
    (h : s.handle t r = some response) : response.connectionFields = [] := by
  cases form_handle h with
  | file name content hdate =>
    rw [Response.connectionFields_withHeader _ _ (by decide), Response.connectionFields_ok]
  | listing page => exact Response.connectionFields_ok _ _
  | moved _ => exact Response.connectionFields_movedPermanently _
  | refused e => exact e.connectionFields_toResponse
  | methodNotAllowed => exact Response.connectionFields_methodNotAllowed

/-! ### The answers to bytes that are no request -/

theorem Reply.connectionFields_rejectionPage (e : ReadError) :
    (Reply.rejectionPage e).connectionFields = [] := by
  unfold Reply.rejectionPage
  split
  · exact Response.connectionFields_methodNotAllowed
  · exact Response.connectionFields_page _
  · exact Response.connectionFields_page _

end PreviewServer
