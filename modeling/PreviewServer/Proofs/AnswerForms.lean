import PreviewServer.Site

/-!
# The forms of answers

A site answers with the bytes of a node, a listing, a page that sends the client elsewhere, or the
page of a status (`Site.form_handle`).  Whoever wants to know something about the header fields of
all answers looks at these five forms, and not at the ways that lead to them.
-/

namespace PreviewServer

namespace Site

/-- The forms that the answer to a target can have. -/
inductive Form (s : Site) (target : String) : Response → Prop where
  /-- The bytes of a node, with the media type of its name and the date of its last change. -/
  | file (name : Name) (content : Bytes) {modified : Int} {date : String}
      (h : HttpDate.format? modified = some date) :
      Form s target ((Response.ok (s.types.lookupName name) content).withHeader "Last-Modified"
        date)
  /-- The listing of a directory. -/
  | listing (page : String) :
      Form s target (Response.ok "text/html; charset=utf-8" (Utf8.encode page))
  /-- The page that sends the client to the same target with a slash. -/
  | moved {parsed : Target} (h : Target.parse target = .ok parsed) :
      Form s target (Response.movedPermanently parsed.directoryLocation)
  /-- The page of a failure. -/
  | refused (e : ServeError) : Form s target e.toResponse
  /-- The page for a method that is not served. -/
  | methodNotAllowed : Form s target Response.methodNotAllowed

variable {s : Site} {t : FileTree} {target : String} {r : Response}

/-- What is served from a path is what comes when it is read, and its time can be written. -/
theorem of_serveFile_eq_ok {p : Path} (h : s.serveFile t p = .ok (some r)) :
    ∃ content modified date, t.read? p = some (content, modified) ∧
      HttpDate.format? modified = some date ∧
      r = (Response.ok (s.types.lookupName (p.getLast?.getD [])) content).withHeader
        "Last-Modified" date := by
  unfold serveFile at h
  split at h
  · cases h
  · rename_i content modified hread
    obtain ⟨date, hdate, rfl⟩ := Option.map_eq_some_iff.mp (Except.ok.inj h)
    exact ⟨content, modified, date, hread, hdate, rfl⟩

theorem form_of_serveFile {p : Path} (h : s.serveFile t p = .ok (some r)) : s.Form target r := by
  obtain ⟨content, modified, date, -, hdate, rfl⟩ := of_serveFile_eq_ok h
  exact .file _ content hdate

theorem form_of_serveDirectory {dir : Path} {display : String}
    (h : s.serveDirectory t dir display = .ok (some r)) : s.Form target r := by
  unfold serveDirectory at h
  split at h
  · split at h
    · cases h
    · exact form_of_serveFile h
  · split at h
    · split at h
      · rename_i page _
        cases h
        exact .listing page
      · cases h
    · cases h

theorem form_of_serve (h : s.serve t target = .ok (some r)) : s.Form target r := by
  unfold serve serveTarget at h
  split at h
  · cases h
  · rename_i parsed hparsed
    split at h
    · cases h
    · split at h
      · cases h
      · split at h
        · exact form_of_serveDirectory h
        · cases h
          exact .moved hparsed
      · exact form_of_serveFile h

/-- **Every answer of a site has one of the forms.** -/
theorem form_handle {r : Request} {response : Response} (h : s.handle t r = some response) :
    s.Form r.target response := by
  unfold handle at h
  split at h
  · split at h
    · rename_i hserve
      rw [h] at hserve
      exact form_of_serve hserve
    · cases h
      exact .refused _
  · cases h
    exact .methodNotAllowed

end Site

end PreviewServer
