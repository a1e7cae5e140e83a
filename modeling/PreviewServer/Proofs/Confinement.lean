import PreviewServer.Proofs.AnswerForms
import PreviewServer.Proofs.HiddenFiles
import Mathlib

/-!
# What a site gives away

A site delivers the bytes of a node or the listing of a directory, and of these only the ones whose
canonical path is below its root (`Site.Delivers`); every other answer is the fixed page of its
status.  There are three ways to what is on the disk: the node that the target leads to, an index
file, and a listing.  All three start at a path that `Site.confine` has found out and compared with
the root (`confines_of_confine`), and reading this path again leads to the same node.

The bytes need not be those of a regular file.  Whatever is no directory is read, so a device below
the root is delivered as well (`handle_nullDevice`).

Nothing else of what lies outside the root comes into an answer either: with other bytes there all
answers would be the same (`handle_hideOutside`).
-/

namespace PreviewServer

/-! ### Pages of a status -/

/-- Whether a response is no success and has the fixed body of its status. -/
def Response.IsPage (r : Response) : Prop :=
  r.status ≠ .ok ∧ r.body = Utf8.encode (r.status.text ++ "\n")

theorem Response.isPage_page {status : Status} (h : status ≠ .ok) : (page status).IsPage :=
  ⟨h, rfl⟩

/-- Another header field changes neither status nor body. -/
theorem Response.IsPage.withHeader {r : Response} (h : r.IsPage) (name value : String) :
    (r.withHeader name value).IsPage := h

theorem Response.isPage_movedPermanently (location : String) :
    (movedPermanently location).IsPage := by
  have h : (page .movedPermanently).IsPage := isPage_page nofun
  exact h.withHeader "Location" location

theorem Response.isPage_methodNotAllowed : methodNotAllowed.IsPage := by
  have h : (page .methodNotAllowed).IsPage := isPage_page nofun
  exact h.withHeader "Allow" "GET, HEAD"

theorem ServeError.isPage_toResponse (e : ServeError) : e.toResponse.IsPage := by
  cases e <;> exact Response.isPage_page nofun

namespace Site

/-! ### Confined paths -/

/-- Whether a path is canonical and below the root, and is the path of this node, also when it is
looked up again. -/
structure Confines (s : Site) (t : FileTree) (p : Path) (n : Node) : Prop where
  /-- It is below the root, component by component. -/
  root_prefix : s.root <+: p
  /-- It passes through no links. -/
  isCanonical : t.IsCanonical p
  /-- The node stands there. -/
  node?_eq : t.node? p = some n
  /-- The path leads to itself. -/
  lookup_eq : t.lookup p = .ok (p, n)

variable {s : Site} {t : FileTree} {p : Path} {n : Node}

/-- **A path is used only after it has been confined.** -/
theorem confines_of_confine {components : List Name} (h : s.confine t components = .ok p) :
    ∃ n, s.Confines t p n := by
  unfold confine at h
  split at h
  · cases h
  · rename_i q hq
    split at h
    · rename_i hroot
      cases h
      obtain ⟨n, hn, hlookup⟩ := FileTree.lookup_of_canonicalize hq
      exact ⟨n, List.isPrefixOf_iff_prefix.mp hroot, (FileTree.canonicalize_spec hq).1, hn,
        hlookup⟩
    · cases h

/-- What comes when a confined path is read. -/
theorem Confines.read?_eq (h : s.Confines t p n) :
    t.read? p = if t.isLocked p then none else n.content? := by
  rw [FileTree.read?, h.lookup_eq]

/-! ### Delivered bodies -/

/-- The bodies that a site may deliver for a target: the bytes of one node, or the page of one
directory, whose canonical path is below the root. -/
inductive Delivers (s : Site) (t : FileTree) (target : String) : Bytes → Prop where
  /-- The bytes of a regular file. -/
  | file {p : Path} {content : Bytes} {modified : Int} (hroot : s.root <+: p)
      (hp : t.IsCanonical p) (hn : t.node? p = some (.file content modified)) :
      Delivers s t target content
  /-- The bytes that come when a pipe or a device is read. -/
  | special {p : Path} {content : Bytes} {modified : Int} (hroot : s.root <+: p)
      (hp : t.IsCanonical p) (hn : t.node? p = some (.special (some content) modified)) :
      Delivers s t target content
  /-- The listing of a directory. -/
  | listing {dir : Path} {parsed : Target} (hroot : s.root <+: dir) (hdir : t.IsCanonical dir)
      (hn : t.node? dir = some .directory) (hparsed : Target.parse target = .ok parsed) :
      Delivers s t target (Utf8.encode (Listing.page parsed.display (Listing.entries t dir)))

/-- Whether a response delivers something or is the page of its status. -/
def Answers (s : Site) (t : FileTree) (target : String) (r : Response) : Prop :=
  r.status = .ok ∧ s.Delivers t target r.body ∨ r.IsPage

variable {target : String} {r : Response}

/-- What can be read at a confined path may be delivered. -/
theorem Confines.delivers_of_read? (hp : s.Confines t p n) {content : Bytes} {modified : Int}
    (h : t.read? p = some (content, modified)) : s.Delivers t target content := by
  rw [hp.read?_eq] at h
  split at h
  · cases h
  · cases n with
    | file content' modified' =>
      cases h
      exact .file hp.root_prefix hp.isCanonical hp.node?_eq
    | directory => cases h
    | link target => cases h
    | special content? modified' =>
      cases content? with
      | none => cases h
      | some content' =>
        cases h
        exact .special hp.root_prefix hp.isCanonical hp.node?_eq

/-- A node is delivered from a confined path. -/
theorem Confines.answers_of_serveFile (hp : s.Confines t p n)
    (h : s.serveFile t p = .ok (some r)) : s.Answers t target r := by
  obtain ⟨content, modified, date, hread, -, rfl⟩ := of_serveFile_eq_ok h
  exact .inl ⟨rfl, hp.delivers_of_read? hread⟩

/-- A confined directory is listed unless it refuses to be read. -/
theorem Confines.render_eq {dir : Path} (hdir : s.Confines t dir .directory) (display : String) :
    Listing.render t dir display =
      if t.isLocked dir then .error .notReadable
      else .ok (Listing.page display (Listing.entries t dir)) := by
  rw [Listing.render, hdir.lookup_eq]
  rfl

/-- For a directory an index file is delivered, which is confined itself, or the listing. -/
theorem Confines.answers_of_serveDirectory {dir : Path} {parsed : Target}
    (hdir : s.Confines t dir .directory) (hparsed : Target.parse target = .ok parsed)
    (h : s.serveDirectory t dir parsed.display = .ok (some r)) : s.Answers t target r := by
  unfold serveDirectory at h
  split at h
  · split at h
    · cases h
    · rename_i hconfine
      obtain ⟨n, hp⟩ := confines_of_confine hconfine
      exact hp.answers_of_serveFile h
  · split at h
    · rw [hdir.render_eq] at h
      split at h
      · rename_i page hpage
        split at hpage
        · cases hpage
        · cases hpage
          cases h
          exact .inl ⟨rfl, .listing hdir.root_prefix hdir.isCanonical hdir.node?_eq hparsed⟩
      · cases h
    · cases h

/-- **What a served target is answered with.** -/
theorem answers_of_serve (h : s.serve t target = .ok (some r)) : s.Answers t target r := by
  unfold serve serveTarget at h
  split at h
  · cases h
  · rename_i parsed hparsed
    split at h
    · cases h
    · rename_i p hconfine
      obtain ⟨n, hp⟩ := confines_of_confine hconfine
      rw [hp.lookup_eq] at h
      split at h
      · cases h
      · rename_i hnode
        cases hnode
        split at h
        · exact hp.answers_of_serveDirectory hparsed h
        · cases h
          exact .inr (Response.isPage_movedPermanently _)
      · exact hp.answers_of_serveFile h

theorem answers_of_handle {r : Request} {response : Response}
    (h : s.handle t r = some response) : s.Answers t r.target response := by
  unfold handle at h
  split at h
  · split at h
    · rename_i hserve
      rw [h] at hserve
      exact answers_of_serve hserve
    · cases h
      exact .inr (ServeError.isPage_toResponse _)
  · cases h
    exact .inr Response.isPage_methodNotAllowed

/-! ### What lies outside the root -/

variable (s : Site) (t : FileTree)

theorem confine_hideOutside (root : Path) (components : List Name) :
    s.confine (t.hideOutside root) components = s.confine t components := by
  rw [confine, confine, FileTree.canonicalize_hideOutside]

theorem isIndex_hideOutside (root dir : Path) (index : String) :
    isIndex (t.hideOutside root) dir index = isIndex t dir index := by
  unfold isIndex
  rw [FileTree.lookup_hideOutside]
  cases t.lookup (candidate dir index) with
  | error e => rfl
  | ok found =>
    obtain ⟨p, n⟩ := found
    rw [Except.map]
    cases n with
    | file content modified =>
      obtain ⟨content', modified', h⟩ := Node.exists_seenFrom_file root p content modified
      rw [h]
    | directory => rw [Node.seenFrom_directory]
    | link target => rw [Node.seenFrom_link]
    | special content modified =>
      obtain ⟨content', modified', h⟩ := Node.exists_seenFrom_special root p content modified
      rw [h]

variable {s t}

/-- The node at a confined path is not hidden. -/
theorem Confines.lookup_hideOutside (h : s.Confines t p n) :
    (t.hideOutside s.root).lookup p = .ok (p, n) := by
  rw [FileTree.lookup_hideOutside, h.lookup_eq, Except.map,
    Node.seenFrom_of_prefix (List.isPrefixOf_iff_prefix.mpr h.root_prefix)]

theorem Confines.serveFile_hideOutside (h : s.Confines t p n) :
    s.serveFile (t.hideOutside s.root) p = s.serveFile t p := by
  have hread : (t.hideOutside s.root).read? p = t.read? p := by
    rw [FileTree.read?, FileTree.read?, h.lookup_hideOutside, h.lookup_eq]
    rfl
  rw [serveFile, serveFile, hread]

variable (s t)

theorem serveDirectory_hideOutside (dir : Path) (display : String) :
    s.serveDirectory (t.hideOutside s.root) dir display = s.serveDirectory t dir display := by
  have hindex : isIndex (t.hideOutside s.root) dir = isIndex t dir :=
    funext (isIndex_hideOutside t s.root dir)
  unfold serveDirectory
  rw [hindex, Listing.render_hideOutside]
  split
  · rename_i index hfind
    rw [confine_hideOutside]
    split
    · rfl
    · rename_i p hconfine
      obtain ⟨n, hp⟩ := confines_of_confine hconfine
      exact hp.serveFile_hideOutside
  · rfl

theorem serve_hideOutside (target : String) :
    s.serve (t.hideOutside s.root) target = s.serve t target := by
  unfold serve serveTarget
  split
  · rfl
  · rename_i parsed hparsed
    rw [confine_hideOutside]
    split
    · rfl
    · rename_i p hconfine
      obtain ⟨n, hp⟩ := confines_of_confine hconfine
      rw [hp.lookup_hideOutside, hp.lookup_eq, hp.serveFile_hideOutside,
        serveDirectory_hideOutside]

/-- **What lies outside the root leaves no trace.**  A site answers a request as if the files there
were empty and nothing else could be read. -/
theorem handle_hideOutside (r : Request) :
    s.handle (t.hideOutside s.root) r = s.handle t r := by
  rw [handle, handle, serve_hideOutside]

/-- **Confinement.**  A success is the bytes of a node or the listing of a directory whose canonical
path is below the root, and every other answer has the fixed body of its status.  What nodes outside
the root hold changes no answer. -/
theorem delivers_of_handle (r : Request) :
    (∀ response, s.handle t r = some response →
      (response.status = .ok → s.Delivers t r.target response.body) ∧
      (response.status ≠ .ok → response.body = Utf8.encode (response.status.text ++ "\n"))) ∧
    s.handle (t.hideOutside s.root) r = s.handle t r := by
  refine ⟨fun response h => ?_, handle_hideOutside s t r⟩
  rcases answers_of_handle h with ⟨hok, hbody⟩ | ⟨hne, hbody⟩
  · exact ⟨fun _ => hbody, fun hne => absurd hok hne⟩
  · exact ⟨fun hok => absurd hok hne, fun _ => hbody⟩

end Site

/-! ### A device below the root -/

/-- A tree with the device that is always empty. -/
def nullDevice : FileTree :=
  (FileTree.empty.set [Utf8.encode "dev"] .directory).set
    [Utf8.encode "dev", Utf8.encode "null"] (.special (some []) 0)

/-- The site with the devices below its root. -/
def Site.ofDevices : Site :=
  { root := [Utf8.encode "dev"], indexFiles := [], listing := true, types := .builtinOnly }

/-- The request for the empty device. -/
def Request.forNull : Request :=
  { method := .get, target := "/null", version := "HTTP/1.1", headers := Dict.empty, body := [] }

/-- The tree with the empty device has no regular file. -/
theorem node?_nullDevice_ne_file (p : Path) (content : Bytes) (modified : Int) :
    nullDevice.node? p ≠ some (.file content modified) := by
  rw [nullDevice, FileTree.node?_set (by decide), FileTree.node?_set (by decide)]
  split
  · rintro ⟨⟩
  · split
    · rintro ⟨⟩
    · rw [FileTree.node?]
      split
      · rintro ⟨⟩
      · rintro ⟨⟩

/-- **Not only regular files are delivered.**  The empty device is answered with its bytes, although
the tree has no regular file and no listing is empty. -/
theorem Site.handle_nullDevice :
    openRoot nullDevice (Utf8.encode "/dev") [] true .builtinOnly = .ok ofDevices ∧
    ∃ response, ofDevices.handle nullDevice .forNull = some response ∧ response.status = .ok ∧
      (∀ p content modified, nullDevice.node? p = some (.file content modified) →
        response.body ≠ content) ∧
      ∀ display es, response.body ≠ Utf8.encode (Listing.page display es) := by
  have hserve : ofDevices.handle nullDevice .forNull =
      some ((Response.ok "application/octet-stream" []).withHeader "Last-Modified"
        "Thu, 01 Jan 1970 00:00:00 GMT") := by
    cbv
  have hopen : openRoot nullDevice (Utf8.encode "/dev") [] true .builtinOnly = .ok ofDevices := by
    cbv
  refine ⟨hopen, _, hserve, rfl, ?_, ?_⟩
  · intro p content modified hfile
    exact absurd hfile (node?_nullDevice_ne_file p content modified)
  · -- A page has its frame, also for a directory without entries.
    intro display es hbody
    have hpage : Listing.page display es ≠ "" := fun h =>
      absurd (String.append_eq_empty_iff.mp h).2 (by decide)
    exact Utf8.encode_ne_nil hpage hbody.symm

end PreviewServer
