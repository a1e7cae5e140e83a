import PreviewServer.Proofs.Confinement
import PreviewServer.Proofs.TargetReading

/-!
# The outcome of a request

What a request is answered with is decided by its method, the form of its target, the segments, the
node that these lead to, and for a directory by its index files and by whether it may be listed.
`Site.Outcome` is the table of all cases, with conditions about the file tree and not about how it
is searched; `Site.FileOutcome` and `Site.DirectoryOutcome` are its parts for what was found.  The
table gives each response by its digits, its header fields and its body (`Response.Is`).

Each function of a site has one lemma that says that it answers as the table says
(`FileOutcome.eq_answer`, `DirectoryOutcome.eq_answer`) and one that says that some row of the table
applies (`exists_fileOutcome` and so on).  Together they give `Site.handle_eq_iff_outcome`: every
request has exactly one outcome.

One outcome is that there is no answer.  It is the one of bytes that can be read and whose time is
before 1970 or in the year 10000 or later (`FileOutcome.undated`, `handle_oldFile`).
-/

namespace PreviewServer

/-! ### Responses as they are seen -/

/-- Whether a response has these digits, these header fields and this body. -/
structure Response.Is (r : Response) (code : Nat) (fields : List (String × String))
    (body : Bytes) : Prop where
  /-- The digits of the status. -/
  code_eq : r.status.code = code
  /-- The header fields, in the order in which they were set. -/
  entries_eq : r.headers.entries = fields
  /-- The body. -/
  body_eq : r.body = body

/-- Whether a response is a page of plain text, with some header fields more. -/
def Response.IsText (r : Response) (code : Nat) (text : String) (more : List (String × String)) :
    Prop :=
  r.Is code
    ([("Content-Type", "text/plain; charset=utf-8"),
      ("Content-Length", toString (Utf8.encode text).length)] ++ more) (Utf8.encode text)

theorem Status.code_injective {a b : Status} (h : a.code = b.code) : a = b := by
  revert h
  cases a <;> cases b <;> decide

namespace Response

/-- Digits, fields and body say everything about a response. -/
theorem Is.unique {r r' : Response} {code : Nat} {fields : List (String × String)} {body : Bytes}
    (h : r.Is code fields body) (h' : r'.Is code fields body) : r = r' := by
  have hstatus : r.status = r'.status :=
    Status.code_injective (h.code_eq.trans h'.code_eq.symm)
  have hheaders : r.headers = r'.headers :=
    Dict.entries_injective (h.entries_eq.trans h'.entries_eq.symm)
  have hbody : r.body = r'.body := h.body_eq.trans h'.body_eq.symm
  cases r
  cases r'
  cases hstatus
  cases hheaders
  cases hbody
  rfl

/-- A response has no status with other digits. -/
theorem Is.status_ne {r : Response} {code : Nat} {fields : List (String × String)} {body : Bytes}
    (h : r.Is code fields body) {status : Status} (hne : code ≠ status.code) :
    r.status ≠ status :=
  fun heq => hne (h.code_eq.symm.trans (congrArg Status.code heq))

theorem is_ok (mediaType : String) (body : Bytes) :
    (ok mediaType body).Is 200
      [("Content-Type", mediaType), ("Content-Length", toString body.length)] body :=
  ⟨rfl, rfl, rfl⟩

theorem is_dated (mediaType : String) (body : Bytes) (date : String) :
    ((ok mediaType body).withHeader "Last-Modified" date).Is 200
      [("Content-Type", mediaType), ("Content-Length", toString body.length),
        ("Last-Modified", date)] body :=
  ⟨rfl, rfl, rfl⟩

theorem isText_page (status : Status) :
    (page status).IsText status.code (status.text ++ "\n") [] :=
  ⟨rfl, rfl, rfl⟩

theorem isText_badRequest : badRequest.IsText 400 "400 Bad Request\n" [] :=
  isText_page .badRequest

theorem isText_notFound : notFound.IsText 404 "404 Not Found\n" [] := isText_page .notFound

theorem isText_internalError : internalError.IsText 500 "500 Internal Server Error\n" [] :=
  isText_page .internalServerError

theorem isText_methodNotAllowed :
    methodNotAllowed.IsText 405 "405 Method Not Allowed\n" [("Allow", "GET, HEAD")] :=
  ⟨rfl, rfl, rfl⟩

theorem isText_movedPermanently (location : String) :
    (movedPermanently location).IsText 301 "301 Moved Permanently\n" [("Location", location)] :=
  ⟨rfl, rfl, rfl⟩

end Response

/-- Whether components lead to a regular file, links followed. -/
def FileTree.LeadsToFile (t : FileTree) (components : List Name) : Prop :=
  ∃ p content modified, t.lookup components = .ok (p, .file content modified)

/-- Whether these bytes stand at a canonical path: in a regular file, or in a pipe or a device that
can be read. -/
def FileTree.Holds (t : FileTree) (p : Path) (content : Bytes) (modified : Int) : Prop :=
  t.node? p = some (.file content modified) ∨ t.node? p = some (.special (some content) modified)

/-- The answer to a request. -/
def ServeError.answer (result : Except ServeError (Option Response)) : Option Response :=
  match result with
  | .ok response => response
  | .error e => some e.toResponse

namespace Site

variable {s : Site} {t : FileTree} {answer : Option Response} {response : Response}

/-! ### Paths below the root -/

/-- Whether components have a canonical path and it is below the root. -/
def Reaches (s : Site) (t : FileTree) (components : List Name) (p : Path) : Prop :=
  t.canonicalize components = .ok p ∧ s.root <+: p

theorem confine_eq_ok_iff {components : List Name} {p : Path} :
    s.confine t components = .ok p ↔ s.Reaches t components p := by
  unfold confine Reaches
  cases t.canonicalize components with
  | error e => exact ⟨nofun, nofun⟩
  | ok q =>
    dsimp only
    split
    · rename_i hroot
      rw [List.isPrefixOf_iff_prefix] at hroot
      simp only [Except.ok.injEq]
      exact ⟨fun h => ⟨h, h ▸ hroot⟩, And.left⟩
    · rename_i hroot
      rw [List.isPrefixOf_iff_prefix] at hroot
      simp only [Except.ok.injEq]
      exact ⟨nofun, fun h => absurd h.2 (h.1 ▸ hroot)⟩

/-- Components reach at most one path. -/
theorem Reaches.unique {components : List Name} {p q : Path} (hp : s.Reaches t components p)
    (hq : s.Reaches t components q) : p = q :=
  Except.ok.inj (hp.1.symm.trans hq.1)

/-- What is not below the root is answered as if nothing were there. -/
theorem exists_confine_eq_error {components : List Name} (h : ∀ p, ¬ s.Reaches t components p) :
    ∃ e, s.confine t components = .error e ∧ e.toResponse = .notFound := by
  cases hconfine : s.confine t components with
  | ok p => exact absurd (confine_eq_ok_iff.mp hconfine) (h p)
  | error e =>
    refine ⟨e, rfl, ?_⟩
    unfold confine at hconfine
    split at hconfine
    · cases hconfine
      rfl
    · split at hconfine
      · cases hconfine
      · cases hconfine
        rfl

/-! ### Nodes with bytes -/

/-- The answers for a path below the root at which no directory stands. -/
inductive FileOutcome (s : Site) (t : FileTree) (p : Path) : Option Response → Prop where
  /-- Bytes that can be read are delivered, with the media type of the name. -/
  | delivered {content : Bytes} {modified : Int} {response : Response}
      (hnode : t.Holds p content modified) (hread : t.isLocked p = false)
      (hdate : 0 ≤ modified ∧ modified < 253402300800)
      (h : response.Is 200
        [("Content-Type", s.types.lookupName (p.getLast?.getD [])),
          ("Content-Length", toString content.length),
          ("Last-Modified", HttpDate.text modified.toNat)] content) :
      FileOutcome s t p (some response)
  /-- There is no answer if their time cannot be written. -/
  | undated {content : Bytes} {modified : Int} (hnode : t.Holds p content modified)
      (hread : t.isLocked p = false) (hdate : modified < 0 ∨ 253402300800 ≤ modified) :
      FileOutcome s t p none
  /-- Anything else cannot be read. -/
  | unreadable {response : Response}
      (hnode : ∀ content modified, t.Holds p content modified → t.isLocked p = true)
      (h : response.IsText 500 "500 Internal Server Error\n" []) :
      FileOutcome s t p (some response)

theorem Confines.holds_iff {p : Path} {n : Node} (h : s.Confines t p n) {content : Bytes}
    {modified : Int} : t.Holds p content modified ↔ n.content? = some (content, modified) := by
  rw [FileTree.Holds, h.node?_eq, Option.some_inj, Option.some_inj]
  cases n with
  | file content' modified' => simp [Node.content?]
  | directory => simp [Node.content?]
  | link target => simp [Node.content?]
  | special content? modified' => cases content? <;> simp [Node.content?]

theorem exists_fileOutcome (s : Site) (t : FileTree) (p : Path) :
    ∃ answer, s.FileOutcome t p answer := by
  by_cases h : ∃ content modified, t.Holds p content modified ∧ t.isLocked p = false
  · obtain ⟨content, modified, hnode, hread⟩ := h
    by_cases hdate : 0 ≤ modified ∧ modified < 253402300800
    · exact ⟨_, .delivered hnode hread hdate (Response.is_dated _ _ _)⟩
    · exact ⟨_, .undated hnode hread (by omega)⟩
  · refine ⟨_, .unreadable (fun content modified hnode => ?_) Response.isText_internalError⟩
    rw [← Bool.not_eq_false]
    exact fun hread => h ⟨content, modified, hnode, hread⟩

theorem FileOutcome.eq_answer {components : List Name} {p : Path} (hp : s.Reaches t components p)
    (h : s.FileOutcome t p answer) : ServeError.answer (s.serveFile t p) = answer := by
  obtain ⟨n, hconfines⟩ := confines_of_confine (confine_eq_ok_iff.mpr hp)
  rw [serveFile, hconfines.read?_eq]
  cases h with
  | @delivered content modified response hnode hread hdate h =>
    have hformat : HttpDate.format? modified = some (HttpDate.text modified.toNat) :=
      if_pos hdate
    rw [hread, hconfines.holds_iff.mp hnode]
    rw [if_neg Bool.false_ne_true]
    dsimp only
    rw [hformat]
    exact congrArg some ((Response.is_dated _ _ _).unique h)
  | @undated content modified hnode hread hdate =>
    have hformat : HttpDate.format? modified = none := if_neg (by unfold HttpDate.limit; omega)
    rw [hread, hconfines.holds_iff.mp hnode]
    rw [if_neg Bool.false_ne_true]
    dsimp only
    rw [hformat]
    rfl
  | @unreadable response hnode h =>
    have hnone : (if t.isLocked p = true then none else n.content?) = none := by
      split
      · rfl
      · rename_i hread
        cases hcontent : n.content? with
        | none => rfl
        | some found => exact absurd (hnode _ _ (hconfines.holds_iff.mpr hcontent)) hread
    rw [hnone]
    exact congrArg some (Response.isText_internalError.unique h)

/-! ### Directories -/

/-- Whether a name, seen from a directory, leads to a regular file. -/
def HasIndex (t : FileTree) (dir : Path) (name : String) : Prop :=
  t.LeadsToFile (componentsFrom dir (Utf8.encode name))

/-- Whether a name is the first index file of a directory: names before it lead to no regular
file. -/
def IsFirstIndex (s : Site) (t : FileTree) (dir : Path) (name : String) : Prop :=
  ∃ before after, s.indexFiles = before ++ name :: after ∧
    (∀ other ∈ before, ¬ HasIndex t dir other) ∧ HasIndex t dir name

/-- The answers for a directory below the root that is shown as `display`. -/
inductive DirectoryOutcome (s : Site) (t : FileTree) (dir : Path) (display : String) :
    Option Response → Prop where
  /-- The first index file decides alone, also if it is not below the root. -/
  | indexOutside {name : String} {response : Response} (hfirst : s.IsFirstIndex t dir name)
      (hp : ∀ p, ¬ s.Reaches t (componentsFrom dir (Utf8.encode name)) p)
      (h : response.IsText 404 "404 Not Found\n" []) :
      DirectoryOutcome s t dir display (some response)
  /-- The first index file is answered like any file. -/
  | index {name : String} {p : Path} {answer : Option Response}
      (hfirst : s.IsFirstIndex t dir name)
      (hp : s.Reaches t (componentsFrom dir (Utf8.encode name)) p)
      (h : s.FileOutcome t p answer) : DirectoryOutcome s t dir display answer
  /-- Without index file there is nothing if listings are off. -/
  | notListed {response : Response} (hnone : ∀ name ∈ s.indexFiles, ¬ HasIndex t dir name)
      (hlisting : s.listing = false) (h : response.IsText 404 "404 Not Found\n" []) :
      DirectoryOutcome s t dir display (some response)
  /-- A directory that refuses to be read cannot be listed. -/
  | unreadable {response : Response} (hnone : ∀ name ∈ s.indexFiles, ¬ HasIndex t dir name)
      (hlisting : s.listing = true) (hread : t.isLocked dir = true)
      (h : response.IsText 500 "500 Internal Server Error\n" []) :
      DirectoryOutcome s t dir display (some response)
  /-- Any other directory is listed. -/
  | listed {page : Bytes} {response : Response}
      (hnone : ∀ name ∈ s.indexFiles, ¬ HasIndex t dir name)
      (hlisting : s.listing = true) (hread : t.isLocked dir = false)
      (hpage : page = Utf8.encode (Listing.page display (Listing.entries t dir)))
      (h : response.Is 200
        [("Content-Type", "text/html; charset=utf-8"), ("Content-Length", toString page.length)]
        page) :
      DirectoryOutcome s t dir display (some response)

theorem isIndex_iff {dir : Path} {name : String} :
    isIndex t dir name = true ↔ HasIndex t dir name := by
  unfold isIndex candidate HasIndex FileTree.LeadsToFile
  split
  · rename_i p content modified h
    exact ⟨fun _ => ⟨p, content, modified, h⟩, fun _ => rfl⟩
  · rename_i h
    refine ⟨nofun, ?_⟩
    rintro ⟨p, content, modified, heq⟩
    exact absurd heq (h p content modified)

/-- The search for an index file finds the first one. -/
theorem find?_isIndex_eq_some_iff {dir : Path} {name : String} :
    s.indexFiles.find? (isIndex t dir) = some name ↔ s.IsFirstIndex t dir name := by
  rw [List.find?_eq_some_iff_append, isIndex_iff]
  unfold IsFirstIndex
  constructor
  · rintro ⟨hname, before, after, hsplit, hbefore⟩
    refine ⟨before, after, hsplit, fun other hother => ?_, hname⟩
    have hfalse := hbefore other hother
    rwa [Bool.not_eq_true', Bool.eq_false_iff, Ne, isIndex_iff] at hfalse
  · rintro ⟨before, after, hsplit, hbefore, hname⟩
    refine ⟨hname, before, after, hsplit, fun other hother => ?_⟩
    rw [Bool.not_eq_true', Bool.eq_false_iff, Ne, isIndex_iff]
    exact hbefore other hother

theorem find?_isIndex_eq_none_iff {dir : Path} :
    s.indexFiles.find? (isIndex t dir) = none ↔
      ∀ name ∈ s.indexFiles, ¬ HasIndex t dir name := by
  simp only [List.find?_eq_none, isIndex_iff]

theorem exists_directoryOutcome (s : Site) (t : FileTree) (dir : Path) (display : String) :
    ∃ answer, s.DirectoryOutcome t dir display answer := by
  cases hfind : s.indexFiles.find? (isIndex t dir) with
  | some name =>
    have hfirst := find?_isIndex_eq_some_iff.mp hfind
    by_cases h : ∃ p, s.Reaches t (componentsFrom dir (Utf8.encode name)) p
    · obtain ⟨p, hp⟩ := h
      obtain ⟨answer, hfile⟩ := s.exists_fileOutcome t p
      exact ⟨answer, .index hfirst hp hfile⟩
    · exact ⟨_, .indexOutside hfirst (not_exists.mp h) Response.isText_notFound⟩
  | none =>
    have hnone := find?_isIndex_eq_none_iff.mp hfind
    cases hlisting : s.listing with
    | false => exact ⟨_, .notListed hnone hlisting Response.isText_notFound⟩
    | true =>
      cases hread : t.isLocked dir with
      | true => exact ⟨_, .unreadable hnone hlisting hread Response.isText_internalError⟩
      | false => exact ⟨_, .listed hnone hlisting hread rfl (Response.is_ok _ _)⟩

theorem DirectoryOutcome.eq_answer {dir : Path} {display : String}
    (hdir : s.Confines t dir .directory) (h : s.DirectoryOutcome t dir display answer) :
    ServeError.answer (s.serveDirectory t dir display) = answer := by
  unfold serveDirectory
  cases h with
  | indexOutside hfirst hp h =>
    obtain ⟨e, hconfine, he⟩ := exists_confine_eq_error hp
    rw [find?_isIndex_eq_some_iff.mpr hfirst]
    dsimp only
    rw [candidate, hconfine, h.unique Response.isText_notFound]
    exact congrArg some he
  | index hfirst hp h =>
    rw [find?_isIndex_eq_some_iff.mpr hfirst]
    dsimp only
    rw [candidate, confine_eq_ok_iff.mpr hp]
    exact h.eq_answer hp
  | notListed hnone hlisting h =>
    rw [find?_isIndex_eq_none_iff.mpr hnone, hlisting, h.unique Response.isText_notFound]
    rfl
  | unreadable hnone hlisting hread h =>
    rw [find?_isIndex_eq_none_iff.mpr hnone, hlisting, hdir.render_eq, hread,
      h.unique Response.isText_internalError]
    rfl
  | listed hnone hlisting hread hpage h =>
    subst hpage
    rw [find?_isIndex_eq_none_iff.mpr hnone, hlisting, hdir.render_eq, hread,
      h.unique (Response.is_ok _ _)]
    rfl

/-! ### Requests -/

/-- The answers to a request. -/
inductive Outcome (s : Site) (t : FileTree) (r : Request) : Option Response → Prop where
  /-- Only two methods are served. -/
  | methodNotAllowed {response : Response} (hget : r.method ≠ .get) (hhead : r.method ≠ .head)
      (h : response.IsText 405 "405 Method Not Allowed\n" [("Allow", "GET, HEAD")]) :
      Outcome s t r (some response)
  /-- The target is neither a path nor a complete URL. -/
  | badTarget {response : Response} (hmethod : r.method = .get ∨ r.method = .head)
      (hform : ¬ Target.HasForm r.target.toList)
      (h : response.IsText 400 "400 Bad Request\n" []) : Outcome s t r (some response)
  /-- A segment is no text, or would lead elsewhere. -/
  | badSegment {path : List Char} {query : Option (List Char)} {raw : List Char}
      {response : Response} (hmethod : r.method = .get ∨ r.method = .head)
      (hsplit : Target.split? r.target.toList = some (path, query))
      (hraw : raw ∈ fields '/' path) (hbad : Target.IsOffending raw)
      (h : response.IsText 404 "404 Not Found\n" []) : Outcome s t r (some response)
  /-- The root and the names behind it lead to nothing below the root. -/
  | unreachable {path : List Char} {query : Option (List Char)} {response : Response}
      (hmethod : r.method = .get ∨ r.method = .head)
      (hsplit : Target.split? r.target.toList = some (path, query))
      (hgood : ∀ raw ∈ fields '/' path, ¬ Target.IsOffending raw)
      (hp : ∀ p,
        ¬ s.Reaches t (s.root ++ ((fields '/' path).filterMap Target.nameOf?).map Utf8.encode) p)
      (h : response.IsText 404 "404 Not Found\n" []) : Outcome s t r (some response)
  /-- A directory has to be asked for with a slash. -/
  | moved {path : List Char} {query : Option (List Char)} {dir : Path} {response : Response}
      (hmethod : r.method = .get ∨ r.method = .head)
      (hsplit : Target.split? r.target.toList = some (path, query))
      (hgood : ∀ raw ∈ fields '/' path, ¬ Target.IsOffending raw)
      (hdir : s.Reaches t
        (s.root ++ ((fields '/' path).filterMap Target.nameOf?).map Utf8.encode) dir)
      (hnode : t.node? dir = some .directory) (hslash : path.getLast? ≠ some '/')
      (h : response.IsText 301 "301 Moved Permanently\n"
        [("Location", (Target.ofParts path query).directoryLocation)]) :
      Outcome s t r (some response)
  /-- A directory that was asked for with a slash. -/
  | directory {path : List Char} {query : Option (List Char)} {dir : Path}
      {answer : Option Response} (hmethod : r.method = .get ∨ r.method = .head)
      (hsplit : Target.split? r.target.toList = some (path, query))
      (hgood : ∀ raw ∈ fields '/' path, ¬ Target.IsOffending raw)
      (hdir : s.Reaches t
        (s.root ++ ((fields '/' path).filterMap Target.nameOf?).map Utf8.encode) dir)
      (hnode : t.node? dir = some .directory) (hslash : path.getLast? = some '/')
      (h : s.DirectoryOutcome t dir (Target.ofParts path query).display answer) :
      Outcome s t r answer
  /-- Anything else below the root. -/
  | file {path : List Char} {query : Option (List Char)} {p : Path} {answer : Option Response}
      (hmethod : r.method = .get ∨ r.method = .head)
      (hsplit : Target.split? r.target.toList = some (path, query))
      (hgood : ∀ raw ∈ fields '/' path, ¬ Target.IsOffending raw)
      (hp : s.Reaches t
        (s.root ++ ((fields '/' path).filterMap Target.nameOf?).map Utf8.encode) p)
      (hnode : t.node? p ≠ some .directory) (h : s.FileOutcome t p answer) :
      Outcome s t r answer

theorem isServable_iff {m : Method} : m.isServable = true ↔ m = .get ∨ m = .head := by
  cases m <;> decide

theorem handle_of_servable {r : Request} (h : r.method = .get ∨ r.method = .head) :
    s.handle t r = ServeError.answer (s.serve t r.target) := by
  rw [handle, if_pos (isServable_iff.mpr h)]
  rfl

/-- A request for segments that do not offend is answered by what they lead to. -/
theorem handle_of_forall {r : Request} {path : List Char} {query : Option (List Char)}
    (hmethod : r.method = .get ∨ r.method = .head)
    (hsplit : Target.split? r.target.toList = some (path, query))
    (hgood : ∀ raw ∈ fields '/' path, ¬ Target.IsOffending raw) :
    s.handle t r = ServeError.answer (s.serveTarget t (.ofParts path query)) := by
  rw [handle_of_servable hmethod, serve, Target.parse_of_forall hsplit hgood]

theorem hasTrailingSlash_ofParts (path : List Char) (query : Option (List Char)) :
    (Target.ofParts path query).hasTrailingSlash = true ↔ path.getLast? = some '/' := by
  rw [Target.hasTrailingSlash, Target.ofParts, String.toList_ofList, decide_eq_true_eq]

/-- A path that was reached is read again. -/
theorem serveTarget_of_reaches {target : Target} {p : Path} {n : Node}
    (hp : s.Reaches t (s.components target) p) (hn : s.Confines t p n) :
    s.serveTarget t target =
      if n = .directory then
        if target.hasTrailingSlash then s.serveDirectory t p target.display
        else .ok (some (.movedPermanently target.directoryLocation))
      else s.serveFile t p := by
  rw [serveTarget, confine_eq_ok_iff.mpr hp]
  dsimp only
  rw [hn.lookup_eq]
  cases n <;> rfl

/-- The node that stands at a path that was reached. -/
theorem Reaches.confines {components : List Name} {p : Path} {n : Node}
    (hp : s.Reaches t components p) (hnode : t.node? p = some n) : s.Confines t p n := by
  obtain ⟨m, hm⟩ := confines_of_confine (confine_eq_ok_iff.mpr hp)
  obtain rfl := Option.some.inj (hm.node?_eq.symm.trans hnode)
  exact hm

/-- A request whose target leads to a node below the root is answered by what stands there. -/
theorem handle_of_reaches {r : Request} {parsed : Target} {p : Path} {n : Node}
    (hmethod : r.method = .get ∨ r.method = .head) (hparse : Target.parse r.target = .ok parsed)
    (hp : s.Reaches t (s.components parsed) p) (hnode : t.node? p = some n) :
    s.Confines t p n ∧ s.handle t r = ServeError.answer
      (if n = .directory then
        if parsed.hasTrailingSlash then s.serveDirectory t p parsed.display
        else .ok (some (.movedPermanently parsed.directoryLocation))
      else s.serveFile t p) := by
  have hconfines := hp.confines hnode
  refine ⟨hconfines, ?_⟩
  rw [handle_of_servable hmethod, serve, hparse]
  dsimp only
  rw [serveTarget_of_reaches hp hconfines]

/-- **Every row of the table is what the site does.** -/
theorem Outcome.eq_handle {r : Request} (h : s.Outcome t r answer) : s.handle t r = answer := by
  cases h with
  | methodNotAllowed hget hhead h =>
    have hmethod : ¬ r.method.isServable = true := fun h =>
      (isServable_iff.mp h).elim hget hhead
    rw [handle, if_neg hmethod, h.unique Response.isText_methodNotAllowed]
  | badTarget hmethod hform h =>
    rw [handle_of_servable hmethod, serve, Target.parse_of_not_hasForm hform,
      h.unique Response.isText_badRequest]
    rfl
  | badSegment hmethod hsplit hraw hbad h =>
    obtain ⟨e, he, hform⟩ := Target.parse_of_isOffending hsplit hraw hbad
    rw [handle_of_servable hmethod, serve, he, h.unique Response.isText_notFound]
    cases e with
    | badForm => exact absurd rfl hform
    | notText => rfl
    | escapesDirectory => rfl
  | @unreachable path query response hmethod hsplit hgood hp h =>
    obtain ⟨e, hconfine, he⟩ := exists_confine_eq_error hp
    rw [handle_of_forall hmethod hsplit hgood, serveTarget, components, Target.ofParts, hconfine,
      h.unique Response.isText_notFound]
    exact congrArg some he
  | @moved path query dir response hmethod hsplit hgood hdir hnode hslash h =>
    have hreaches : s.Reaches t (s.components (.ofParts path query)) dir := hdir
    have hn := hdir.confines hnode
    rw [handle_of_forall hmethod hsplit hgood, serveTarget_of_reaches hreaches hn, if_pos rfl,
      if_neg (mt (hasTrailingSlash_ofParts path query).mp hslash),
      h.unique (Response.isText_movedPermanently _)]
    rfl
  | @directory path query dir answer hmethod hsplit hgood hdir hnode hslash h =>
    have hreaches : s.Reaches t (s.components (.ofParts path query)) dir := hdir
    have hn := hdir.confines hnode
    rw [handle_of_forall hmethod hsplit hgood, serveTarget_of_reaches hreaches hn, if_pos rfl,
      if_pos ((hasTrailingSlash_ofParts path query).mpr hslash)]
    exact h.eq_answer hn
  | @file path query p answer hmethod hsplit hgood hp hnode h =>
    have hreaches : s.Reaches t (s.components (.ofParts path query)) p := hp
    obtain ⟨n, hn⟩ := confines_of_confine (confine_eq_ok_iff.mpr hp)
    have hdir : n ≠ .directory := fun heq => hnode (heq ▸ hn.node?_eq)
    rw [handle_of_forall hmethod hsplit hgood, serveTarget_of_reaches hreaches hn, if_neg hdir]
    exact h.eq_answer hp

theorem exists_outcome_of_forall (t : FileTree) {r : Request} {path : List Char}
    {query : Option (List Char)} (hmethod : r.method = .get ∨ r.method = .head)
    (hsplit : Target.split? r.target.toList = some (path, query))
    (hgood : ∀ raw ∈ fields '/' path, ¬ Target.IsOffending raw) :
    ∃ answer, s.Outcome t r answer := by
  by_cases hreach : ∃ p,
      s.Reaches t (s.root ++ ((fields '/' path).filterMap Target.nameOf?).map Utf8.encode) p
  · obtain ⟨p, hp⟩ := hreach
    by_cases hnode : t.node? p = some .directory
    · by_cases hslash : path.getLast? = some '/'
      · obtain ⟨answer, h⟩ := s.exists_directoryOutcome t p (Target.ofParts path query).display
        exact ⟨answer, .directory hmethod hsplit hgood hp hnode hslash h⟩
      · exact ⟨_, .moved hmethod hsplit hgood hp hnode hslash
          (Response.isText_movedPermanently _)⟩
    · obtain ⟨answer, h⟩ := s.exists_fileOutcome t p
      exact ⟨answer, .file hmethod hsplit hgood hp hnode h⟩
  · exact ⟨_, .unreachable hmethod hsplit hgood (not_exists.mp hreach) Response.isText_notFound⟩

/-- **Some row of the table applies.** -/
theorem exists_outcome (s : Site) (t : FileTree) (r : Request) :
    ∃ answer, s.Outcome t r answer := by
  by_cases hmethod : r.method = .get ∨ r.method = .head
  · cases hsplit : Target.split? r.target.toList with
    | none =>
      exact ⟨_, .badTarget hmethod (Target.split?_eq_none_iff.mp hsplit)
        Response.isText_badRequest⟩
    | some parts =>
      obtain ⟨path, query⟩ := parts
      by_cases hbad : ∃ raw ∈ fields '/' path, Target.IsOffending raw
      · obtain ⟨raw, hraw, hbad⟩ := hbad
        exact ⟨_, .badSegment hmethod hsplit hraw hbad Response.isText_notFound⟩
      · exact exists_outcome_of_forall t hmethod hsplit fun raw hraw h => hbad ⟨raw, hraw, h⟩
  · rw [not_or] at hmethod
    exact ⟨_, .methodNotAllowed hmethod.1 hmethod.2 Response.isText_methodNotAllowed⟩

/-- **A request is answered as the table says, and every request has one outcome.** -/
theorem handle_eq_iff_outcome (s : Site) (t : FileTree) (r : Request)
    (answer : Option Response) : s.handle t r = answer ↔ s.Outcome t r answer := by
  constructor
  · rintro rfl
    obtain ⟨answer, h⟩ := s.exists_outcome t r
    rw [h.eq_handle]
    exact h
  · exact Outcome.eq_handle

end Site

/-! ### A file without an answer -/

/-- A tree with a file that was last changed on the first day of 1960. -/
def oldFile : FileTree :=
  (FileTree.empty.set [Utf8.encode "www"] .directory).set
    [Utf8.encode "www", Utf8.encode "a.txt"] (.file (Utf8.encode "x") (-315619200))

/-- The site with the old file below its root. -/
def Site.ofOldFile : Site :=
  { root := [Utf8.encode "www"], indexFiles := [], listing := true, types := .builtinOnly }

/-- The request for the old file. -/
def Request.forOldFile : Request :=
  { method := .get, target := "/a.txt", version := "HTTP/1.1", headers := Dict.empty, body := [] }

theorem Site.handle_forOldFile : ofOldFile.handle oldFile .forOldFile = none := by
  have hread : oldFile.read? [Utf8.encode "www", Utf8.encode "a.txt"] =
      some (Utf8.encode "x", -315619200) := by
    cbv
  have hparse : Target.parse Request.forOldFile.target =
      .ok { segments := ["a.txt"], rawPath := "/a.txt", query := none } := by
    cbv
  have hreaches : ofOldFile.Reaches oldFile
      (ofOldFile.components { segments := ["a.txt"], rawPath := "/a.txt", query := none })
      [Utf8.encode "www", Utf8.encode "a.txt"] :=
    ⟨by cbv, [Utf8.encode "a.txt"], rfl⟩
  have hnode : oldFile.node? [Utf8.encode "www", Utf8.encode "a.txt"] =
      some (.file (Utf8.encode "x") (-315619200)) := by
    cbv
  have hdate : HttpDate.format? (-315619200) = none := if_neg (by decide)
  obtain ⟨-, hhandle⟩ := handle_of_reaches (.inl rfl) hparse hreaches hnode
  rw [hhandle, if_neg (by rintro ⟨⟩), serveFile, hread]
  dsimp only
  rw [hdate]
  rfl

/-- **A file that can be read may have no answer.** -/
theorem Site.handle_oldFile :
    openRoot oldFile (Utf8.encode "/www") [] true .builtinOnly = .ok ofOldFile ∧
      oldFile.read? [Utf8.encode "www", Utf8.encode "a.txt"] =
        some (Utf8.encode "x", -315619200) ∧
      ofOldFile.handle oldFile .forOldFile = none := by
  refine ⟨?_, ?_, handle_forOldFile⟩
  · cbv
  · cbv

end PreviewServer
