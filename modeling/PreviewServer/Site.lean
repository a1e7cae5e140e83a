import PreviewServer.Http.Date
import PreviewServer.Http.Request
import PreviewServer.Http.Response
import PreviewServer.Listing
import PreviewServer.Media.Registry
import PreviewServer.Target

/-!
# Sites

A site serves the files below a document root.  A request's target leads to a node of the file
tree; a directory is answered with one of its index files or its listing, and any other node with
the bytes that come when it is read.  Whatever is served has a canonical path below the canonical
root: a link that leads out of the root is answered as if there were nothing (`Site.confine`).

There is no answer at all to a request for bytes whose time cannot be written as a date
(`Site.serveFile`).
-/

namespace PreviewServer

/-! ### Failures of a request -/

/-- Why a request is not served. -/
inductive ServeError where
  /-- The target is neither a path nor a complete URL. -/
  | badTarget
  /-- Nothing is there. -/
  | notFound
  /-- The target leads out of the root. -/
  | outsideRoot
  /-- Something is there and cannot be read. -/
  | unreadable
  deriving DecidableEq, Repr

namespace ServeError

/-- The answer to a failure.  Targets that lead out of the root are answered like those that lead
nowhere, so that nothing is told about what lies outside. -/
def toResponse : ServeError → Response
  | .badTarget => .badRequest
  | .notFound => .notFound
  | .outsideRoot => .notFound
  | .unreadable => .internalError

/-- The failure of a target that is refused. -/
def ofTarget : TargetError → ServeError
  | .badForm => .badTarget
  | .notText => .notFound
  | .escapesDirectory => .outsideRoot

end ServeError

/-! ### Opening a site -/

/-- Files served below a document root. -/
structure Site where
  /-- The canonical path of the document root. -/
  root : Path
  /-- The names tried in place of a directory, in order. -/
  indexFiles : List String
  /-- Whether directories without index file are listed. -/
  listing : Bool
  /-- The media types of files. -/
  types : Media.Registry

/-- Why a site cannot be opened. -/
inductive RootError where
  /-- The root as written leads nowhere. -/
  | notAccessible (root : Bytes)
  /-- The root is not a directory; this is its canonical path. -/
  | notADirectory (root : Path)
  deriving DecidableEq, Repr

/-- The wording of a root error. -/
def RootError.message : RootError → String
  | .notAccessible r => "document root " ++ Utf8.decodeLossy r ++ " is not accessible"
  | .notADirectory p => "document root " ++ Utf8.decodeLossy p.text ++ " is not a directory"

namespace Site

/-- Opens the site whose root is at a path as written, seen from the top of the tree. -/
def openRoot (t : FileTree) (root : Bytes) (indexFiles : List String) (listing : Bool)
    (types : Media.Registry) : Except RootError Site :=
  if root = [] then .error (.notAccessible root)
  else
    match t.canonicalize (componentsFrom [] root) with
    | .error _ => .error (.notAccessible root)
    | .ok p =>
      match t.lookup p with
      | .ok (_, .directory) =>
        .ok { root := p, indexFiles := indexFiles, listing := listing, types := types }
      | _ => .error (.notADirectory p)

/-! ### Serving -/

/-- The canonical path of the node that components lead to, if it is below the root. -/
def confine (s : Site) (t : FileTree) (components : List Name) : Except ServeError Path :=
  match t.canonicalize components with
  | .error _ => .error .notFound
  | .ok p => if s.root.isPrefixOf p then .ok p else .error .outsideRoot

/-- The answer with the bytes that come when the node at a path is read, its media type and the time
of its last change.  The answer is missing when that time cannot be written. -/
def serveFile (s : Site) (t : FileTree) (p : Path) : Except ServeError (Option Response) :=
  match t.read? p with
  | none => .error .unreadable
  | some (content, modified) =>
    .ok ((HttpDate.format? modified).map fun date =>
      (Response.ok (s.types.lookupName (p.getLast?.getD [])) content).withHeader
        "Last-Modified" date)

/-- The components of an index file of a directory. -/
def candidate (dir : Path) (index : String) : List Name := componentsFrom dir (Utf8.encode index)

/-- Whether an index file is there: a regular file, links followed. -/
def isIndex (t : FileTree) (dir : Path) (index : String) : Bool :=
  match t.lookup (candidate dir index) with
  | .ok (_, .file _ _) => true
  | _ => false

/-- The answer for a directory: the first index file that is there, or else the listing. -/
def serveDirectory (s : Site) (t : FileTree) (dir : Path) (display : String) :
    Except ServeError (Option Response) :=
  match s.indexFiles.find? (isIndex t dir) with
  | some index =>
    -- The first one that is there decides, also if it leads out of the root.
    match s.confine t (candidate dir index) with
    | .error e => .error e
    | .ok p => s.serveFile t p
  | none =>
    if s.listing then
      match Listing.render t dir display with
      | .ok page => .ok (some (Response.ok "text/html; charset=utf-8" (Utf8.encode page)))
      | .error _ => .error .unreadable
    else .error .notFound

/-- The components that a target leads to. -/
def components (s : Site) (target : Target) : List Name :=
  s.root ++ target.segments.map Utf8.encode

/-- The answer to a target.  A directory is served under a path with a slash at its end only, so
that relative links work; otherwise the client is sent there. -/
def serveTarget (s : Site) (t : FileTree) (target : Target) :
    Except ServeError (Option Response) :=
  match s.confine t (s.components target) with
  | .error e => .error e
  | .ok p =>
    -- The confined path is read again from here on.
    match t.lookup p with
    | .error _ => .error .notFound
    | .ok (_, .directory) =>
      if target.hasTrailingSlash then s.serveDirectory t p target.display
      else .ok (some (Response.movedPermanently target.directoryLocation))
    | .ok _ => s.serveFile t p

/-- The answer to a target as written. -/
def serve (s : Site) (t : FileTree) (target : String) : Except ServeError (Option Response) :=
  match Target.parse target with
  | .error e => .error (.ofTarget e)
  | .ok target => s.serveTarget t target

/-- The answer to a request, if there is one.  The body of a `HEAD` request is left out only when it
is sent. -/
def handle (s : Site) (t : FileTree) (r : Request) : Option Response :=
  if r.method.isServable then
    match s.serve t r.target with
    | .ok response => response
    | .error e => some e.toResponse
  else some .methodNotAllowed

end Site

end PreviewServer
