import PreviewServer.Text.Percent
import PreviewServer.Text.Split
import PreviewServer.Url.Basic

/-!
# Request targets

A request target is a path with an optional query, or a complete URL of which only path and query
count.  `Target.parse` decodes the segments of the path, exactly once, and refuses those that could
lead out of the directory they are looked up in: afterwards no segment is empty, a dot or two dots,
and none contains a slash of either kind or a zero character.
-/

namespace PreviewServer

/-- A request target, decoded. -/
structure Target where
  /-- The decoded segments of the path, in order, without empty ones and dots. -/
  segments : List String
  /-- The path as written, without query and fragment. -/
  rawPath : String
  /-- The query without its question mark. -/
  query : Option String
  deriving DecidableEq, Repr

/-- Why a target is refused. -/
inductive TargetError where
  /-- It is neither a path nor a complete URL. -/
  | badForm
  /-- A segment is no text, so nothing can have this name. -/
  | notText
  /-- A segment would lead out of its directory. -/
  | escapesDirectory
  deriving DecidableEq, Repr

namespace Target

/-! ### Reading -/

/-- The starts of the URLs that are accepted as targets. -/
def urlStarts : List (List Char) := ["http://".toList, "https://".toList]

/-- The raw path and the query of a target. -/
def split? (target : List Char) : Option (List Char × Option (List Char)) :=
  if target.head? = some '/' then
    match cut? '?' (before '#' target) with
    | some (path, query) => some (path, some query)
    | none => some (before '#' target, none)
  else if urlStarts.any (·.isPrefixOf target) then
    (Url.parse? target).map fun u => (Url.pathText u.segments, u.query)
  else none

/-- The characters that no segment may contain once it is decoded. -/
def forbidden : List Char := ['/', '\x5c', '\x00']

/-- Decodes a segment that is not empty.  A dot is read as no segment. -/
def decodeSegment (raw : List Char) : Except TargetError (Option String) :=
  match Utf8.decode? (Percent.decode (Utf8.encode (String.ofList raw))) with
  | none => .error .notText
  | some s =>
    if s = "." then .ok none
    else if s = ".." ∨ s.toList.any forbidden.contains then .error .escapesDirectory
    else .ok (some s)

/-- Decodes segments from left to right; the first one that is refused decides. -/
def decodeSegments : List (List Char) → Except TargetError (List String)
  | [] => .ok []
  | [] :: raws => decodeSegments raws
  | raw :: raws =>
    match decodeSegment raw with
    | .error e => .error e
    | .ok segment =>
      match decodeSegments raws with
      | .error e => .error e
      | .ok segments => .ok (segment.toList ++ segments)

/-- Reads a target. -/
def parse (target : String) : Except TargetError Target :=
  match split? target.toList with
  | none => .error .badForm
  | some (path, query) =>
    match decodeSegments (fields '/' path) with
    | .error e => .error e
    | .ok segments =>
      .ok { segments := segments, rawPath := String.ofList path, query := query.map String.ofList }

/-! ### Writing -/

/-- Whether the target names a directory: its path ends in a slash. -/
def hasTrailingSlash (t : Target) : Bool := t.rawPath.toList.getLast? = some '/'

/-- The decoded path as people read it.  It starts with a slash, and ends with one if the target
names a directory. -/
def display (t : Target) : String :=
  "/" ++ String.intercalate "/" t.segments ++
    if t.segments ≠ [] ∧ t.hasTrailingSlash then "/" else ""

/-- The target that names the same thing as a directory.  It is written anew from the segments, so
that it starts with exactly one slash and stays on its host. -/
def directoryLocation (t : Target) : String :=
  "/" ++ String.join (t.segments.map fun s => Percent.encode Percent.segment s ++ "/") ++
    match t.query with
    | some q => "?" ++ q
    | none => ""

end Target

end PreviewServer
