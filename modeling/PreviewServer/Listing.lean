import PreviewServer.Files.Lookup
import PreviewServer.Text.Entity
import PreviewServer.Text.Order
import PreviewServer.Text.Percent
import PreviewServer.Unicode.Lowercase

/-!
# Directory listings

A listing is a page that names the children of a directory, each as a link relative to the
directory itself.  The entries are sorted by their names in lower case; the sort is stable, so
children whose lower-case names are equal stay in the order of enumeration.  A name is shown as
text with entities, and its link is percent-escaped as one segment of a path.
-/

namespace PreviewServer

/-- A line of a listing. -/
structure Entry where
  /-- The name, as text. -/
  name : String
  /-- Whether it leads to a directory. -/
  isDirectory : Bool
  deriving DecidableEq, Repr

namespace Listing

/-! ### Entries -/

/-- Whether a child of a directory is a directory, links followed from the components that lead to
the directory.  A child whose path cannot be followed is judged by itself, so a link that leads
nowhere is none. -/
def leadsToDirectoryFrom (t : FileTree) (components : List Name) (dir : Path) (name : Name) : Bool :=
  match t.lookup (components ++ [name]) with
  | .ok (_, n) => n = .directory
  | .error _ => t.isDirectory (dir ++ [name])

/-- Whether a child of the directory at a canonical path is a directory, links followed. -/
def leadsToDirectory (t : FileTree) (dir : Path) (name : Name) : Bool :=
  leadsToDirectoryFrom t dir dir name

/-- The entry of a child, seen from the components that lead to its directory. -/
def entryFrom (t : FileTree) (components : List Name) (dir : Path) (name : Name) : Entry :=
  { name := Utf8.decodeLossy name, isDirectory := leadsToDirectoryFrom t components dir name }

/-- The entry of a child of the directory at a canonical path. -/
def entry (t : FileTree) (dir : Path) (name : Name) : Entry := entryFrom t dir dir name

/-- The name by which an entry is sorted. -/
def sortKey (e : Entry) : String := Unicode.lowercase e.name

/-- Entries in the order of their lower-case names. -/
def sort (es : List Entry) : List Entry := es.mergeSort fun a b => leText (sortKey a) (sortKey b)

/-- The entries of a directory, in the order in which they are shown, seen from the components that
lead to it. -/
def entriesFrom (t : FileTree) (components : List Name) (dir : Path) : List Entry :=
  sort ((t.children dir).map (entryFrom t components dir))

/-- The entries of the directory at a canonical path, in the order in which they are shown. -/
def entries (t : FileTree) (dir : Path) : List Entry := entriesFrom t dir dir

/-! ### The page -/

/-- What follows the name of an entry: a slash if it leads to a directory. -/
def suffix (e : Entry) : String := if e.isDirectory then "/" else ""

/-- The link to an entry, relative to its directory. -/
def link (e : Entry) : String := Entity.escape (Percent.encode Percent.segment e.name) ++ suffix e

/-- The line of an entry. -/
def line (e : Entry) : String :=
  "<li><a href=\"" ++ link e ++ "\">" ++ Entity.escape e.name ++ suffix e ++ "</a></li>\n"

/-- The title of the page for a directory shown as `display`. -/
def title (display : String) : String := "Directory listing for " ++ Entity.escape display

/-- The page before its entries. -/
def opening (display : String) : String :=
  "<!DOCTYPE html>\n<html>\n<head>\n<meta charset=\"utf-8\">\n<title>" ++ title display ++
    "</title>\n</head>\n<body>\n<h1>" ++ title display ++ "</h1>\n<hr>\n<ul>\n"

/-- The page after its entries. -/
def closing : String := "</ul>\n<hr>\n</body>\n</html>\n"

/-- The page with these entries. -/
def page (display : String) (es : List Entry) : String :=
  opening display ++ String.join (es.map line) ++ closing

/-- The page of the directory that components lead to, shown as `display`. -/
def render (t : FileTree) (components : List Name) (display : String) : Except PathError String :=
  match t.lookup components with
  | .error e => .error e
  | .ok (dir, .directory) =>
    if t.isLocked dir then .error .notReadable
    else .ok (page display (entriesFrom t components dir))
  | .ok _ => .error .notADirectory

end Listing

end PreviewServer
