import PreviewServer.Files.Tree

/-!
# Following paths

A path as a program writes it is a list of components, among them empty ones, `.`, `..` and names
of links.  `FileTree.follow` walks it from the top and arrives at the canonical path of a node:
empty components and `.` stay, `..` goes up (and stays at the top), and a link continues with the
path it points at.  Every component but the last has to be a directory, also where only an empty
component follows, so a path that ends in a slash leads to a directory or nowhere.

At most forty links are followed, which also ends every walk in a circle of links.

A path is either followed as a whole (`FileTree.follow`), when the text that is written is limited
in its length, or found out place by place (`FileTree.canonicalize`), when each place on the way is.
-/

namespace PreviewServer

/-! ### Paths as written -/

/-- Whether a path starts at the top, wherever it is used. -/
def isAbsolute (text : Bytes) : Bool := text.head? = some slash

/-- The components of a path as written, seen from a directory: a path that begins with a slash
starts at the top. -/
def componentsFrom (dir : Path) (text : Bytes) : List Name :=
  if isAbsolute text then fields slash text.tail else dir ++ fields slash text

/-- The components without those at the end that stay where they are. -/
def withoutTrailing (components : List Name) : List Name :=
  (components.reverse.dropWhile fun c => c = [] ∨ c = dot).reverse

/-! ### Walking -/

/-- Why a path leads nowhere. -/
inductive PathError where
  /-- A component does not exist. -/
  | notFound
  /-- A component that is not the last one is no directory. -/
  | notADirectory
  /-- Too many links were followed. -/
  | tooManyLinks
  /-- A component or the whole path is too long. -/
  | nameTooLong
  /-- The path contains a zero byte. -/
  | invalid
  /-- What is there refuses to be read. -/
  | notReadable
  deriving DecidableEq, Repr

/-- How many links may be followed on one walk. -/
def maxLinks : Nat := 40

/-- The longest path as written, in bytes. -/
def maxPathLength : Nat := 4095

namespace FileTree

/-- The length of a path with these components from the top, in bytes. -/
def writtenLength (components : List Name) : Nat :=
  components.foldl (fun n c => n + c.length + 1) 0

/-- Walks on from the canonical path `here` along `todo`, following at most `links` links, and
tells the canonical path at the end. -/
def walk (t : FileTree) (links : Nat) (here : Path) (todo : List Name) : Except PathError Path :=
  match todo with
  | [] => .ok here
  | c :: rest =>
    if t.node? here = some .directory then
      if c = [] ∨ c = dot then walk t links here rest
      else if c = dotDot then walk t links here.dropLast rest
      -- A name that nothing can have is not looked for.
      else if maxNameLength < c.length then .error .nameTooLong
      else
        match t.node? (here ++ [c]) with
        | none => .error .notFound
        | some (.link target) =>
          match links with
          | 0 => .error .tooManyLinks
          | links + 1 =>
            -- The rest of the path goes on from where the link points.
            if target = [] then .error .notFound
            else if isAbsolute target then walk t links [] (fields slash target ++ rest)
            else walk t links here (fields slash target ++ rest)
        | some _ => walk t links (here ++ [c]) rest
    else .error .notADirectory
termination_by (links, todo.length)

/-- The canonical path of the node that these components lead to from the top. -/
def follow (t : FileTree) (components : List Name) : Except PathError Path :=
  if components.any (·.contains 0) then .error .invalid
  else if maxPathLength < writtenLength components then .error .nameTooLong
  else walk t maxLinks [] components

/-- The node that these components lead to, with its canonical path. -/
def lookup (t : FileTree) (components : List Name) : Except PathError (Path × Node) :=
  match t.follow components with
  | .error e => .error e
  | .ok p =>
    match t.node? p with
    | some n => .ok (p, n)
    | none => .error .notFound

/-- The part of the tree whose canonical paths can be written down. -/
def writable (t : FileTree) : FileTree :=
  { nodes := t.nodes.filterKeys fun p => writtenLength p ≤ maxPathLength
    locked := t.locked
    names_ok := fun p hp => t.names_ok p (Dict.mem_keys_filterKeys.mp hp).1 }

/-- The canonical path of the node that these components lead to.  It is put together component by
component, and each place on the way is looked at under its own path from the top, so it has to have
one that can be written.  How long the components are together does not matter. -/
def canonicalize (t : FileTree) (components : List Name) : Except PathError Path :=
  if components.any (·.contains 0) then .error .invalid
  else t.writable.walk maxLinks [] components

/-- The bytes that come when the node that these components lead to is read, and the time of its
last change. -/
def read? (t : FileTree) (components : List Name) : Option (Bytes × Int) :=
  match t.lookup components with
  | .ok (p, n) => if t.isLocked p then none else n.content?
  | .error _ => none

/-- The bytes that come when a path as written is read, seen from the top. -/
def content? (t : FileTree) (text : Bytes) : Option Bytes :=
  if text = [] then none else (t.read? (componentsFrom [] text)).map Prod.fst

/-! ### Placing nodes -/

/-- The canonical path of a directory, which is made with its parents where it does not exist. -/
def makeDirectories (t : FileTree) (here : Path) : List Name → FileTree × Path
  | [] => (t, here)
  | c :: rest =>
    match t.follow (here ++ [c]) with
    | .ok p => makeDirectories t p rest
    | .error _ => makeDirectories (t.set (here ++ [c]) .directory) (here ++ [c]) rest

/-- The tree with this node at a path as written, seen from a directory; parents are made as
needed. -/
def put (t : FileTree) (dir : Path) (text : Bytes) (n : Node) : FileTree :=
  let components := withoutTrailing (componentsFrom dir text)
  match components.getLast? with
  | none => t
  | some name =>
    let (t, parent) := makeDirectories t [] components.dropLast
    t.set (parent ++ [name]) n

/-- The tree without the node at a path as written, seen from a directory. -/
def erase (t : FileTree) (dir : Path) (text : Bytes) : FileTree :=
  let components := withoutTrailing (componentsFrom dir text)
  match components.getLast?, t.follow components.dropLast with
  | some name, .ok parent => t.remove (parent ++ [name])
  | _, _ => t

end FileTree

end PreviewServer
