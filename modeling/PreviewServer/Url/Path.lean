import PreviewServer.Text.Percent
import PreviewServer.Text.Split

/-!
# Paths of URLs

The path of a URL that is read in full is brought into a normal form: its segments are escaped
where they have to be, a backslash counts as a slash, and the segments `.` and `..` are carried
out, also where their dots are escaped.  A segment that looks like a drive letter is never taken
back by a `..` after it.
-/

namespace PreviewServer

namespace Url

/-- A segment of a path, escaped. -/
abbrev Segment := List Char

/-! ### Dots -/

/-- The spellings of a dot. -/
def dots : List Segment := [['.'], "%2e".toList, "%2E".toList]

/-- Whether a segment stays where it is. -/
def isSingleDot (s : Segment) : Bool := dots.contains s

/-- Whether a segment goes up. -/
def isDoubleDot (s : Segment) : Bool := dots.any fun a => dots.any fun b => s = a ++ b

/-- Whether a segment is a letter with a colon or a bar. -/
def isDriveLetter : Segment → Bool
  | [c, d] => c.isAlpha && (d = ':' || d = '|')
  | _ => false

/-- The segments without the last one, unless that is a drive letter. -/
def dropSegment (done : List Segment) : List Segment :=
  match done.getLast? with
  | some s => if isDriveLetter s then done else done.dropLast
  | none => []

/-- Carries out the dots of further segments behind the finished ones.  Dots at the end leave an
empty segment, so that the path names a directory. -/
def resolveDots (done : List Segment) : List Segment → List Segment
  | [] => done
  | [s] =>
    if isDoubleDot s then dropSegment done ++ [[]]
    else if isSingleDot s then done ++ [[]]
    else done ++ [s]
  | s :: rest =>
    if isDoubleDot s then resolveDots (dropSegment done) rest
    else if isSingleDot s then resolveDots done rest
    else resolveDots (done ++ [s]) rest

/-- Segments that are no dots stay. -/
theorem resolveDots_of_forall {done todo : List Segment}
    (h : ∀ s ∈ todo, isSingleDot s = false ∧ isDoubleDot s = false) :
    resolveDots done todo = done ++ todo := by
  fun_induction resolveDots done todo with
  | case1 done => exact (List.append_nil done).symm
  | case2 done s hup => exact absurd hup (Bool.eq_false_iff.mp (h s List.mem_cons_self).2)
  | case3 done s hup hstay => exact absurd hstay (Bool.eq_false_iff.mp (h s List.mem_cons_self).1)
  | case4 done s hup hstay => rfl
  | case5 done s rest hne hup ih =>
    exact absurd hup (Bool.eq_false_iff.mp (h s List.mem_cons_self).2)
  | case6 done s rest hne hup hstay ih =>
    exact absurd hstay (Bool.eq_false_iff.mp (h s List.mem_cons_self).1)
  | case7 done s rest hne hup hstay ih =>
    rw [ih (List.forall_mem_cons.mp h).2, List.append_assoc, List.singleton_append]

/-! ### Reading a path -/

/-- The text of a path: a slash before each segment. -/
def pathText (segments : List Segment) : List Char := segments.flatMap fun s => '/' :: s

/-- Reads the segments of a path that stands behind the authority.  The slash before the first
segment may be missing. -/
def readPath (text : List Char) : List Segment :=
  let text := text.map fun c => if c = '\x5c' then '/' else c
  let text :=
    match text with
    | '/' :: rest => rest
    | rest => rest
  resolveDots [] ((fields '/' text).map fun s =>
    Percent.encodeBytes Percent.path (Utf8.encode (String.ofList s)))

end Url

end PreviewServer
