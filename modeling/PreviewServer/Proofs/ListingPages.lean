import PreviewServer.Listing

/-!
# What a listing shows

A listing has one line for each child of its directory.  The order of the lines depends on the names
alone (`entries_eq_map`), so two trees in which a directory has the same children have listings that
differ at most in the marks of directories; and every mark is to be seen (`page_entries_eq_iff`).
-/

namespace PreviewServer

namespace Listing

/-- The names of the children of a directory, in the order in which they are shown. -/
def shownNames (t : FileTree) (dir : Path) : List Name :=
  (t.children dir).mergeSort fun a b =>
    leText (Unicode.lowercase (Utf8.decodeLossy a)) (Unicode.lowercase (Utf8.decodeLossy b))

theorem mem_shownNames {t : FileTree} {dir : Path} {name : Name} :
    name ∈ shownNames t dir ↔ name ∈ t.children dir :=
  List.mem_mergeSort

/-- The entries of a directory are those of its children in order. -/
theorem entriesFrom_eq_map (t : FileTree) (components : List Name) (dir : Path) :
    entriesFrom t components dir = (shownNames t dir).map (entryFrom t components dir) := by
  rw [entriesFrom, sort, shownNames, List.map_mergeSort]
  intro a _ b _
  rfl

theorem entries_eq_map (t : FileTree) (dir : Path) :
    entries t dir = (shownNames t dir).map (entry t dir) :=
  entriesFrom_eq_map t dir dir

theorem entry_eq (t : FileTree) (dir : Path) (name : Name) :
    entry t dir name =
      { name := Utf8.decodeLossy name, isDirectory := leadsToDirectory t dir name } :=
  rfl

/-- The characters of the mark of a directory. -/
def mark (isDirectory : Bool) : List Char := if isDirectory then ['/'] else []

theorem toList_suffix (name : String) (isDirectory : Bool) :
    (suffix { name := name, isDirectory := isDirectory }).toList = mark isDirectory := by
  have hslash : "/".toList = ['/'] := rfl
  have hnone : "".toList = [] := rfl
  cases isDirectory with
  | true => exact hslash
  | false => exact hnone

/-- A line has its mark twice, and the first time in front of a quotation mark. -/
theorem exists_toList_line (name : String) :
    ∃ p q e : List Char, ∀ isDirectory, (line { name := name, isDirectory := isDirectory }).toList =
      p ++ (mark isDirectory ++ '"' :: (q ++ (mark isDirectory ++ e))) := by
  have hquote : "\">".toList = ['"', '>'] := rfl
  unfold line link
  generalize "\">" = quote at hquote ⊢
  generalize "<li><a href=\"" = opening
  generalize "</a></li>\n" = closing
  refine ⟨(opening ++ Entity.escape (Percent.encode Percent.segment name)).toList,
    '>' :: (Entity.escape name).toList, closing.toList, fun isDirectory => ?_⟩
  simp only [String.toList_append, toList_suffix, hquote, List.append_assoc, List.cons_append,
    List.nil_append]

/-- Two lines of one name begin alike only if they have the same mark. -/
theorem isDirectory_eq_of_line_append {name : String} {a b : Bool} {as bs : List Char}
    (h : (line { name := name, isDirectory := a }).toList ++ as =
      (line { name := name, isDirectory := b }).toList ++ bs) : a = b ∧ as = bs := by
  by_cases hab : a = b
  · rw [hab] at h
    exact ⟨hab, List.append_cancel_left h⟩
  · obtain ⟨p, q, e, hline⟩ := exists_toList_line name
    rw [hline a, hline b, List.append_assoc p, List.append_assoc p] at h
    have hrest := List.append_cancel_left h
    -- Behind the name stands a slash in one case and a quotation mark in the other.
    cases a <;> cases b
    · exact absurd rfl hab
    · exact absurd (List.cons.inj hrest).1 (by decide)
    · exact absurd (List.cons.inj hrest).1 (by decide)
    · exact absurd rfl hab

variable {t t' : FileTree} {dir : Path}

theorem leadsToDirectory_eq_of_join {names : List Name}
    (h : (String.join (names.map fun name => line (entry t dir name))).toList =
      (String.join (names.map fun name => line (entry t' dir name))).toList) :
    ∀ name ∈ names, leadsToDirectory t dir name = leadsToDirectory t' dir name := by
  induction names with
  | nil => exact nofun
  | cons name names ih =>
    rw [List.map_cons, List.map_cons, String.join_cons, String.join_cons, String.toList_append,
      String.toList_append] at h
    obtain ⟨hname, hnames⟩ := isDirectory_eq_of_line_append h
    intro other hother
    rcases List.mem_cons.mp hother with rfl | hother
    · exact hname
    · exact ih hnames other hother

/-- **Every mark is shown.**  Listings of the same children are the same if and only if all marks
are. -/
theorem page_entries_eq_iff (hchildren : t.children dir = t'.children dir) (display : String) :
    page display (entries t dir) = page display (entries t' dir) ↔
      ∀ name ∈ t.children dir, leadsToDirectory t dir name = leadsToDirectory t' dir name := by
  have hnames : shownNames t' dir = shownNames t dir := by rw [shownNames, shownNames, hchildren]
  rw [entries_eq_map, entries_eq_map, hnames]
  constructor
  · intro h name hname
    have hlist := congrArg String.toList h
    simp only [page, String.toList_append, List.map_map, List.append_cancel_left_eq,
      List.append_cancel_right_eq] at hlist
    exact leadsToDirectory_eq_of_join hlist name (mem_shownNames.mpr hname)
  · intro h
    congr 1
    apply List.map_congr_left
    intro name hname
    rw [entry_eq, entry_eq, h name (mem_shownNames.mp hname)]

end Listing

end PreviewServer
