import PreviewServer.Proofs.RelativeLinks

/-!
# What is written on a listing can be read from it

To a browser a page is a list of tags with text between them.  `Tag.readAll?` cuts a page at its
angle brackets, and gives back the tags that a page was written with if they contain none of their
own (`Tag.readAll?_written`).  The tags of a listing are those of its frame, which are the same on
every listing, and four for each entry (`Listing.readAll?_page`): a name, whatever it is, and the
path of the directory add none, since both are escaped.

So the page can be read back (`Listing.read?_page`).  The path stands behind the tag of the title.
An entry is read from the tag of its link: a name contains no slash once it is escaped as a segment,
so a slash in front of the closing quotation mark is the mark of a directory.
-/

namespace PreviewServer

/-! ### Tags -/

/-- A tag of a page, with the text behind it. -/
structure Tag where
  /-- What stands between its angle brackets. -/
  content : List Char
  /-- What stands behind it, up to the next tag. -/
  text : List Char

namespace Tag

/-- The tags as they stand on a page. -/
def written (tags : List Tag) : List Char :=
  tags.flatMap fun t => '<' :: (t.content ++ '>' :: t.text)

/-- The tag that stands between one opening bracket and the next. -/
def ofPiece? (piece : List Char) : Option Tag :=
  (cut? '>' piece).map fun parts => { content := parts.1, text := parts.2 }

/-- Reads the tags of a page: every opening bracket starts one, which has to be closed before the
next one, and nothing stands before the first. -/
def readAll? (page : List Char) : Option (List Tag) :=
  match fields '<' page with
  | [] :: pieces => pieces.mapM ofPiece?
  | _ => none

/-- Whether a tag has no brackets but its own. -/
structure IsPlain (t : Tag) : Prop where
  /-- No other tag starts within it. -/
  open_not_mem_content : '<' ∉ t.content
  /-- It is not closed before its end. -/
  close_not_mem_content : '>' ∉ t.content
  /-- No tag starts in the text behind it. -/
  open_not_mem_text : '<' ∉ t.text

theorem written_append (ts us : List Tag) : written (ts ++ us) = written ts ++ written us :=
  List.flatMap_append

theorem written_cons (t : Tag) (ts : List Tag) :
    written (t :: ts) = '<' :: (t.content ++ '>' :: (t.text ++ written ts)) := by
  rw [written, List.flatMap_cons, List.cons_append, List.append_assoc, List.cons_append]
  rfl

/-- Between the opening brackets stand the tags that were written. -/
theorem fields_written {tags : List Tag} (h : ∀ t ∈ tags, t.IsPlain) :
    fields '<' (written tags) = [] :: tags.map fun t => t.content ++ '>' :: t.text := by
  have hpiece : ∀ piece ∈ tags.map fun t => t.content ++ '>' :: t.text, '<' ∉ piece := by
    intro piece hpiece
    obtain ⟨t, ht, rfl⟩ := List.mem_map.mp hpiece
    rw [List.mem_append, List.mem_cons, not_or, not_or]
    exact ⟨(h t ht).open_not_mem_content, by decide, (h t ht).open_not_mem_text⟩
  have hfields := fields_append_flatMap (List.not_mem_nil (a := '<')) hpiece
  rwa [List.flatMap_map, List.nil_append] at hfields

/-- **Tags are read as they were written.** -/
theorem readAll?_written {tags : List Tag} (h : ∀ t ∈ tags, t.IsPlain) :
    readAll? (written tags) = some tags := by
  have hpieces : (tags.map fun t => t.content ++ '>' :: t.text).mapM ofPiece? = some tags := by
    induction tags with
    | nil => rfl
    | cons t tags ih =>
      obtain ⟨ht, htags⟩ := List.forall_mem_cons.mp h
      have hpiece : ofPiece? (t.content ++ '>' :: t.text) = some t := by
        rw [ofPiece?, cut?_append ht.close_not_mem_content]
        rfl
      rw [List.map_cons, List.mapM_cons, hpiece, ih htags]
      rfl
  rw [readAll?, fields_written h]
  exact hpieces

end Tag

namespace Listing

/-! ### The tags of a listing -/

/-- Tags that each end their line. -/
def frame (contents : List String) : List Tag :=
  contents.map fun content => { content := content.toList, text := ['\n'] }

/-- The tags before the entries. -/
def openingTags (title : List Char) : List Tag :=
  frame ["!DOCTYPE html", "html", "head", "meta charset=\"utf-8\""] ++
    { content := "title".toList, text := title } :: (frame ["/title", "/head", "body"] ++
    { content := "h1".toList, text := title } :: frame ["/h1", "hr", "ul"])

/-- The tags of an entry: an item of the list, with a link in it. -/
def lineTags (e : Entry) : List Tag :=
  [{ content := "li".toList, text := [] },
   { content := "a href=\"".toList ++ (link e).toList ++ ['"'],
     text := Entity.escapeChars e.name.toList ++ mark e.isDirectory },
   { content := "/a".toList, text := [] },
   { content := "/li".toList, text := ['\n'] }]

/-- The tags behind the entries. -/
def closingTags : List Tag := frame ["/ul", "hr", "/body", "/html"]

/-- The tags of the page with these entries. -/
def pageTags (display : String) (es : List Entry) : List Tag :=
  openingTags (title display).toList ++ es.flatMap lineTags ++ closingTags

theorem toList_opening (display : String) :
    (opening display).toList = Tag.written (openingTags (title display).toList) := by
  have hhead : "<!DOCTYPE html>\n<html>\n<head>\n<meta charset=\"utf-8\">\n<title>".toList =
      Tag.written (frame ["!DOCTYPE html", "html", "head", "meta charset=\"utf-8\""]) ++
        '<' :: ("title".toList ++ ['>']) := by decide
  have hbody : "</title>\n</head>\n<body>\n<h1>".toList =
      Tag.written (frame ["/title", "/head", "body"]) ++ '<' :: ("h1".toList ++ ['>']) := by decide
  have hlist : "</h1>\n<hr>\n<ul>\n".toList = Tag.written (frame ["/h1", "hr", "ul"]) := by decide
  unfold opening openingTags
  rw [Tag.written_append, Tag.written_cons, Tag.written_append, Tag.written_cons, ← hlist]
  simp only [String.toList_append, hhead, hbody, List.append_assoc, List.cons_append,
    List.nil_append]

theorem toList_line (e : Entry) : (line e).toList = Tag.written (lineTags e) := by
  have hstart : "<li><a href=\"".toList =
      '<' :: ("li".toList ++ '>' :: '<' :: "a href=\"".toList) := by decide
  have hquote : "\">".toList = ['"', '>'] := by decide
  have hend : "</a></li>\n".toList =
      '<' :: ("/a".toList ++ '>' :: '<' :: ("/li".toList ++ ['>', '\n'])) := by decide
  have hsuffix : (suffix e).toList = mark e.isDirectory := toList_suffix e.name e.isDirectory
  have hnil : Tag.written [] = [] := rfl
  unfold line lineTags
  simp only [Tag.written_cons, hnil, String.toList_append, hstart, hquote, hend, hsuffix,
    Entity.toList_escape, List.append_assoc, List.cons_append, List.nil_append]

theorem toList_join_map_line (es : List Entry) :
    (String.join (es.map line)).toList = Tag.written (es.flatMap lineTags) := by
  induction es with
  | nil => rfl
  | cons e es ih =>
    rw [List.map_cons, String.join_cons, String.toList_append, toList_line, ih, List.flatMap_cons,
      Tag.written_append]

/-- A page consists of its tags. -/
theorem toList_page (display : String) (es : List Entry) :
    (page display es).toList = Tag.written (pageTags display es) := by
  have hclosing : closing.toList = Tag.written closingTags := by decide
  rw [page, pageTags, String.toList_append, String.toList_append, toList_opening,
    toList_join_map_line, hclosing, Tag.written_append, Tag.written_append]

/-! ### No other tags -/

theorem toList_link (e : Entry) :
    (link e).toList =
      Entity.escapeChars (Percent.encodeBytes Percent.segment (Utf8.encode e.name)) ++
        mark e.isDirectory := by
  have hsuffix : (suffix e).toList = mark e.isDirectory := toList_suffix e.name e.isDirectory
  rw [link, String.toList_append, Entity.toList_escape, Percent.encode, String.toList_ofList,
    hsuffix]

theorem toList_title (display : String) :
    (title display).toList = "Directory listing for ".toList ++
      Entity.escapeChars display.toList := by
  unfold title
  generalize "Directory listing for " = start
  rw [String.toList_append, Entity.toList_escape]

theorem isPlain_of_mem_frame {contents : List String}
    (h : ∀ content ∈ contents, '<' ∉ content.toList ∧ '>' ∉ content.toList) :
    ∀ t ∈ frame contents, t.IsPlain := by
  intro t ht
  obtain ⟨content, hcontent, rfl⟩ := List.mem_map.mp ht
  have hbreak : '<' ∉ ['\n'] := by decide
  exact ⟨(h content hcontent).1, (h content hcontent).2, hbreak⟩

theorem isPlain_of_mem_openingTags {display : String} :
    ∀ t ∈ openingTags (title display).toList, t.IsPlain := by
  have htitle : '<' ∉ (title display).toList := by
    rw [toList_title, List.mem_append, not_or]
    exact ⟨by decide, Entity.not_mem_escapeChars (by decide) _⟩
  have hname : ∀ name ∈ ["title", "h1"], '<' ∉ name.toList ∧ '>' ∉ name.toList := by decide
  have htitled : ∀ name ∈ ["title", "h1"],
      Tag.IsPlain { content := name.toList, text := (title display).toList } :=
    fun name hmem => ⟨(hname name hmem).1, (hname name hmem).2, htitle⟩
  rw [openingTags, List.forall_mem_append, List.forall_mem_cons, List.forall_mem_append,
    List.forall_mem_cons]
  exact ⟨isPlain_of_mem_frame (by decide), htitled _ (by decide),
    isPlain_of_mem_frame (by decide), htitled _ (by decide), isPlain_of_mem_frame (by decide)⟩

theorem isPlain_of_mem_lineTags {e : Entry} : ∀ t ∈ lineTags e, t.IsPlain := by
  have htext : ∀ d ∈ Entity.delimiters, ∀ cs, d ∉ Entity.escapeChars cs ++ mark e.isDirectory := by
    intro d hd cs
    have hslash : d ≠ '/' := by
      rintro rfl
      revert hd
      decide
    exact not_mem_append_mark hslash (Entity.not_mem_escapeChars hd cs) e.isDirectory
  have hlink : ∀ d ∈ Entity.delimiters, d ∉ "a href=\"".toList → d ≠ '"' →
      d ∉ "a href=\"".toList ++ (link e).toList ++ ['"'] := by
    intro d hd hstart hquote
    rw [toList_link, List.mem_append, List.mem_append, not_or, not_or, List.mem_singleton]
    exact ⟨⟨hstart, htext d hd _⟩, hquote⟩
  simp only [lineTags, List.forall_mem_cons]
  exact ⟨⟨by decide, by decide, List.not_mem_nil⟩,
    ⟨hlink _ (by decide) (by decide) (by decide), hlink _ (by decide) (by decide) (by decide),
      htext _ (by decide) _⟩,
    ⟨by decide, by decide, List.not_mem_nil⟩, ⟨by decide, by decide, by decide⟩,
    List.forall_mem_nil _⟩

/-- **A listing has no other tags.**  Neither the path nor a name adds one. -/
theorem readAll?_page (display : String) (es : List Entry) :
    Tag.readAll? (page display es).toList = some (pageTags display es) := by
  rw [toList_page]
  apply Tag.readAll?_written
  rw [pageTags, List.forall_mem_append, List.forall_mem_append]
  refine ⟨⟨isPlain_of_mem_openingTags, ?_⟩, isPlain_of_mem_frame (by decide)⟩
  intro t ht
  obtain ⟨e, -, ht⟩ := List.mem_flatMap.mp ht
  exact isPlain_of_mem_lineTags t ht

/-! ### Reading a listing -/

/-- The path that a tag shows, if it is the tag of the title. -/
def pathShownBy? (t : Tag) : Option String :=
  if t.content = "title".toList then
    some (String.ofList (Entity.unescapeChars (t.text.drop "Directory listing for ".toList.length)))
  else none

/-- The entry that a tag links to, if it is the tag of a link.  A slash at the end of the link marks
a directory, and stands also behind the name. -/
def entryShownBy? (t : Tag) : Option Entry :=
  if "a href=\"".toList.isPrefixOf t.content then
    let isDirectory := ['/', '"'].isSuffixOf t.content
    let name := if isDirectory then t.text.dropLast else t.text
    some { name := String.ofList (Entity.unescapeChars name), isDirectory := isDirectory }
  else none

/-- Reads a listing: the path of its directory, and its entries in order. -/
def read? (page : String) : Option (String × List Entry) :=
  match Tag.readAll? page.toList with
  | none => none
  | some tags => (tags.findSome? pathShownBy?).map fun path => (path, tags.filterMap entryShownBy?)

theorem findSome?_pathShownBy?_pageTags (display : String) (es : List Entry) :
    (pageTags display es).findSome? pathShownBy? = some display := by
  have hframe : (frame ["!DOCTYPE html", "html", "head", "meta charset=\"utf-8\""]).findSome?
      pathShownBy? = none := by decide
  have htitle : pathShownBy? { content := "title".toList, text := (title display).toList } =
      some display := by
    rw [pathShownBy?, if_pos rfl]
    dsimp only
    rw [toList_title, List.drop_left, Entity.unescapeChars_escapeChars, String.ofList_toList]
  rw [pageTags, openingTags, List.append_assoc, List.append_assoc, List.findSome?_append, hframe,
    List.cons_append, List.findSome?_cons, htitle]
  rfl

theorem filterMap_entryShownBy?_frame {contents : List String}
    (h : ∀ content ∈ contents, "a href=\"".toList.isPrefixOf content.toList = false) :
    (frame contents).filterMap entryShownBy? = [] := by
  rw [List.filterMap_eq_nil_iff]
  intro t ht
  obtain ⟨content, hcontent, rfl⟩ := List.mem_map.mp ht
  rw [entryShownBy?, h content hcontent]
  rfl

theorem filterMap_entryShownBy?_openingTags (title : List Char) :
    (openingTags title).filterMap entryShownBy? = [] := by
  have htitled : ∀ name ∈ ["title", "h1"],
      entryShownBy? { content := name.toList, text := title } = none := by
    have hname : ∀ name ∈ ["title", "h1"],
      "a href=\"".toList.isPrefixOf name.toList = false := by decide
    intro name hmem
    rw [entryShownBy?, hname name hmem]
    rfl
  rw [openingTags, List.filterMap_append, filterMap_entryShownBy?_frame (by decide),
    List.filterMap_cons_none (htitled _ (by decide)), List.filterMap_append,
    filterMap_entryShownBy?_frame (by decide), List.filterMap_cons_none (htitled _ (by decide)),
    filterMap_entryShownBy?_frame (by decide)]
  rfl

/-- The slash at the end of a link is the mark of a directory, for the escaped name contains
none. -/
theorem isSuffixOf_link (e : Entry) :
    ['/', '"'].isSuffixOf ("a href=\"".toList ++ (link e).toList ++ ['"']) = e.isDirectory := by
  have hstart : '/' ∉ "a href=\"".toList := by decide
  generalize "a href=\"".toList = start at hstart
  have hname :
      '/' ∉ Entity.escapeChars (Percent.encodeBytes Percent.segment (Utf8.encode e.name)) := by
    intro hmem
    have hplain := Entity.mem_of_mem_escapeChars (by decide) hmem
    exact Percent.not_mem_segment (.inl rfl) _ hplain
  rw [toList_link]
  generalize Entity.escapeChars _ = name at hname
  cases e.isDirectory with
  | true =>
    rw [List.isSuffixOf_iff_suffix]
    exact ⟨start ++ name, by simp [mark]⟩
  | false =>
    -- Without a mark the slash would be one of the escaped name.
    rw [Bool.eq_false_iff, ne_eq, List.isSuffixOf_iff_suffix]
    rintro ⟨front, hfront⟩
    have hconcat : front ++ ['/'] ++ ['"'] = start ++ name ++ ['"'] := by
      rw [List.append_assoc]
      rwa [mark, if_neg Bool.false_ne_true, List.append_nil] at hfront
    have hmem : '/' ∈ start ++ name := by
      rw [← List.append_cancel_right hconcat]
      exact List.mem_append_right front List.mem_cons_self
    exact (List.mem_append.mp hmem).elim hstart hname

/-- **The tags of an entry show this entry.** -/
theorem filterMap_entryShownBy?_lineTags (e : Entry) :
    (lineTags e).filterMap entryShownBy? = [e] := by
  have hitem : entryShownBy? { content := "li".toList, text := [] } = none := by decide
  have hlink : entryShownBy?
      { content := "a href=\"".toList ++ (link e).toList ++ ['"']
        text := Entity.escapeChars e.name.toList ++ mark e.isDirectory } = some e := by
    have hstart : "a href=\"".toList.isPrefixOf
        ("a href=\"".toList ++ (link e).toList ++ ['"']) = true := by
      rw [List.isPrefixOf_iff_prefix, List.append_assoc]
      exact List.prefix_append _ _
    have hname : (if e.isDirectory then
          (Entity.escapeChars e.name.toList ++ mark e.isDirectory).dropLast
        else Entity.escapeChars e.name.toList ++ mark e.isDirectory) =
        Entity.escapeChars e.name.toList := by
      cases e.isDirectory with
      | true => exact List.dropLast_concat
      | false => exact List.append_nil _
    rw [entryShownBy?, if_pos hstart]
    dsimp only
    rw [isSuffixOf_link, hname, Entity.unescapeChars_escapeChars, String.ofList_toList]
  have hend : [({ content := "/a".toList, text := [] } : Tag),
      { content := "/li".toList, text := ['\n'] }].filterMap entryShownBy? = [] := by decide
  rw [lineTags, List.filterMap_cons_none hitem, List.filterMap_cons_some hlink, hend]

/-- **A listing can be read back**, whatever its path and its names are. -/
theorem read?_page (display : String) (es : List Entry) :
    read? (page display es) = some (display, es) := by
  have hentries : (pageTags display es).filterMap entryShownBy? = es := by
    have hlines : (es.flatMap lineTags).filterMap entryShownBy? = es := by
      induction es with
      | nil => rfl
      | cons e es ih =>
        rw [List.flatMap_cons, List.filterMap_append, filterMap_entryShownBy?_lineTags, ih]
        rfl
    rw [pageTags, List.filterMap_append, List.filterMap_append, filterMap_entryShownBy?_openingTags,
      hlines, closingTags, filterMap_entryShownBy?_frame (by decide), List.append_nil,
      List.nil_append]
  rw [read?, readAll?_page]
  dsimp only
  rw [findSome?_pathShownBy?_pageTags, hentries]
  rfl

/-- **A listing cannot be injected into, and loses nothing.**  Escaped text contains none of the
characters that delimit tags and attributes, and no ampersand but those that start one of the five
entities; replacing the characters one after another, the ampersand first, writes the same; and
undoing the entities gives the text back.  So, whatever the path of a directory and the names of its
entries are, the tags of the page are those of its frame and those of the entries in order, the page
is read back as its path and its entries, and no other path or entries have the same page. -/
theorem escape_spec_and_read?_page :
    (∀ s : String,
      (∀ d ∈ Entity.delimiters, d ∉ (Entity.escape s).toList) ∧
      (∀ a b, (Entity.escape s).toList = a ++ '&' :: b → ∃ e ∈ Entity.entities, e.2 <+: '&' :: b) ∧
      (Entity.escape s).toList = Entity.entities.foldl Entity.replaceAll s.toList ∧
      Entity.unescapeChars (Entity.escape s).toList = s.toList) ∧
    ∀ (display : String) (es : List Entry),
      Tag.readAll? (page display es).toList =
        some (openingTags (title display).toList ++ es.flatMap lineTags ++ closingTags) ∧
      read? (page display es) = some (display, es) ∧
      ∀ (display' : String) (es' : List Entry),
        page display es = page display' es' ↔ display = display' ∧ es = es' := by
  constructor
  · intro s
    rw [Entity.toList_escape]
    exact ⟨fun d hd => Entity.not_mem_escapeChars hd _,
      fun a b => Entity.exists_entity_of_escapeChars_eq,
      Entity.escapeChars_eq_foldl_replaceAll _, Entity.unescapeChars_escapeChars _⟩
  · intro display es
    refine ⟨readAll?_page display es, read?_page display es, fun display' es' => ?_⟩
    constructor
    · intro heq
      have hread := read?_page display es
      rw [heq, read?_page] at hread
      cases hread
      exact ⟨rfl, rfl⟩
    · rintro ⟨rfl, rfl⟩
      rfl

/-- A path that looks escaped already, and a name that would end its link. -/
theorem read?_page_hostile :
    '"' ∉ (Entity.escape "\" onclick=\"").toList ∧
      (∃ e ∈ Entity.entities, e.2 <+: "&amp;lt;".toList) ∧
      read? (page "/&lt;/" [{ name := "\"><b>&", isDirectory := true }]) =
        some ("/&lt;/", [{ name := "\"><b>&", isDirectory := true }]) := by
  obtain ⟨hescape, hpage⟩ := escape_spec_and_read?_page
  have hlt : (Entity.escape "&lt;").toList = [] ++ '&' :: "amp;lt;".toList := by decide
  exact ⟨(hescape _).1 _ (by decide), (hescape "&lt;").2.1 _ _ hlt, (hpage _ _).2.1⟩

end Listing

end PreviewServer
