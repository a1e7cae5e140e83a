import PreviewServer.Settings
import Mathlib

/-!
# The values of a document

A document with settings is a mapping from texts to values.  What a value is does not depend on
anchors and aliases: `Yaml.Node.outline` shows a node with every alias replaced by what it stands
for, and `Settings.values?` gives the keys of a document with the outlines of their values.

`Settings.IsSettings` says which settings such keys and values give, field by field: a field has the
value of its key if the key is there and the default otherwise, and neither the order of the keys
nor other keys occur in it.  `Settings.ofText?_eq_some_iff` shows that these are the settings that a
text is read as.  It takes one lemma for each kind of value, that it is the same for a node and for
its outline, and one for a field that occurs at most once (`Settings.fieldD_eq_some_iff`).
-/

namespace PreviewServer

namespace Yaml

/-! ### Nodes without aliases -/

/-- What stands at a node, down to some depth and without anchors. -/
inductive Outline where
  /-- A scalar. -/
  | scalar (tag : Option Bytes) (style : Style) (text : List Char)
  /-- A sequence. -/
  | sequence (items : List Outline)
  /-- A mapping. -/
  | mapping (entries : List (Outline × Outline))
  /-- An alias that stands for nothing. -/
  | unknown
  /-- What lies too deep. -/
  | deeper

/-- The outline of a node down to some depth, with what aliases stand for in their places. -/
def Node.outline (document : Node) : Nat → Node → Outline
  | 0, _ => .deeper
  | _ + 1, .scalar _ tag style text => .scalar tag style text
  | depth + 1, .sequence _ items =>
    .sequence (items.map fun i => outline document depth (document.deref i))
  | depth + 1, .mapping _ entries =>
    .mapping (entries.map fun e =>
      (outline document depth (document.deref e.1), outline document depth (document.deref e.2)))
  | _ + 1, .alias _ => .unknown

end Yaml

namespace Settings

open Yaml (Outline)

/-! ### Kinds of values -/

/-- The text of a scalar. -/
def textOf? : Outline → Option String
  | .scalar _ _ text => some (String.ofList text)
  | _ => none

/-- The value of a flag. -/
def flagOf? : Outline → Option Bool
  | .scalar tag style text =>
    if style = .plain ∨ (style = .literal ∧ tag = some flagTag) then
      flagOfWord? (String.ofList text)
    else none
  | _ => none

/-- The texts of a list; nothing at all is the empty list. -/
def textsOf? : Outline → Option (List String)
  | .sequence items => items.mapM textOf?
  | .scalar _ .plain [] => some []
  | _ => none

/-- The texts of a table; nothing at all is the empty table. -/
def tableOf? : Outline → Option (Dict String String)
  | .mapping entries =>
    (entries.mapM fun e => (textOf? e.1).bind fun key => (textOf? e.2).map fun text =>
      (key, text)).map Dict.ofList
  | .scalar _ .plain [] => some Dict.empty
  | _ => none

variable {document : Yaml.Node}

theorem textOf?_outline (depth : Nat) (n : Yaml.Node) :
    textOf? (document.outline (depth + 1) n) = text? n := by
  cases n <;> rfl

theorem flagOf?_outline (depth : Nat) (n : Yaml.Node) :
    flagOf? (document.outline (depth + 1) n) = flag? n := by
  cases n <;> rfl

theorem textsOf?_outline (depth : Nat) (n : Yaml.Node) :
    textsOf? (document.outline (depth + 2) n) = texts? document n := by
  cases n with
  | scalar anchor tag style text => cases style <;> cases text <;> rfl
  | sequence anchor items =>
    have htext : textOf? ∘ (fun i => document.outline (depth + 1) (document.deref i)) =
        fun i => text? (document.deref i) := funext fun i => textOf?_outline depth _
    rw [Yaml.Node.outline, textsOf?, List.mapM_map, htext]
    rfl
  | mapping anchor entries => rfl
  | «alias» anchor => rfl

/-- Two passes over a list, of which each may fail, are one. -/
theorem mapM_bind_mapM {α β γ : Type} (f : α → Option β) (g : β → Option γ) (xs : List α) :
    ((xs.mapM f).bind fun ys => ys.mapM g) = xs.mapM fun x => (f x).bind g := by
  induction xs with
  | nil => rfl
  | cons x xs ih =>
    simp only [List.mapM_cons, ← ih]
    cases f x with
    | none => rfl
    | some y =>
      cases xs.mapM f with
      | none => cases h : g y <;> simp [h]
      | some ys => simp

theorem tableOf?_outline (depth : Nat) (n : Yaml.Node) :
    tableOf? (document.outline (depth + 2) n) = table? document n := by
  cases n with
  | scalar anchor tag style text => cases style <;> cases text <;> rfl
  | sequence anchor items => rfl
  | mapping anchor entries =>
    have hentry : ∀ e : Yaml.Node × Yaml.Node,
        (((text? (document.deref e.1)).map fun key => (key, document.deref e.2)).bind
          fun e => (text? e.2).map fun text => (e.1, text)) =
        (textOf? (document.outline (depth + 1) (document.deref e.1))).bind fun key =>
          (textOf? (document.outline (depth + 1) (document.deref e.2))).map fun text =>
            (key, text) := by
      intro e
      rw [textOf?_outline, textOf?_outline, Option.bind_map]
      rfl
    -- Keys and texts are read in two passes, and of the outline in one.
    have htable : table? document (.mapping anchor entries) =
        ((entries? document (.mapping anchor entries)).bind fun es =>
          es.mapM fun e => (text? e.2).map fun text => (e.1, text)).map Dict.ofList := by
      unfold table?
      cases entries? document (.mapping anchor entries) <;> rfl
    rw [htable, entries?, mapM_bind_mapM, Yaml.Node.outline, tableOf?, List.mapM_map]
    simp only [hentry]
    rfl
  | «alias» anchor => rfl

/-! ### Fields -/

/-- The entries of a document with the outlines of their values.  A field is a text, a flag, a list
of texts or a table of texts, so nothing of it lies deeper. -/
def outlines (document : Yaml.Node) (entries : List (String × Yaml.Node)) :
    List (String × Outline) :=
  entries.map fun e => (e.1, document.outline 2 e.2)

/-- The keys of a document that is a mapping, with their values. -/
def values? (text : String) : Option (List (String × Outline)) :=
  match Yaml.Node.ofText text with
  | .error _ => none
  | .ok document =>
    (entries? document document).map (outlines document)

/-- Whether a field has a value: that of its key, or the default if there is no such key. -/
def IsField {ν α : Type} (entries : List (String × ν)) (name : String) (read? : ν → Option α)
    (default value : α) : Prop :=
  (∃ v, (name, v) ∈ entries ∧ read? v = some value) ∨
    (∀ v, (name, v) ∉ entries) ∧ value = default

/-- The settings that keys and values give.  No field may occur twice. -/
structure IsSettings (values : List (String × Outline)) (s : Settings) : Prop where
  /-- No field occurs twice. -/
  nodup : ((values.map Prod.fst).filter fieldNames.contains).Nodup
  /-- The address to listen on. -/
  listenAddress : IsField values "listen_addr" textOf? ({} : Settings).listenAddress s.listenAddress
  /-- The document root. -/
  root : IsField values "root" (fun v => (textOf? v).map Utf8.encode) ({} : Settings).root s.root
  /-- The index files. -/
  indexFiles : IsField values "index_files" textsOf? ({} : Settings).indexFiles s.indexFiles
  /-- Whether directories are listed. -/
  directoryListing : IsField values "directory_listing" flagOf? ({} : Settings).directoryListing
    s.directoryListing
  /-- The media types. -/
  mediaTypes : IsField values "mime_types" tableOf? ({} : Settings).mediaTypes s.mediaTypes

/-- A key that is a field and does not occur twice has one value at most. -/
theorem eq_of_mem_of_nodup {ν : Type} {entries : List (String × ν)}
    (h : ((entries.map Prod.fst).filter fieldNames.contains).Nodup) {name : String}
    (hname : name ∈ fieldNames) {v w : ν} (hv : (name, v) ∈ entries) (hw : (name, w) ∈ entries) :
    v = w := by
  rw [List.filter_map] at h
  have hmem : ∀ {u}, (name, u) ∈ entries →
      (name, u) ∈ entries.filter (fieldNames.contains ∘ Prod.fst) := fun hu =>
    List.mem_filter.mpr ⟨hu, List.contains_iff_mem.mpr hname⟩
  exact congrArg Prod.snd (List.inj_on_of_nodup_map h (hmem hv) (hmem hw) rfl)

/-- **A field is read as its key says, wherever that stands.** -/
theorem fieldD_eq_some_iff {α : Type} {entries : List (String × Yaml.Node)}
    (h : ((entries.map Prod.fst).filter fieldNames.contains).Nodup) {name : String}
    (hname : name ∈ fieldNames) {read? : Yaml.Node → Option α} {default value : α} :
    fieldD entries name read? default = some value ↔
      IsField entries name read? default value := by
  unfold fieldD IsField
  cases hfind : entries.find? fun e => e.1 = name with
  | none =>
    have hnone : ∀ v, (name, v) ∉ entries := fun v hv => by
      simpa using List.find?_eq_none.mp hfind _ hv
    simp only [hnone, false_and, exists_false, false_or, not_false_eq_true, implies_true, true_and,
      Option.some.injEq, eq_comm]
  | some e =>
    have hkey : e.1 = name := by simpa using List.find?_some hfind
    have hmem : (name, e.2) ∈ entries := by
      rw [← hkey]
      exact List.mem_of_find?_eq_some hfind
    constructor
    · exact fun hread => .inl ⟨e.2, hmem, hread⟩
    · rintro (⟨v, hv, hread⟩ | ⟨hnone, -⟩)
      · -- The first entry with the key is the only one.
        obtain rfl := eq_of_mem_of_nodup h hname hmem hv
        exact hread
      · exact absurd hmem (hnone e.2)

/-- A field of the entries is one of their outlines. -/
theorem isField_outlines_iff {α : Type} {entries : List (String × Yaml.Node)} {name : String}
    {read? : Yaml.Node → Option α} {readOf? : Outline → Option α}
    (h : ∀ n, readOf? (document.outline 2 n) = read? n) {default value : α} :
    IsField (outlines document entries) name readOf? default value ↔
      IsField entries name read? default value := by
  have hmem : ∀ v, (name, v) ∈ outlines document entries ↔
      ∃ n, (name, n) ∈ entries ∧ document.outline 2 n = v := by
    intro v
    simp only [outlines, List.mem_map, Prod.mk.injEq, Prod.exists]
    constructor
    · rintro ⟨_, n, hn, rfl, hv⟩
      exact ⟨n, hn, hv⟩
    · rintro ⟨n, hn, hv⟩
      exact ⟨name, n, hn, rfl, hv⟩
  unfold IsField
  simp only [hmem]
  constructor
  · rintro (⟨v, ⟨n, hn, rfl⟩, hread⟩ | ⟨hnone, hdefault⟩)
    · exact .inl ⟨n, hn, (h n).symm.trans hread⟩
    · exact .inr ⟨fun n hn => hnone _ ⟨n, hn, rfl⟩, hdefault⟩
  · rintro (⟨n, hn, hread⟩ | ⟨hnone, hdefault⟩)
    · exact .inl ⟨_, ⟨n, hn, rfl⟩, (h n).trans hread⟩
    · exact .inr ⟨fun v ⟨n, hn, _⟩ => hnone n hn, hdefault⟩

/-! ### Documents -/

theorem map_fst_outlines (document : Yaml.Node) (entries : List (String × Yaml.Node)) :
    (outlines document entries).map Prod.fst = entries.map Prod.fst := by
  rw [outlines, List.map_map]
  rfl

/-- **The settings that entries give, field by field.** -/
theorem ofEntries?_eq_some_iff (document : Yaml.Node) (entries : List (String × Yaml.Node))
    (s : Settings) :
    ofEntries? document entries = some s ↔ IsSettings (outlines document entries) s := by
  have hkeys := map_fst_outlines document entries
  unfold ofEntries?
  dsimp only
  by_cases hnodup : ((entries.map Prod.fst).filter fieldNames.contains).Nodup
  · have hfield : ∀ {α : Type} (name : String) {read? : Yaml.Node → Option α}
        (readOf? : Outline → Option α), name ∈ fieldNames →
        (∀ n, readOf? (document.outline 2 n) = read? n) → ∀ default value : α,
        (fieldD entries name read? default = some value ↔
          IsField (outlines document entries) name readOf? default value) := by
      intro α name read? readOf? hname hread default value
      rw [fieldD_eq_some_iff hnodup hname, isField_outlines_iff hread]
    have hlisten := hfield "listen_addr" textOf? (by decide) (textOf?_outline 1)
    have hroot := hfield "root" (fun v => (textOf? v).map Utf8.encode) (by decide) fun n =>
      congrArg (Option.map Utf8.encode) (textOf?_outline 1 n)
    have hindex := hfield "index_files" textsOf? (by decide) (textsOf?_outline 0)
    have hlisting := hfield "directory_listing" flagOf? (by decide) (flagOf?_outline 1)
    have htypes := hfield "mime_types" tableOf? (by decide) (tableOf?_outline 0)
    rw [if_pos hnodup]
    simp only [Option.bind_eq_bind, Option.bind_eq_some_iff]
    constructor
    · rintro ⟨a, ha, r, hr, i, hi, l, hl, m, hm, hs⟩
      obtain rfl := Option.some.inj hs
      exact ⟨hkeys ▸ hnodup, (hlisten _ _).mp ha, (hroot _ _).mp hr, (hindex _ _).mp hi,
        (hlisting _ _).mp hl, (htypes _ _).mp hm⟩
    · intro h
      exact ⟨_, (hlisten _ _).mpr h.listenAddress, _, (hroot _ _).mpr h.root, _,
        (hindex _ _).mpr h.indexFiles, _, (hlisting _ _).mpr h.directoryListing, _,
        (htypes _ _).mpr h.mediaTypes, rfl⟩
  · rw [if_neg hnodup]
    refine iff_of_false nofun fun h => hnodup ?_
    rw [← hkeys]
    exact h.nodup

/-- **The settings that a text is read as, field by field.** -/
theorem ofText?_eq_some_iff (text : String) (s : Settings) :
    ofText? text = some s ↔ ∃ values, values? text = some values ∧ IsSettings values s := by
  unfold ofText? values?
  cases Yaml.Node.ofText text with
  | error e => exact ⟨nofun, nofun⟩
  | ok document =>
    dsimp only
    cases entries? document document with
    | none => exact ⟨nofun, nofun⟩
    | some entries =>
      dsimp only
      rw [ofEntries?_eq_some_iff, Option.map_some]
      simp only [Option.some.injEq, exists_eq_left']

end Settings

end PreviewServer
