import PreviewServer.Proofs.DocumentValues

/-!
# Where settings come from

A field of the settings has three sources: the environment, the document and the defaults, in this
order.  The document is that of the file that the environment names (`Settings.IsSource`), and
settings are loaded unless it cannot be read; what the environment overrides does not hide that
(`Settings.load_eq_error_iff`, `Settings.load_eq_ok_iff`).

The fields of a document do not depend on each other.  What a document says about a field is
decided by the values of its key (`Settings.isField_congr`), so neither the order of the keys nor
other keys make a difference (`Settings.isSettings_iff_of_perm`), and a key that is written anew
changes its own field only (`Settings.IsSettings.of_assigns`).
-/

namespace PreviewServer

namespace Settings

open Yaml (Outline)

variable {env : Environment} {contentOf? : Bytes → Option Bytes} {base s s' : Settings}

/-! ### The environment -/

theorem variableText?_eq_some_iff {value : Option Bytes} {text : String} :
    variableText? value = some text ↔ value = some (Utf8.encode text) := by
  cases value with
  | none => exact ⟨nofun, nofun⟩
  | some bytes =>
    rw [variableText?, Option.bind_some, Utf8.decode?_eq_some_iff, Option.some.injEq]

theorem variableText?_eq_none_iff {value : Option Bytes} :
    variableText? value = none ↔ ∀ text, value ≠ some (Utf8.encode text) := by
  rw [Option.eq_none_iff_forall_ne_some]
  exact forall_congr' fun text => not_congr variableText?_eq_some_iff

/-- Whether a value is that of a variable, if the variable is set to a text, and another one
otherwise. -/
def IsOverridden {α : Type} (given : Option Bytes) (read : String → α) (base value : α) :
    Prop :=
  (∃ text, given = some (Utf8.encode text) ∧ value = read text) ∨
    (∀ text, given ≠ some (Utf8.encode text)) ∧ value = base

theorem isOverridden_iff {α : Type} {given : Option Bytes} {read : String → α}
    {base value : α} :
    IsOverridden given read base value ↔
      ((variableText? given).map read).getD base = value := by
  unfold IsOverridden
  rw [← variableText?_eq_none_iff]
  simp only [← variableText?_eq_some_iff]
  cases variableText? given with
  | none => simp [eq_comm]
  | some text => simp [eq_comm]

/-- Settings with what the environment overrides: the address and the root at most. -/
structure Overrides (env : Environment) (base s : Settings) : Prop where
  /-- The address may be overridden. -/
  listenAddress : IsOverridden env.listenAddress id base.listenAddress s.listenAddress
  /-- The root may be overridden. -/
  root : IsOverridden env.root Utf8.encode base.root s.root
  /-- The index files stay. -/
  indexFiles : s.indexFiles = base.indexFiles
  /-- Listings stay as they are. -/
  directoryListing : s.directoryListing = base.directoryListing
  /-- The media types stay. -/
  mediaTypes : s.mediaTypes = base.mediaTypes

theorem override_eq_iff : base.override env = s ↔ Overrides env base s := by
  have haddress : (variableText? env.listenAddress).getD base.listenAddress = s.listenAddress ↔
      IsOverridden env.listenAddress id base.listenAddress s.listenAddress := by
    rw [isOverridden_iff, Option.map_id, id]
  constructor
  · rintro rfl
    exact ⟨haddress.mp rfl, isOverridden_iff.mpr rfl, rfl, rfl, rfl⟩
  · rintro ⟨hlisten, hroot, hindex, hlisting, htypes⟩
    cases s
    rw [override, Settings.mk.injEq]
    exact ⟨haddress.mpr hlisten, isOverridden_iff.mp hroot, hindex.symm, hlisting.symm,
      htypes.symm⟩

/-! ### Loading -/

theorem ofFile_eq_ok_iff {path : String} :
    ofFile contentOf? path = .ok s ↔
      ∃ text, contentOf? (Utf8.encode path) = some (Utf8.encode text) ∧ ofText? text = some s := by
  unfold ofFile
  rw [← variableText?]
  constructor
  · intro h
    split at h
    · cases h
    · rename_i text htext
      split at h
      · cases h
      · rename_i hs
        cases h
        exact ⟨text, variableText?_eq_some_iff.mp htext, hs⟩
  · rintro ⟨text, htext, hs⟩
    rw [variableText?_eq_some_iff.mpr htext]
    dsimp only
    rw [hs]

theorem ofFile_eq_error_iff {path : String} {e : LoadError} :
    ofFile contentOf? path = .error e ↔
      (∀ text, contentOf? (Utf8.encode path) ≠ some (Utf8.encode text)) ∧ e = .unreadable path ∨
      ∃ text, contentOf? (Utf8.encode path) = some (Utf8.encode text) ∧ ofText? text = none ∧
        e = .invalid path := by
  unfold ofFile
  rw [← variableText?]
  constructor
  · intro h
    split at h
    · rename_i hnone
      cases h
      exact .inl ⟨variableText?_eq_none_iff.mp hnone, rfl⟩
    · rename_i text htext
      split at h
      · rename_i hs
        cases h
        exact .inr ⟨text, variableText?_eq_some_iff.mp htext, hs, rfl⟩
      · cases h
  · rintro (⟨hnone, rfl⟩ | ⟨text, htext, hs, rfl⟩)
    · rw [variableText?_eq_none_iff.mpr hnone]
    · rw [variableText?_eq_some_iff.mpr htext]
      dsimp only
      rw [hs]

/-- **When settings cannot be loaded**: the environment names a file, and this is no text or does
not hold settings. -/
theorem load_eq_error_iff {e : LoadError} :
    load env contentOf? = .error e ↔ ∃ path, env.settingsFile = some (Utf8.encode path) ∧
      ((∀ text, contentOf? (Utf8.encode path) ≠ some (Utf8.encode text)) ∧ e = .unreadable path ∨
        ∃ text, contentOf? (Utf8.encode path) = some (Utf8.encode text) ∧ ofText? text = none ∧
          e = .invalid path) := by
  unfold load
  constructor
  · intro h
    split at h
    · cases h
    · rename_i path hpath
      refine ⟨path, variableText?_eq_some_iff.mp hpath, ?_⟩
      split at h
      · rename_i he
        cases h
        exact ofFile_eq_error_iff.mp he
      · cases h
  · rintro ⟨path, hpath, h⟩
    rw [variableText?_eq_some_iff.mpr hpath]
    dsimp only
    rw [ofFile_eq_error_iff.mpr h]

/-- Whether keys and values are those of the file that the environment names; there are none if it
names no file. -/
def IsSource (env : Environment) (contentOf? : Bytes → Option Bytes)
    (values : List (String × Outline)) : Prop :=
  (∃ path text, env.settingsFile = some (Utf8.encode path) ∧
    contentOf? (Utf8.encode path) = some (Utf8.encode text) ∧ values? text = some values) ∨
  (∀ path, env.settingsFile ≠ some (Utf8.encode path)) ∧ values = []

/-- Without keys all fields have their defaults. -/
theorem isSettings_nil_iff : IsSettings [] s ↔ s = {} := by
  have hfield : ∀ {α : Type} {name : String} {readOf? : Outline → Option α} {default value : α},
      IsField [] name readOf? default value ↔ value = default := by
    intro α name readOf? default value
    simp only [IsField, List.not_mem_nil, false_and, exists_false, false_or, not_false_eq_true,
      implies_true, true_and]
  constructor
  · rintro ⟨-, hlisten, hroot, hindex, hlisting, htypes⟩
    cases s
    rw [Settings.mk.injEq]
    exact ⟨hfield.mp hlisten, hfield.mp hroot, hfield.mp hindex, hfield.mp hlisting,
      hfield.mp htypes⟩
  · rintro rfl
    exact ⟨List.nodup_nil, hfield.mpr rfl, hfield.mpr rfl, hfield.mpr rfl, hfield.mpr rfl,
      hfield.mpr rfl⟩

/-- **Which settings are loaded.** -/
theorem load_eq_ok_iff :
    load env contentOf? = .ok s ↔
      ∃ values base, IsSource env contentOf? values ∧ IsSettings values base ∧
        Overrides env base s := by
  unfold load
  constructor
  · intro h
    split at h
    · rename_i hnone
      cases h
      exact ⟨[], {}, .inr ⟨variableText?_eq_none_iff.mp hnone, rfl⟩, isSettings_nil_iff.mpr rfl,
        override_eq_iff.mp rfl⟩
    · rename_i path hpath
      split at h
      · cases h
      · rename_i base hbase
        cases h
        obtain ⟨text, hcontent, htext⟩ := ofFile_eq_ok_iff.mp hbase
        obtain ⟨values, hvalues, hsettings⟩ := (ofText?_eq_some_iff text base).mp htext
        exact ⟨values, base, .inl ⟨path, text, variableText?_eq_some_iff.mp hpath, hcontent,
          hvalues⟩, hsettings, override_eq_iff.mp rfl⟩
  · rintro ⟨values, base, hsource, hsettings, hoverrides⟩
    rw [← override_eq_iff.mpr hoverrides]
    rcases hsource with ⟨path, text, hpath, hcontent, hvalues⟩ | ⟨hnone, rfl⟩
    · have htext := (ofText?_eq_some_iff text base).mpr ⟨values, hvalues, hsettings⟩
      rw [variableText?_eq_some_iff.mpr hpath]
      dsimp only
      rw [ofFile_eq_ok_iff.mpr ⟨text, hcontent, htext⟩]
    · rw [variableText?_eq_none_iff.mpr hnone, isSettings_nil_iff.mp hsettings]

/-! ### One field and the others -/

variable {values values' extra : List (String × Outline)} {name : String} {v : Outline}

/-- A field is decided by the values of its key. -/
theorem isField_congr {α : Type} {readOf? : Outline → Option α} {default value : α}
    (h : ∀ v, (name, v) ∈ values ↔ (name, v) ∈ values') :
    IsField values name readOf? default value ↔ IsField values' name readOf? default value := by
  simp only [IsField, h]

/-- Settings are decided by the keys that are fields. -/
theorem isSettings_congr
    (hperm : ((values.map Prod.fst).filter fieldNames.contains).Perm
      ((values'.map Prod.fst).filter fieldNames.contains))
    (h : ∀ name ∈ fieldNames, ∀ v, (name, v) ∈ values ↔ (name, v) ∈ values') :
    IsSettings values s ↔ IsSettings values' s := by
  have hfield : ∀ {α : Type} {name : String} {readOf? : Outline → Option α} {default value : α},
      name ∈ fieldNames → (IsField values name readOf? default value ↔
        IsField values' name readOf? default value) :=
    fun hname => isField_congr (h _ hname)
  constructor
  · intro hs
    exact ⟨hperm.nodup_iff.mp hs.nodup, (hfield (by decide)).mp hs.listenAddress,
      (hfield (by decide)).mp hs.root, (hfield (by decide)).mp hs.indexFiles,
      (hfield (by decide)).mp hs.directoryListing, (hfield (by decide)).mp hs.mediaTypes⟩
  · intro hs
    exact ⟨hperm.nodup_iff.mpr hs.nodup, (hfield (by decide)).mpr hs.listenAddress,
      (hfield (by decide)).mpr hs.root, (hfield (by decide)).mpr hs.indexFiles,
      (hfield (by decide)).mpr hs.directoryListing, (hfield (by decide)).mpr hs.mediaTypes⟩

/-- **Neither the order of the keys nor other keys make a difference.** -/
theorem isSettings_iff_of_perm (hperm : values'.Perm (values ++ extra))
    (hextra : ∀ e ∈ extra, e.1 ∉ fieldNames) : IsSettings values' s ↔ IsSettings values s := by
  have hnone : (extra.map Prod.fst).filter fieldNames.contains = [] := by
    rw [List.filter_eq_nil_iff, List.forall_mem_map]
    exact fun e he hcontains => hextra e he (List.contains_iff_mem.mp hcontains)
  apply isSettings_congr
  · have hkeys := (hperm.map Prod.fst).filter fieldNames.contains
    rwa [List.map_append, List.filter_append, hnone, List.append_nil] at hkeys
  · intro name hname v
    rw [hperm.mem_iff, List.mem_append, or_iff_left]
    exact fun hmem => hextra _ hmem hname

/-- Settings that differ in one field at most, which has the value that is written for its key. -/
inductive Assigns (v : Outline) (s : Settings) : String → Settings → Prop where
  /-- The address to listen on. -/
  | listenAddress {text : String} (h : textOf? v = some text) :
    Assigns v s "listen_addr" { s with listenAddress := text }
  /-- The document root. -/
  | root {text : String} (h : textOf? v = some text) :
    Assigns v s "root" { s with root := Utf8.encode text }
  /-- The index files. -/
  | indexFiles {texts : List String} (h : textsOf? v = some texts) :
    Assigns v s "index_files" { s with indexFiles := texts }
  /-- Whether directories are listed. -/
  | directoryListing {flag : Bool} (h : flagOf? v = some flag) :
    Assigns v s "directory_listing" { s with directoryListing := flag }
  /-- The media types. -/
  | mediaTypes {table : Dict String String} (h : tableOf? v = some table) :
    Assigns v s "mime_types" { s with mediaTypes := table }

/-- **A key that is written anew changes its own field only.** -/
theorem IsSettings.of_assigns (h : IsSettings values s)
    (hperm : values'.Perm ((name, v) :: values.filter fun e => e.1 ≠ name))
    (hassigns : Assigns v s name s') : IsSettings values' s' := by
  have hnodup : ((values'.map Prod.fst).filter fieldNames.contains).Nodup := by
    have hrest : (((values.filter fun e => e.1 ≠ name).map Prod.fst).filter
        fieldNames.contains).Nodup :=
      h.nodup.sublist ((List.filter_sublist.map Prod.fst).filter fieldNames.contains)
    have hnew : name ∉ ((values.filter fun e => e.1 ≠ name).map Prod.fst).filter
        fieldNames.contains := by
      intro hmem
      obtain ⟨e, he, heq⟩ := List.mem_map.mp (List.mem_filter.mp hmem).1
      exact of_decide_eq_true (List.mem_filter.mp he).2 heq
    rw [((hperm.map Prod.fst).filter fieldNames.contains).nodup_iff, List.map_cons,
      List.filter_cons]
    split
    · exact List.nodup_cons.mpr ⟨hnew, hrest⟩
    · exact hrest
  -- The field of the key is read from the new value, and any other one from what was there.
  have hself : ∀ {α : Type} {readOf? : Outline → Option α} {default value : α},
      readOf? v = some value → IsField values' name readOf? default value :=
    fun hread => .inl ⟨v, hperm.mem_iff.mpr List.mem_cons_self, hread⟩
  have hother : ∀ {α : Type} {other : String} {readOf? : Outline → Option α} {default value : α},
      other ≠ name → IsField values other readOf? default value →
        IsField values' other readOf? default value := by
    intro α other readOf? default value hne
    refine (isField_congr fun w => ?_).mp
    have hnew : (other, w) ≠ (name, v) := fun heq => hne (congrArg Prod.fst heq)
    rw [hperm.mem_iff, List.mem_cons, List.mem_filter, or_iff_right hnew,
      and_iff_left (decide_eq_true hne)]
  cases hassigns with
  | listenAddress htext =>
    exact ⟨hnodup, hself htext, hother (by decide) h.root, hother (by decide) h.indexFiles,
      hother (by decide) h.directoryListing, hother (by decide) h.mediaTypes⟩
  | root htext =>
    exact ⟨hnodup, hother (by decide) h.listenAddress, hself (by rw [htext]; rfl),
      hother (by decide) h.indexFiles, hother (by decide) h.directoryListing,
      hother (by decide) h.mediaTypes⟩
  | indexFiles htexts =>
    exact ⟨hnodup, hother (by decide) h.listenAddress, hother (by decide) h.root, hself htexts,
      hother (by decide) h.directoryListing, hother (by decide) h.mediaTypes⟩
  | directoryListing hflag =>
    exact ⟨hnodup, hother (by decide) h.listenAddress, hother (by decide) h.root,
      hother (by decide) h.indexFiles, hself hflag, hother (by decide) h.mediaTypes⟩
  | mediaTypes htable =>
    exact ⟨hnodup, hother (by decide) h.listenAddress, hother (by decide) h.root,
      hother (by decide) h.indexFiles, hother (by decide) h.directoryListing, hself htable⟩

/-! ### Sources and fields -/

/-- **Settings come from their sources field by field.**  They cannot be loaded exactly if the
environment names a file that is no text or does not hold settings, whatever else is overridden.
Otherwise the address and the root are those of the environment if it has them, and every other
field has the value of its key in the document, or the default.  Neither the order of the keys of a
document nor other keys make a difference, and a field whose key is written anew, with a value of
its kind, is the only one that changes.  An alias counts as what it stands for. -/
theorem load_eq_iff_and_ofText?_eq_of_perm :
    (∀ (env : Environment) (contentOf? : Bytes → Option Bytes) (e : LoadError),
      load env contentOf? = .error e ↔ ∃ path, env.settingsFile = some (Utf8.encode path) ∧
        ((∀ text, contentOf? (Utf8.encode path) ≠ some (Utf8.encode text)) ∧
            e = .unreadable path ∨
          ∃ text, contentOf? (Utf8.encode path) = some (Utf8.encode text) ∧
            ofText? text = none ∧ e = .invalid path)) ∧
    (∀ (env : Environment) (contentOf? : Bytes → Option Bytes) (s : Settings),
      load env contentOf? = .ok s ↔
        ∃ values base, IsSource env contentOf? values ∧ IsSettings values base ∧
          Overrides env base s) ∧
    ∀ (text other : String) (values others : List (String × Outline)),
      values? text = some values → values? other = some others →
        (∀ extra, others.Perm (values ++ extra) → (∀ e ∈ extra, e.1 ∉ fieldNames) →
          ofText? other = ofText? text) ∧
        ∀ (name : String) (v : Outline) (s s' : Settings),
          others.Perm ((name, v) :: values.filter fun e => e.1 ≠ name) →
          ofText? text = some s → Assigns v s name s' → ofText? other = some s' := by
  refine ⟨fun env contentOf? e => load_eq_error_iff, fun env contentOf? s => load_eq_ok_iff, ?_⟩
  intro text other values others htext hother
  have hread : ∀ {s}, ofText? text = some s ↔ IsSettings values s := by
    intro s
    rw [ofText?_eq_some_iff, htext]
    simp only [Option.some.injEq, exists_eq_left']
  have hreadOther : ∀ {s}, ofText? other = some s ↔ IsSettings others s := by
    intro s
    rw [ofText?_eq_some_iff, hother]
    simp only [Option.some.injEq, exists_eq_left']
  constructor
  · intro extra hperm hextra
    apply Option.ext
    intro s
    rw [hread, hreadOther]
    exact isSettings_iff_of_perm hperm hextra
  · intro name v s s' hperm hs hassigns
    exact hreadOther.mpr ((hread.mp hs).of_assigns hperm hassigns)

/-- A document with two fields. -/
def twoFields : String := "root: a\nlisten_addr: b\n"

/-- Its keys and values. -/
def twoFieldValues : List (String × Outline) :=
  [("root", .scalar none .plain "a".toList), ("listen_addr", .scalar none .plain "b".toList)]

/-- Its settings. -/
def twoFieldSettings : Settings := { listenAddress := "b", root := Utf8.encode "a" }

/-- The same fields in another order, with a key that is none and to whose value an alias refers. -/
def reorderedFields : String := "x: &v a\nlisten_addr: b\nroot: *v\n"

/-- The fields with one of them written anew. -/
def unlistedFields : String := "directory_listing: false\nroot: a\nlisten_addr: b\n"

/-- An environment that names a file and overrides the address. -/
def overriding : Environment :=
  { settingsFile := some (Utf8.encode "f"), listenAddress := some (Utf8.encode "c") }

/-- The order and the alias make no difference, and the new value changes one field.  The address
is that of the environment, which does not hide that there is no file. -/
theorem ofText?_reorderedFields :
    values? twoFields = some twoFieldValues ∧
      values? reorderedFields =
        some [("x", .scalar none .plain "a".toList),
          ("listen_addr", .scalar none .plain "b".toList),
          ("root", .scalar none .plain "a".toList)] ∧
      ofText? reorderedFields = ofText? twoFields ∧
      values? unlistedFields =
        some (("directory_listing", .scalar none .plain "false".toList) :: twoFieldValues) ∧
      ofText? twoFields = some twoFieldSettings ∧
      ofText? unlistedFields = some { twoFieldSettings with directoryListing := false } ∧
      load overriding (fun _ => some (Utf8.encode twoFields)) =
        .ok { twoFieldSettings with listenAddress := "c" } ∧
      load overriding (fun _ => none) = .error (.unreadable "f") := by
  obtain ⟨herror, hok, hdocuments⟩ := load_eq_iff_and_ofText?_eq_of_perm
  have htwo : values? twoFields = some twoFieldValues := by cbv
  have hreordered : values? reorderedFields =
      some [("x", .scalar none .plain "a".toList), ("listen_addr", .scalar none .plain "b".toList),
        ("root", .scalar none .plain "a".toList)] := by cbv
  have hunlisted : values? unlistedFields =
      some (("directory_listing", .scalar none .plain "false".toList) :: twoFieldValues) := by cbv
  have hsettings : IsSettings twoFieldValues twoFieldSettings :=
    { nodup := by decide
      listenAddress := .inl ⟨_, List.mem_cons_of_mem _ List.mem_cons_self, rfl⟩
      root := .inl ⟨_, List.mem_cons_self, rfl⟩
      indexFiles := .inr ⟨by simp [twoFieldValues], rfl⟩
      directoryListing := .inr ⟨by simp [twoFieldValues], rfl⟩
      mediaTypes := .inr ⟨by simp [twoFieldValues], rfl⟩ }
  have hread := (ofText?_eq_some_iff _ _).mpr ⟨_, htwo, hsettings⟩
  have hunset : ∀ text, none ≠ some (Utf8.encode text) :=
    fun text => (Option.some_ne_none (Utf8.encode text)).symm
  refine ⟨htwo, hreordered, ?_, hunlisted, hread, ?_, ?_, ?_⟩
  · refine (hdocuments _ _ _ _ htwo hreordered).1 [("x", .scalar none .plain "a".toList)] ?_ ?_
    · exact List.reverse_perm (twoFieldValues ++ [("x", .scalar none .plain "a".toList)])
    · simp [fieldNames]
  · exact (hdocuments _ _ _ _ htwo hunlisted).2 "directory_listing" _ _ _ (.refl _) hread
      (.directoryListing rfl)
  · refine (hok _ _ _).mpr ⟨_, _, .inl ⟨"f", twoFields, rfl, rfl, htwo⟩, hsettings, ?_⟩
    exact ⟨.inl ⟨"c", rfl, rfl⟩, .inr ⟨hunset, rfl⟩, rfl, rfl, rfl⟩
  · exact (herror _ _ _).mpr ⟨"f", rfl, .inl ⟨hunset, rfl⟩⟩

end Settings

end PreviewServer
