import PreviewServer.Settings
import PreviewServer.Proofs.ByteOrder
import PreviewServer.Proofs.Extensions
import PreviewServer.Proofs.HeadText
import PreviewServer.Proofs.Outcome
import Mathlib

/-!
# Media types from the settings to the answers

The media type of a file is decided by the settings that a site is opened with.  They register their
entries in the order of the keys, and a key may be written with or without its dot, so two entries
can be about one extension, of which the later one counts.

`Settings.TypeOfName` says which type the file with a name has, in terms of the entries alone: no
registry, no order of registration and no search.  `Settings.registry_cases` is about the entries
that are refused, `Settings.get?_registry` about what is registered in the end, and
`Settings.lookupName_iff` about the type that is found for a name.  `Settings.types_of_files` takes
them from the settings to the field of the answer.
-/

namespace PreviewServer

namespace Settings

open Media (IsExtension)

variable {s : Settings} {e type : String}

/-! ### Types in terms of the entries -/

/-- Whether an entry is refused: it has no extension, or its media type is blank. -/
def IsRefused (entry : String × String) : Prop :=
  entry.1 = "" ∨ entry.1 = "." ∨ trimBlanks entry.2.toList = []

instance (entry : String × String) : Decidable (IsRefused entry) := inferInstanceAs (Decidable (_ ∨ _))

/-- Whether a media type is configured for an extension: of the keys that are the extension, with or
without its dot, the one whose bytes come last has it. -/
def IsConfigured (s : Settings) (e type : String) : Prop :=
  ∃ key, (key = "." ++ e ∨ key = e) ∧ (key, type) ∈ s.mediaTypes.entries ∧
    ∀ entry ∈ s.mediaTypes.entries, (entry.1 = "." ++ e ∨ entry.1 = e) →
      Utf8.encode entry.1 ≤ Utf8.encode key

/-- Whether an extension has a media type before the built-in ones are asked: what is configured,
and else that of WebAssembly. -/
def IsRegistered (s : Settings) (e type : String) : Prop :=
  s.IsConfigured e type ∨
    (∀ other, ¬ s.IsConfigured e other) ∧ e = "wasm" ∧ type = "application/wasm"

/-- The media type of an extension. -/
inductive TypeOfExtension (s : Settings) (e : String) : String → Prop where
  /-- The extension as it is written comes first. -/
  | asWritten {type : String} (h : s.IsRegistered e type) : TypeOfExtension s e type
  /-- Then comes the extension in lower case. -/
  | lowered {type : String} (hnone : ∀ other, ¬ s.IsRegistered e other)
      (h : s.IsRegistered (asciiLower e) type) : TypeOfExtension s e type
  /-- Then come the built-in types. -/
  | builtin {type : String} (hnone : ∀ other, ¬ s.IsRegistered e other)
      (hlower : ∀ other, ¬ s.IsRegistered (asciiLower e) other)
      (h : Media.builtin? (asciiLower e) = some type) : TypeOfExtension s e type
  /-- Nothing is known about other extensions. -/
  | unknown (hnone : ∀ other, ¬ s.IsRegistered e other)
      (hlower : ∀ other, ¬ s.IsRegistered (asciiLower e) other)
      (h : Media.builtin? (asciiLower e) = none) : TypeOfExtension s e Media.fallback

/-- The media type of a file with a name. -/
inductive TypeOfName (s : Settings) (name : Name) : String → Prop where
  /-- The extension decides. -/
  | ofExtension {e type : String} (he : IsExtension name (Utf8.encode e))
      (h : s.TypeOfExtension e type) : TypeOfName s name type
  /-- Without an extension that is text nothing is known. -/
  | ofOther (h : ∀ e, ¬ IsExtension name (Utf8.encode e)) : TypeOfName s name Media.fallback

/-! ### Registering entries -/

theorem register_of_isRefused {r : Media.Registry} {entry : String × String} (h : IsRefused entry) :
    ∃ cause, r.register entry.1 entry.2 = .error cause := by
  unfold Media.Registry.register Media.Registry.check
  rw [IsRefused, ← or_assoc, ← Media.utf8ByteSize_dotted_lt_iff] at h
  by_cases hsize : (Media.dotted entry.1).utf8ByteSize < 2
  · rw [if_pos hsize]
    exact ⟨_, rfl⟩
  · rw [if_neg hsize, if_pos (h.resolve_left hsize)]
    exact ⟨_, rfl⟩

theorem register_of_not_isRefused {r : Media.Registry} {entry : String × String}
    (h : ¬ IsRefused entry) :
    r.register entry.1 entry.2 = .ok ⟨r.registered.insert (Media.dotted entry.1) entry.2⟩ := by
  unfold Media.Registry.register Media.Registry.check
  rw [IsRefused, ← or_assoc, ← Media.utf8ByteSize_dotted_lt_iff, not_or] at h
  rw [if_neg h.1, if_neg h.2]

/-- What is registered after some entries on top of what was. -/
def registeredAfter (d : Dict String String) (entries : List (String × String)) :
    Dict String String :=
  entries.foldl (fun d entry => d.insert (Media.dotted entry.1) entry.2) d

/-- **Registering several entries.**  The first one that is refused decides; if there is none, all
are registered. -/
theorem registerAll_cases (r : Media.Registry) (entries : List (String × String)) :
    (∃ before bad after cause, entries = before ++ bad :: after ∧
      (∀ entry ∈ before, ¬ IsRefused entry) ∧ IsRefused bad ∧
      registerAll r entries = .error { key := bad.1, cause := cause }) ∨
    (∀ entry ∈ entries, ¬ IsRefused entry) ∧
      registerAll r entries = .ok ⟨registeredAfter r.registered entries⟩ := by
  induction entries generalizing r with
  | nil => exact .inr ⟨nofun, rfl⟩
  | cons entry entries ih =>
    by_cases h : IsRefused entry
    · obtain ⟨cause, hcause⟩ := register_of_isRefused (r := r) h
      refine .inl ⟨[], entry, entries, cause, rfl, nofun, h, ?_⟩
      rw [registerAll, hcause]
    · rw [registerAll, register_of_not_isRefused h]
      rcases ih ⟨r.registered.insert (Media.dotted entry.1) entry.2⟩ with
        ⟨before, bad, after, cause, rfl, hbefore, hbad, herror⟩ | ⟨hall, hok⟩
      · exact .inl ⟨entry :: before, bad, after, cause, rfl,
          List.forall_mem_cons.mpr ⟨h, hbefore⟩, hbad, herror⟩
      · exact .inr ⟨List.forall_mem_cons.mpr ⟨h, hall⟩, hok⟩

/-- **The last entry counts.**  What is registered for an extension comes from the last entry that
is about it, or else was there before. -/
theorem get?_registeredAfter (d : Dict String String) (entries : List (String × String))
    (x : String) :
    (∃ before last after, entries = before ++ last :: after ∧ Media.dotted last.1 = x ∧
      (∀ entry ∈ after, Media.dotted entry.1 ≠ x) ∧
      (registeredAfter d entries).get? x = some last.2) ∨
    (∀ entry ∈ entries, Media.dotted entry.1 ≠ x) ∧
      (registeredAfter d entries).get? x = d.get? x := by
  induction entries generalizing d with
  | nil => exact .inr ⟨nofun, rfl⟩
  | cons entry entries ih =>
    rw [registeredAfter, List.foldl_cons, ← registeredAfter]
    rcases ih (d.insert (Media.dotted entry.1) entry.2) with
      ⟨before, last, after, rfl, hlast, hafter, hget⟩ | ⟨hnone, hget⟩
    · exact .inl ⟨entry :: before, last, after, rfl, hlast, hafter, hget⟩
    · rw [Dict.get?_insert] at hget
      by_cases h : Media.dotted entry.1 = x
      · rw [if_pos h] at hget
        exact .inl ⟨[], entry, entries, rfl, h, hnone, hget⟩
      · rw [if_neg h] at hget
        exact .inr ⟨List.forall_mem_cons.mpr ⟨h, hnone⟩, hget⟩

/-! ### The order of the keys -/

theorem mem_sorted {d : Dict String String} {entry : String × String} :
    entry ∈ d.sorted ↔ entry ∈ d.entries :=
  (List.mergeSort_perm _ _).mem_iff

/-- The pairs are sorted by the bytes of their keys. -/
theorem pairwise_sorted (d : Dict String String) :
    d.sorted.Pairwise fun a b => Utf8.encode a.1 ≤ Utf8.encode b.1 := by
  have hsorted := @List.pairwise_mergeSort _ (fun a b : String × String => leText a.1 b.1)
    (fun _ _ _ h h' => leChars_trans h h') (fun _ _ => leChars_total _ _) d.entries
  exact hsorted.imp fun h => (leText_iff _ _).mp h

/-! ### What is registered -/

/-- **When settings have a registry.**  They have none if an entry is refused, and then the error
names the first key of such an entry; else all entries are registered in the order of their keys. -/
theorem registry_cases (s : Settings) :
    (∃ bad cause, bad ∈ s.mediaTypes.entries ∧ IsRefused bad ∧
      (∀ entry ∈ s.mediaTypes.entries, IsRefused entry → Utf8.encode bad.1 ≤ Utf8.encode entry.1) ∧
      s.registry = .error { key := bad.1, cause := cause }) ∨
    (∀ entry ∈ s.mediaTypes.entries, ¬ IsRefused entry) ∧
      s.registry = .ok ⟨registeredAfter Media.Registry.preview.registered s.mediaTypes.sorted⟩ := by
  rcases registerAll_cases .preview s.mediaTypes.sorted with
    ⟨before, bad, after, cause, hsplit, hbefore, hbad, herror⟩ | ⟨hall, hok⟩
  · have hsorted := pairwise_sorted s.mediaTypes
    rw [hsplit, List.pairwise_append, List.pairwise_cons] at hsorted
    obtain ⟨-, ⟨hafter, -⟩, -⟩ := hsorted
    have hmem : ∀ {entry}, entry ∈ s.mediaTypes.entries ↔ entry ∈ before ++ bad :: after := by
      intro entry
      rw [← hsplit, mem_sorted]
    refine .inl ⟨bad, cause, hmem.mpr (List.mem_append_right _ List.mem_cons_self), hbad, ?_, herror⟩
    intro entry hentry hrefused
    -- Entries before it are not refused, and those behind it have greater keys.
    rcases List.mem_append.mp (hmem.mp hentry) with h | h
    · exact absurd hrefused (hbefore entry h)
    · rcases List.mem_cons.mp h with rfl | h
      · exact List.le_refl _
      · exact hafter entry h
  · exact .inr ⟨fun entry hentry => hall entry (mem_sorted.mpr hentry), hok⟩

/-- An extension has one configured type at most. -/
theorem IsConfigured.unique {other : String} (h : s.IsConfigured e type)
    (h' : s.IsConfigured e other) : type = other := by
  obtain ⟨key, hkey, hmem, hlast⟩ := h
  obtain ⟨key', hkey', hmem', hlast'⟩ := h'
  have hle : Utf8.encode key ≤ Utf8.encode key' := hlast' _ hmem hkey
  have hge : Utf8.encode key' ≤ Utf8.encode key := hlast _ hmem' hkey'
  have heq : key = key' := Utf8.encode_injective (List.le_antisymm hle hge)
  exact congrArg Prod.snd (List.inj_on_of_nodup_map s.mediaTypes.keys_nodup hmem hmem' heq)

theorem IsRegistered.unique {other : String} (h : s.IsRegistered e type)
    (h' : s.IsRegistered e other) : type = other := by
  rcases h with h | ⟨hnone, -, rfl⟩ <;> rcases h' with h' | ⟨hnone', -, rfl⟩
  · exact h.unique h'
  · exact absurd h (hnone' _)
  · exact absurd h' (hnone _)
  · rfl

/-- **What is registered for an extension.** -/
theorem get?_registry {types : Media.Registry} (h : s.registry = .ok types)
    (he : e.toList.head? ≠ some '.') :
    types.registered.get? ("." ++ e) = some type ↔ s.IsRegistered e type := by
  rcases registry_cases s with ⟨bad, cause, -, -, -, herror⟩ | ⟨-, hok⟩
  · rw [herror] at h
    cases h
  · rw [hok] at h
    obtain rfl := Except.ok.inj h
    rcases get?_registeredAfter Media.Registry.preview.registered s.mediaTypes.sorted ("." ++ e) with
      ⟨before, last, after, hsplit, hlast, hafter, hget⟩ | ⟨hnone, hget⟩
    · have hsorted := pairwise_sorted s.mediaTypes
      rw [hsplit, List.pairwise_append] at hsorted
      have hconfigured : s.IsConfigured e last.2 := by
        refine ⟨last.1, (Media.dotted_eq_iff he).mp hlast, ?_, ?_⟩
        · rw [← mem_sorted, hsplit]
          exact List.mem_append_right _ List.mem_cons_self
        · intro entry hentry hkey
          rw [← mem_sorted, hsplit] at hentry
          -- Keys before it are no greater, and those behind it are not of this extension.
          rcases List.mem_append.mp hentry with hmem | hmem
          · exact hsorted.2.2 entry hmem last List.mem_cons_self
          · rcases List.mem_cons.mp hmem with rfl | hmem
            · exact List.le_refl _
            · exact absurd ((Media.dotted_eq_iff he).mpr hkey) (hafter entry hmem)
      rw [hget, Option.some.injEq]
      constructor
      · rintro rfl
        exact .inl hconfigured
      · exact fun hregistered => IsRegistered.unique (.inl hconfigured) hregistered
    · have hconfigured : ∀ other, ¬ s.IsConfigured e other := by
        rintro other ⟨key, hkey, hmem, -⟩
        exact hnone _ (mem_sorted.mpr hmem) ((Media.dotted_eq_iff he).mpr hkey)
      have hwasm : ".wasm" = "." ++ e ↔ e = "wasm" := by
        rw [eq_comm (a := e)]
        exact Media.dot_append_inj (a := "wasm")
      rw [hget, Media.Registry.preview, Dict.get?_insert]
      unfold IsRegistered
      simp only [hwasm, hconfigured, false_or, not_false_eq_true, implies_true, true_and,
        Dict.get?_empty]
      split
      · rename_i heq
        simp only [heq, true_and, Option.some.injEq, eq_comm]
      · rename_i hne
        simp only [hne, false_and, reduceCtorEq]

/-! ### Types of names -/

/-- **The type that is looked up for an extension.** -/
theorem lookup_iff {types : Media.Registry} (h : s.registry = .ok types) (he : '.' ∉ e.toList) :
    types.lookup e = type ↔ s.TypeOfExtension e type := by
  have hwritten : ∀ {type}, types.registered.get? ("." ++ e) = some type ↔ s.IsRegistered e type :=
    get?_registry h fun hdot => he (List.mem_of_head? hdot)
  have hlowered : ∀ {type}, types.registered.get? ("." ++ asciiLower e) = some type ↔
      s.IsRegistered (asciiLower e) type :=
    get?_registry h fun hdot => he (Media.dot_mem_asciiLower_iff.mp (List.mem_of_head? hdot))
  rw [Media.lookup_eq types he]
  constructor
  · rintro rfl
    cases hw : types.registered.get? ("." ++ e) with
    | some t => exact .asWritten (hwritten.mp hw)
    | none =>
      have hnone : ∀ other, ¬ s.IsRegistered e other := fun other hother => by
        rw [hwritten.mpr hother] at hw
        cases hw
      cases hl : types.registered.get? ("." ++ asciiLower e) with
      | some t => exact .lowered hnone (hlowered.mp hl)
      | none =>
        have hlower : ∀ other, ¬ s.IsRegistered (asciiLower e) other := fun other hother => by
          rw [hlowered.mpr hother] at hl
          cases hl
        cases hb : Media.builtin? (asciiLower e) with
        | some t => exact .builtin hnone hlower hb
        | none => exact .unknown hnone hlower hb
  · have hw : (∀ other, ¬ s.IsRegistered e other) → types.registered.get? ("." ++ e) = none :=
      fun hnone => Option.eq_none_iff_forall_ne_some.mpr fun t ht => hnone t (hwritten.mp ht)
    have hl : (∀ other, ¬ s.IsRegistered (asciiLower e) other) →
        types.registered.get? ("." ++ asciiLower e) = none :=
      fun hnone => Option.eq_none_iff_forall_ne_some.mpr fun t ht => hnone t (hlowered.mp ht)
    intro htype
    cases htype with
    | asWritten h => rw [hwritten.mpr h]; rfl
    | lowered hnone h => rw [hw hnone, hlowered.mpr h]; rfl
    | builtin hnone hlower h => rw [hw hnone, hl hlower, h]; rfl
    | unknown hnone hlower h => rw [hw hnone, hl hlower, h]; rfl

/-- **The type that is found for a name.** -/
theorem lookupName_iff {types : Media.Registry} (h : s.registry = .ok types) {name : Name}
    (hname : name ≠ dotDot) : types.lookupName name = type ↔ s.TypeOfName name type := by
  have hextension : ∀ {bs}, Media.Registry.extensionOf? name = some bs ↔ IsExtension name bs :=
    Media.extensionOf?_eq_some_iff hname
  unfold Media.Registry.lookupName
  cases hbs : Media.Registry.extensionOf? name with
  | none =>
    have hnone : ∀ e, ¬ IsExtension name (Utf8.encode e) := fun e he => by
      rw [hextension.mpr he] at hbs
      cases hbs
    constructor
    · rintro rfl
      exact .ofOther hnone
    · intro htype
      cases htype with
      | ofExtension he _ => exact absurd he (hnone _)
      | ofOther _ => rfl
  | some bs =>
    have hbs' := hextension.mp hbs
    have hunique : ∀ {e}, IsExtension name (Utf8.encode e) → bs = Utf8.encode e := fun he =>
      Option.some.inj (hbs.symm.trans (hextension.mpr he))
    dsimp only
    cases htext : Utf8.decode? bs with
    | none =>
      have hnone : ∀ e, ¬ IsExtension name (Utf8.encode e) := fun e he => by
        rw [hunique he, Utf8.decode?_encode] at htext
        cases htext
      constructor
      · rintro rfl
        exact .ofOther hnone
      · intro htype
        cases htype with
        | ofExtension he _ => exact absurd he (hnone _)
        | ofOther _ => rfl
    | some e =>
      obtain rfl := Utf8.decode?_eq_some_iff.mp htext
      have hdot : '.' ∉ e.toList := by
        obtain ⟨-, -, -, hnot⟩ := hbs'
        exact mt (Utf8.mem_encode_iff (c := '.') (by decide)).mpr hnot
      dsimp only
      rw [lookup_iff h hdot]
      constructor
      · exact .ofExtension hbs'
      · intro htype
        cases htype with
        | ofExtension he htype =>
          rw [Utf8.encode_injective (hunique he)]
          exact htype
        | ofOther hnone => exact absurd hbs' (hnone e)

end Settings

/-! ### Files that are served -/

namespace Site

/-- Whether a request is answered with the regular file at a path: its target leads there, or to a
directory of which this is the first index file. -/
structure ServesFile (s : Site) (t : FileTree) (r : Request) (p : Path) (content : Bytes) : Prop where
  /-- Only two methods are served. -/
  isServable : r.method = .get ∨ r.method = .head
  /-- The file stands at the path. -/
  isFile : ∃ modified, t.node? p = some (.file content modified)
  /-- It can be read. -/
  readable : t.isLocked p = false
  /-- The target leads to it. -/
  reaches : ∃ target, Target.parse r.target = .ok target ∧
    (s.Reaches t (s.components target) p ∨
      ∃ dir index, s.Reaches t (s.components target) dir ∧ t.node? dir = some .directory ∧
        target.hasTrailingSlash = true ∧ s.IsFirstIndex t dir index ∧
        s.Reaches t (candidate dir index) p)

variable {s : Site} {t : FileTree} {r : Request} {p : Path} {content : Bytes}

/-- A regular file that can be read is delivered if its time can be written. -/
theorem Confines.serveFile_eq {modified : Int} (hp : s.Confines t p (.file content modified))
    (hread : t.isLocked p = false) :
    s.serveFile t p = .ok ((HttpDate.format? modified).map fun date =>
      (Response.ok (s.types.lookupName (p.getLast?.getD [])) content).withHeader
        "Last-Modified" date) := by
  rw [serveFile, hp.read?_eq, hread]
  rfl

/-- The answer with a file has the type of the last name on its canonical path. -/
theorem ServesFile.exists_handle_eq (h : s.ServesFile t r p content) :
    ∃ modified, t.node? p = some (.file content modified) ∧
      s.handle t r = (HttpDate.format? modified).map fun date =>
        (Response.ok (s.types.lookupName (p.getLast?.getD [])) content).withHeader
          "Last-Modified" date := by
  obtain ⟨modified, hfile⟩ := h.isFile
  obtain ⟨target, hparse, hreach⟩ := h.reaches
  refine ⟨modified, hfile, ?_⟩
  rcases hreach with hp | ⟨dir, index, hdir, hnode, hslash, hfirst, hp⟩
  · have hne : Node.file content modified ≠ .directory := by
      intro heq
      cases heq
    obtain ⟨hn, hhandle⟩ := handle_of_reaches h.isServable hparse hp hfile
    rw [hhandle, if_neg hne, hn.serveFile_eq h.readable]
    rfl
  · obtain ⟨-, hhandle⟩ := handle_of_reaches h.isServable hparse hdir hnode
    rw [hhandle, if_pos rfl, if_pos hslash, serveDirectory,
      find?_isIndex_eq_some_iff.mpr hfirst]
    dsimp only
    rw [confine_eq_ok_iff.mpr hp]
    dsimp only
    rw [(hp.confines hfile).serveFile_eq h.readable]
    rfl

end Site

theorem Response.get?_contentType_ok (mediaType : String) (body : Bytes) (modified : String) :
    ((Response.ok mediaType body).withHeader "Last-Modified" modified).headers.get? "Content-Type" =
      some mediaType := by
  have hmodified : ("Last-Modified" : String) ≠ "Content-Type" := by decide
  have hlength : ("Content-Length" : String) ≠ "Content-Type" := by decide
  rw [Response.withHeader, Dict.get?_insert, if_neg hmodified]
  unfold Response.ok ResponseDraft.withBody ResponseDraft.withHeader ResponseDraft.build
  dsimp only
  split
  · rw [Dict.get?_insert, if_pos rfl]
  · rw [Dict.get?_insert, if_neg hlength, Dict.get?_insert, if_pos rfl]

namespace Settings

/-- A site has the registry of the settings that it is opened with. -/
theorem registry_of_openSite {c : Settings} {t : FileTree} {site : Site}
    (h : c.openSite t = .ok site) : c.registry = .ok site.types := by
  unfold openSite at h
  split at h
  · cases h
  · rename_i types htypes
    split at h
    · cases h
    · rename_i hopen
      cases h
      unfold Site.openRoot at hopen
      split at hopen
      · cases hopen
      · split at hopen
        · cases hopen
        · split at hopen
          · cases hopen
            exact htypes
          · cases hopen

/-- **Media types from the settings to the answers.**  Settings have no registry exactly if one of
their entries is refused, and then the error names the first key of such an entry in the order of
bytes.  If they have one, every regular file below the root that is served by a site opened with
them, at whatever time and by whichever request, is delivered with the type that the settings say
for its name.  It is delivered exactly if its time can be written. -/
theorem types_of_files (c : Settings) :
    ((∃ e, c.registry = .error e) ↔ ∃ entry ∈ c.mediaTypes.entries, IsRefused entry) ∧
    (∀ e, c.registry = .error e →
      (∃ type, (e.key, type) ∈ c.mediaTypes.entries ∧ IsRefused (e.key, type)) ∧
      (∀ entry ∈ c.mediaTypes.entries, IsRefused entry →
        Utf8.encode e.key ≤ Utf8.encode entry.1) ∧
      e.message = "invalid mime_types entry for " ++ e.key) ∧
    ∀ (opened t : FileTree) (site : Site) (r : Request) (dir : Path) (name : Name)
      (content : Bytes) (type : String), c.openSite opened = .ok site →
      site.ServesFile t r (dir ++ [name]) content →
        site.root <+: dir ++ [name] ∧
        ((∃ response, site.handle t r = some response) ↔
          ∃ modified, t.node? (dir ++ [name]) = some (.file content modified) ∧
            0 ≤ modified ∧ modified < 253402300800) ∧
        ∀ response, site.handle t r = some response →
          response.status = .ok ∧ response.body = content ∧
          (response.headers.get? "Content-Type" = some type ↔ c.TypeOfName name type) := by
  refine ⟨?_, ?_, ?_⟩
  · rcases registry_cases c with ⟨bad, cause, hbad, hrefused, -, herror⟩ | ⟨hall, hok⟩
    · exact iff_of_true ⟨_, herror⟩ ⟨bad, hbad, hrefused⟩
    · refine iff_of_false ?_ ?_
      · rintro ⟨e, he⟩
        rw [hok] at he
        cases he
      · rintro ⟨entry, hentry, hrefused⟩
        exact hall entry hentry hrefused
  · intro e he
    rcases registry_cases c with ⟨bad, cause, hbad, hrefused, hfirst, herror⟩ | ⟨-, hok⟩
    · rw [herror] at he
      cases he
      exact ⟨⟨bad.2, hbad, hrefused⟩, hfirst, rfl⟩
    · rw [hok] at he
      cases he
  · intro opened t site r dir name content type hopen hserves
    obtain ⟨modified, hfile, hhandle⟩ := hserves.exists_handle_eq
    have hname : name ≠ dotDot := by
      have hisName := FileTree.isName_of_node?_eq_some hfile name (by simp)
      rintro rfl
      exact absurd hisName (by decide)
    have hroot : site.root <+: dir ++ [name] := by
      obtain ⟨target, -, hp | ⟨_, _, -, -, -, -, hp⟩⟩ := hserves.reaches <;> exact hp.2
    refine ⟨hroot, ?_, ?_⟩
    · rw [hhandle, ← Option.isSome_iff_exists, Option.isSome_map, HttpDate.isSome_format?_iff]
      constructor
      · exact fun hdate => ⟨modified, hfile, hdate⟩
      · rintro ⟨modified', hfile', hdate⟩
        cases hfile.symm.trans hfile'
        exact hdate
    · intro response hresponse
      obtain ⟨date, -, rfl⟩ := Option.map_eq_some_iff.mp (hhandle.symm.trans hresponse)
      rw [Response.get?_contentType_ok, List.getLast?_concat, Option.getD_some,
        Option.some.injEq]
      exact ⟨rfl, rfl, lookupName_iff (registry_of_openSite hopen) hname⟩

/-- Settings with two entries for one extension. -/
def twiceData : Settings :=
  { indexFiles := [], mediaTypes := Dict.ofList [("data", "text/data"), (".data", "image/data")] }

/-- Settings with two entries that are refused. -/
def twiceRefused : Settings :=
  { mediaTypes := Dict.ofList [("x", " "), (".", "text/plain"), ("y", "text/plain")] }

/-- A file of that extension below the default root. -/
def pathOfData : Path := [Utf8.encode "www", Utf8.encode "a.data"]

/-- The tree with this file. -/
def treeOfData : FileTree :=
  (FileTree.empty.set [Utf8.encode "www"] .directory).set pathOfData (.file [1, 2] 0)

/-- The request for this file. -/
def requestForData : Request :=
  { method := .get, target := "/a.data", version := "HTTP/1.1", headers := .empty, body := [] }

/-- The key without a dot comes last, since letters come after the dot; and of the entries that are
refused the one for the dot is named. -/
theorem types_of_files_twiceData :
    (∃ site, twiceData.openSite treeOfData = .ok site ∧
      site.ServesFile treeOfData requestForData pathOfData [1, 2] ∧
      ∃ response, site.handle treeOfData requestForData = some response ∧
        response.headers.get? "Content-Type" = some "text/data") ∧
    ∃ e, twiceRefused.registry = .error e ∧ e.key = "." ∧
      e.message = "invalid mime_types entry for ." := by
  obtain ⟨hrefused, hfirst, -⟩ := types_of_files twiceRefused
  obtain ⟨hfine, -, hserved⟩ := types_of_files twiceData
  constructor
  · have hroot : treeOfData.canonicalize (componentsFrom [] twiceData.root) =
        .ok [Utf8.encode "www"] := by
      cbv
    have hlookup : treeOfData.lookup [Utf8.encode "www"] =
        .ok ([Utf8.encode "www"], .directory) := by
      cbv
    have hfile : treeOfData.canonicalize pathOfData = .ok pathOfData := by
      cbv
    have hopen : ∃ site, twiceData.openSite treeOfData = .ok site ∧
        site.root = [Utf8.encode "www"] := by
      unfold openSite
      cases hregistry : twiceData.registry with
      | error e => exact absurd (hfine.mp ⟨e, hregistry⟩) (by decide)
      | ok types =>
        dsimp only
        rw [Site.openRoot, if_neg (by decide), hroot]
        dsimp only
        rw [hlookup]
        exact ⟨_, rfl, rfl⟩
    obtain ⟨site, hsite, hsiteRoot⟩ := hopen
    have hserves : site.ServesFile treeOfData requestForData pathOfData [1, 2] :=
      { isServable := .inl rfl
        isFile := ⟨0, rfl⟩
        readable := rfl
        reaches := by
          refine ⟨{ segments := ["a.data"], rawPath := "/a.data", query := none }, rfl, .inl ?_⟩
          rw [Site.components, hsiteRoot]
          refine ⟨hfile, ?_⟩
          rw [hsiteRoot]
          exact List.prefix_append _ [_] }
    have htype : twiceData.TypeOfName (Utf8.encode "a.data") "text/data" := by
      refine .ofExtension (e := "data") ⟨Utf8.encode "a", by decide, by decide, by decide⟩ ?_
      exact .asWritten (.inl ⟨"data", by decide⟩)
    obtain ⟨-, hanswered, htypes⟩ := hserved treeOfData treeOfData site requestForData
      [Utf8.encode "www"] (Utf8.encode "a.data") [1, 2] "text/data" hsite hserves
    obtain ⟨response, hresponse⟩ := hanswered.mpr ⟨0, rfl, by decide⟩
    exact ⟨site, hsite, hserves, response, hresponse, (htypes response hresponse).2.2.mpr htype⟩
  · obtain ⟨e, he⟩ := hrefused.mpr (by decide)
    obtain ⟨⟨type, hmem, hkey⟩, hleast, hmessage⟩ := hfirst e he
    have hle := hleast (".", "text/plain") (by decide) (by decide)
    have hleastKey : ∀ entry ∈ twiceRefused.mediaTypes.entries,
        IsRefused entry → Utf8.encode entry.1 ≤ Utf8.encode "." → entry.1 = "." := by decide
    have hdot : e.key = "." := hleastKey _ hmem hkey hle
    rw [hdot] at hmessage
    exact ⟨e, he, hdot, hmessage⟩

end Settings

end PreviewServer
