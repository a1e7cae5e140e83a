import PreviewServer.Site
import PreviewServer.Yaml.Document

/-!
# Settings

What a server is told: where to listen, what to serve and how.  Settings come from a YAML document
in which every field may be left out, and two of them may be overridden by the environment
(`Settings.load`).  A document that is not a mapping of the right shape is refused as a whole.
-/

namespace PreviewServer

/-- The settings of a server. -/
structure Settings where
  /-- The address to listen on. -/
  listenAddress : String := "127.0.0.1:8000"
  /-- The document root, as a path. -/
  root : Bytes := Utf8.encode "www"
  /-- The files served in place of a directory, tried in order. -/
  indexFiles : List String := ["index.html", "index.htm"]
  /-- Whether a directory without index file is listed. -/
  directoryListing : Bool := true
  /-- Media types of further extensions. -/
  mediaTypes : Dict String String := Dict.empty

namespace Settings

/-! ### Values in a document -/

/-- The text of a scalar, however it is written and tagged. -/
def text? : Yaml.Node → Option String
  | .scalar _ _ _ text => some (String.ofList text)
  | _ => none

/-- The tag of flags. -/
def flagTag : Bytes := Utf8.encode "tag:yaml.org,2002:bool"

/-- The words for a flag. -/
def flagWords : List (String × Bool) :=
  [("true", true), ("True", true), ("TRUE", true), ("false", false), ("False", false),
   ("FALSE", false)]

/-- The flag that a word stands for. -/
def flagOfWord? (word : String) : Option Bool :=
  (flagWords.find? fun w => w.1 = word).map Prod.snd

/-- The value of a flag.  It has to be written plain, or as a literal block that is tagged as a
flag. -/
def flag? : Yaml.Node → Option Bool
  | .scalar _ tag style text =>
    if style = .plain ∨ (style = .literal ∧ tag = some flagTag) then
      flagOfWord? (String.ofList text)
    else none
  | _ => none

/-- Whether nothing is written for a node. -/
def isBlankNode : Yaml.Node → Bool
  | .scalar _ _ .plain [] => true
  | _ => false

/-- The texts of a list; nothing at all is the empty list. -/
def texts? (document : Yaml.Node) (n : Yaml.Node) : Option (List String) :=
  match n with
  | .sequence _ items => items.mapM fun i => text? (document.deref i)
  | n => if isBlankNode n then some [] else none

/-- The entries of a mapping, with their keys as texts; nothing at all is the empty mapping. -/
def entries? (document : Yaml.Node) (n : Yaml.Node) : Option (List (String × Yaml.Node)) :=
  match n with
  | .mapping _ entries =>
    entries.mapM fun e => (text? (document.deref e.1)).map fun k => (k, document.deref e.2)
  | n => if isBlankNode n then some [] else none

/-- The texts of a table.  The last one of equal keys counts. -/
def table? (document : Yaml.Node) (n : Yaml.Node) : Option (Dict String String) :=
  match entries? document n with
  | none => none
  | some es => (es.mapM fun e => (text? e.2).map fun v => (e.1, v)).map Dict.ofList

/-! ### Documents -/

/-- The names of the fields. -/
def fieldNames : List String :=
  ["listen_addr", "root", "index_files", "directory_listing", "mime_types"]

/-- The value of a field, or the default if it is left out. -/
def fieldD {α : Type} (entries : List (String × Yaml.Node)) (name : String)
    (read? : Yaml.Node → Option α) (default : α) : Option α :=
  match entries.find? fun e => e.1 = name with
  | some e => read? e.2
  | none => some default

/-- The settings that the entries of a document give.  No field may occur twice; other keys are
ignored. -/
def ofEntries? (document : Yaml.Node) (entries : List (String × Yaml.Node)) : Option Settings :=
  let defaults : Settings := {}
  if ((entries.map Prod.fst).filter fieldNames.contains).Nodup then do
    -- Every field that is written has to be well formed, whichever comes first.
    let listenAddress ← fieldD entries "listen_addr" text? defaults.listenAddress
    let root ← fieldD entries "root" (fun n => (text? n).map Utf8.encode) defaults.root
    let indexFiles ← fieldD entries "index_files" (texts? document) defaults.indexFiles
    let directoryListing ← fieldD entries "directory_listing" flag? defaults.directoryListing
    let mediaTypes ← fieldD entries "mime_types" (table? document) defaults.mediaTypes
    return { listenAddress, root, indexFiles, directoryListing, mediaTypes }
  else none

/-- The settings in the text of a document. -/
def ofText? (text : String) : Option Settings :=
  match Yaml.Node.ofText text with
  | .error _ => none
  | .ok document =>
    match entries? document document with
    | none => none
    | some entries => ofEntries? document entries

/-! ### Loading -/

/-- The variables of the environment that matter, as far as they are set. -/
structure Environment where
  /-- The path of a file with settings. -/
  settingsFile : Option Bytes := none
  /-- The address to listen on. -/
  listenAddress : Option Bytes := none
  /-- The document root. -/
  root : Option Bytes := none

/-- Why settings cannot be loaded. -/
inductive LoadError where
  /-- The file at this path cannot be read, or is not text. -/
  | unreadable (path : String)
  /-- The file at this path does not hold settings. -/
  | invalid (path : String)
  deriving DecidableEq, Repr

/-- The wording of a load error. -/
def LoadError.message : LoadError → String
  | .unreadable path => "failed to read config file " ++ path
  | .invalid path => "invalid config file " ++ path

/-- The settings in the file at a path. -/
def ofFile (contentOf? : Bytes → Option Bytes) (path : String) : Except LoadError Settings :=
  match (contentOf? (Utf8.encode path)).bind Utf8.decode? with
  | none => .error (.unreadable path)
  | some text =>
    match ofText? text with
    | none => .error (.invalid path)
    | some s => .ok s

/-- The value of a variable; one that is not text counts as not set. -/
def variableText? (value : Option Bytes) : Option String := value.bind Utf8.decode?

/-- The settings with what the environment overrides. -/
def override (s : Settings) (env : Environment) : Settings :=
  { s with
    listenAddress := (variableText? env.listenAddress).getD s.listenAddress
    root := ((variableText? env.root).map Utf8.encode).getD s.root }

/-- Loads the settings: the defaults or those of a file, with what the environment overrides. -/
def load (env : Environment) (contentOf? : Bytes → Option Bytes) : Except LoadError Settings :=
  match variableText? env.settingsFile with
  | none => .ok (override {} env)
  | some path =>
    match ofFile contentOf? path with
    | .error e => .error e
    | .ok s => .ok (s.override env)

/-! ### Media types -/

/-- A configured media type that cannot be registered. -/
structure MediaTypeError where
  /-- The key of the entry. -/
  key : String
  /-- What is wrong with it. -/
  cause : Media.RegisterError
  deriving DecidableEq, Repr

/-- The wording of a media type error. -/
def MediaTypeError.message (e : MediaTypeError) : String := "invalid mime_types entry for " ++ e.key

/-- Registers entries one after another; the first one that is refused decides. -/
def registerAll (r : Media.Registry) :
    List (String × String) → Except MediaTypeError Media.Registry
  | [] => .ok r
  | e :: es =>
    match r.register e.1 e.2 with
    | .error cause => .error { key := e.1, cause := cause }
    | .ok r => registerAll r es

/-- The registry for a server: the configured media types, in the order of their keys. -/
def registry (s : Settings) : Except MediaTypeError Media.Registry :=
  registerAll .preview s.mediaTypes.sorted

end Settings

/-- Why the site of some settings cannot be opened. -/
inductive SiteError where
  /-- A configured media type cannot be registered. -/
  | mediaType (e : Settings.MediaTypeError)
  /-- The document root cannot be opened. -/
  | root (e : RootError)
  deriving DecidableEq, Repr

/-- The wording of a site error. -/
def SiteError.message : SiteError → String
  | .mediaType e => e.message
  | .root e => e.message

namespace Settings

/-- Opens the site that the settings describe, in a file tree. -/
def openSite (s : Settings) (t : FileTree) : Except SiteError Site :=
  match s.registry with
  | .error e => .error (.mediaType e)
  | .ok types =>
    match Site.openRoot t s.root s.indexFiles s.directoryListing types with
    | .error e => .error (.root e)
    | .ok site => .ok site

end Settings

end PreviewServer
