import PreviewServer.Dict
import PreviewServer.Media.Builtin
import PreviewServer.Files.Lookup
import PreviewServer.Text.AsciiCase
import PreviewServer.Text.Blank

/-!
# Media types of files

A registry tells the media type of a file from its extension.  What was registered comes first,
under exactly the given extension and then under its lower-case form; after that the built-in
types, and for all other files the type of plain bytes.  Of two registrations of one extension the
later one counts.
-/

namespace PreviewServer.Media

/-- The media type of files nothing is known about. -/
def fallback : String := "application/octet-stream"

/-! ### Registrations -/

/-- The media types registered on top of the built-in ones. -/
structure Registry where
  /-- The registered types, keyed by extensions with their dot. -/
  registered : Dict String String

/-- Why a media type cannot be registered. -/
inductive RegisterError where
  /-- There is no extension. -/
  | emptyExtension
  /-- The media type of this extension is blank. -/
  | emptyType (extension : String)
  deriving DecidableEq, Repr

/-- The wording of a registration error. -/
def RegisterError.message : RegisterError → String
  | .emptyExtension => "cannot register an empty extension"
  | .emptyType e => "content-type for " ++ e ++ " must not be empty"

/-- An extension with its dot, which may be left out. -/
def dotted (extension : String) : String :=
  if extension.toList.head? = some '.' then extension else "." ++ extension

namespace Registry

/-- The registry that knows the built-in types only. -/
def builtinOnly : Registry := ⟨Dict.empty⟩

/-- The registry to start from: WebAssembly modules have their type for certain. -/
def preview : Registry := ⟨Dict.empty.insert ".wasm" "application/wasm"⟩

/-- Whether a media type may be registered for an extension with its dot. -/
def check (extension mediaType : String) : Except RegisterError Unit :=
  if extension.utf8ByteSize < 2 then .error .emptyExtension
  else if trimBlanks mediaType.toList = [] then .error (.emptyType extension)
  else .ok ()

/-- The registry after registering a media type for an extension. -/
def register (r : Registry) (extension mediaType : String) : Except RegisterError Registry :=
  match check (dotted extension) mediaType with
  | .error e => .error e
  | .ok () => .ok ⟨r.registered.insert (dotted extension) mediaType⟩

/-- The number of registered extensions. -/
def size (r : Registry) : Nat := r.registered.size

/-! ### Looking up -/

/-- The text without the dots at its start. -/
def withoutDots (s : String) : String := String.ofList (s.toList.dropWhile (· = '.'))

/-- The media type of an extension, with or without its dot. -/
def lookup (r : Registry) (extension : String) : String :=
  match r.registered.get? (dotted extension) with
  | some t => t
  | none =>
    let lowered := asciiLower (dotted extension)
    match r.registered.get? lowered with
    | some t => t
    | none => (builtin? (withoutDots lowered)).getD fallback

/-- The extension in the name of a file: what follows its last dot, unless there is no dot but at
the very start. -/
def extensionOf? (name : Name) : Option Name :=
  if name = dotDot then none
  else
    match cut? 0x2E name.reverse with
    | some (_, []) => none
    | some (extension, _) => some extension.reverse
    | none => none

/-- The name at the end of a path as written, leaving out components that stay where they are.
There is none where the path ends by going up, and none in a lone dot. -/
def fileName? (text : Bytes) : Option Name :=
  match (withoutTrailing (fields slash text)).getLast? with
  | some c => if c = dotDot then none else some c
  | none => none

/-- The media type of a file with this name. -/
def lookupName (r : Registry) (name : Name) : String :=
  match extensionOf? name with
  | some e =>
    match Utf8.decode? e with
    | some e => r.lookup e
    | none => fallback
  | none => fallback

/-- The media type of the file that a path as written names. -/
def lookupPath (r : Registry) (text : Bytes) : String :=
  match fileName? text with
  | some name => r.lookupName name
  | none => fallback

end Registry

end PreviewServer.Media
