import PreviewServer.Yaml.Node

/-!
# YAML documents

A text is read as a single document.  Directives may come before its start mark; without the mark
there are none.  Behind the document nothing may follow but end marks.
-/

namespace PreviewServer.Yaml

/-! ### Directives -/

/-- The handles that every document knows. -/
def standardHandles : Handles :=
  [(['!'], Utf8.encode "!"), (['!', '!'], Utf8.encode "tag:yaml.org,2002:")]

/-- The versions that directives declare. -/
def versions (ds : List Directive) : List (Nat × Nat) :=
  ds.filterMap fun
    | .version major minor => some (major, minor)
    | .handle _ _ => none

/-- The handles that directives declare. -/
def declaredHandles (ds : List Directive) : Handles :=
  ds.filterMap fun
    | .version _ _ => none
    | .handle name meaning => some (name, meaning)

/-- Whether a version is one of those that are read. -/
def isSupported (v : Nat × Nat) : Bool := v = (1, 1) || v = (1, 2)

/-- What handles stand for after some directives.  Nothing may be declared twice. -/
def handlesOf? (ds : List Directive) : Option Handles :=
  if (versions ds).length ≤ 1 ∧ (versions ds).all isSupported ∧
      ((declaredHandles ds).map Prod.fst).Nodup then
    some (declaredHandles ds ++ standardHandles)
  else none

/-- The directives at the start of some tokens. -/
def leadingDirectives : List Token → List Directive
  | .directive d :: ts => d :: leadingDirectives ts
  | _ => []

/-! ### Documents -/

/-- Whether a token, or the end, leaves the document before it empty. -/
def endsDocument : Option Token → Bool
  | none | some (.directive _) | some .documentStart | some .documentEnd => true
  | _ => false

/-- Reads the node of a document, and gives the tokens behind it. -/
def readRoot (handles : Handles) (ts : List Token) : Except Error (Node × List Token) :=
  match readNode handles (3 * ts.length + 3) false false { tokens := ts, anchors := [] } with
  | .error e => .error e
  | .ok (n, r) => .ok (n, r.tokens)

/-- Reads a document at the start of some tokens, and gives the tokens behind it. -/
def readDocument (ts : List Token) : Except Error (Node × List Token) :=
  match ts with
  | [] => .ok (.blank, [])
  | t :: _ =>
    let directives := leadingDirectives ts
    if directives = [] ∧ t ≠ .documentStart then readRoot standardHandles ts
    else
      match handlesOf? directives, ts.drop directives.length with
      | some handles, .documentStart :: ts =>
        if endsDocument ts.head? then .ok (.blank, ts) else readRoot handles ts
      | none, _ => .error .badDirective
      | _, _ => .error .unexpectedToken

/-- The single document of a text. -/
def Node.ofText (text : String) : Except Error Node :=
  match Token.ofText text.toList with
  | .error e => .error e
  | .ok ts =>
    match readDocument ts with
    | .error e => .error e
    | .ok (n, behind) =>
      if behind.all (· = .documentEnd) then .ok n else .error .severalDocuments

end PreviewServer.Yaml
