import PreviewServer.Media.Builtin.Application
import PreviewServer.Media.Builtin.ApplicationPrivate
import PreviewServer.Media.Builtin.AudioVideo
import PreviewServer.Media.Builtin.Image
import PreviewServer.Media.Builtin.Other
import PreviewServer.Media.Builtin.Text
import PreviewServer.Media.Builtin.VendorFirst
import PreviewServer.Media.Builtin.VendorSecond

/-!
# Built-in media types

The media types that are known without configuration, each with the extensions of its files.  No
extension belongs to two types.  Extensions are ASCII; a text matches one when it becomes the
extension under full case folding, so the long s and the ligatures, which fold to ASCII letters,
match as well.
-/

namespace PreviewServer.Media

namespace Builtin

/-- Every built-in media type with its extensions. -/
def table : List (String × List String) :=
  application ++ applicationPrivate ++ vendorFirst ++ vendorSecond ++ text ++ image ++ audioVideo ++
    other

end Builtin

/-! ### Case folding into ASCII -/

/-- The characters outside ASCII whose full case folding lies in ASCII, with that folding. -/
def asciiFoldings : List (Char × List Char) :=
  [('\u00DF', ['s', 's']), ('\u017F', ['s']), ('\u1E9E', ['s', 's']), ('\u212A', ['k']),
   ('\uFB00', ['f', 'f']), ('\uFB01', ['f', 'i']), ('\uFB02', ['f', 'l']),
   ('\uFB03', ['f', 'f', 'i']), ('\uFB04', ['f', 'f', 'l']), ('\uFB05', ['s', 't']),
   ('\uFB06', ['s', 't'])]

/-- The case folding of a character as far as ASCII is concerned: a character outside ASCII that
does not fold into it stays as it is. -/
def foldChar (c : Char) : List Char :=
  match asciiFoldings.find? fun f => f.1 = c with
  | some f => f.2
  | none => [c.toLower]

/-- The case folding of a text as far as ASCII is concerned. -/
def foldText (s : String) : String := String.ofList (s.toList.flatMap foldChar)

/-- The built-in media type of an extension without its dot. -/
def builtin? (extension : String) : Option String :=
  (Builtin.table.find? fun row => row.2.contains (foldText extension)).map Prod.fst

end PreviewServer.Media
