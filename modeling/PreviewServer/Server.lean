import PreviewServer.Connection
import PreviewServer.Settings
import PreviewServer.Text.Digits

/-!
# Servers

A server is a site together with the address it is reached at.  It is set up from settings in three
steps, of which the first that fails decides: the media types, the document root, the address.
Every connection is answered for itself.
-/

namespace PreviewServer

/-! ### Addresses -/

/-- An address to listen on. -/
structure ListenAddress where
  /-- The name or the number of the host. -/
  host : String
  /-- The port; zero stands for any free one. -/
  port : Nat
  deriving DecidableEq, Repr

/-- Reads an address: a host, a colon, which is the last one, and a port. -/
def ListenAddress.parse? (text : String) : Option ListenAddress :=
  match cut? ':' text.toList.reverse with
  | none => none
  | some (port, host) =>
    (readDecimal? portLimit port.reverse).map fun n =>
      { host := String.ofList host.reverse, port := n }

/-! ### Setting up -/

/-- A site and the address it is reached at. -/
structure Server where
  /-- The site. -/
  site : Site
  /-- The address. -/
  address : ListenAddress

/-- Why a server cannot be set up. -/
inductive SetupError where
  /-- The site cannot be opened. -/
  | site (e : SiteError)
  /-- The address is none. -/
  | address (text : String)
  deriving DecidableEq, Repr

/-- The wording of a setup error. -/
def SetupError.message : SetupError → String
  | .site e => e.message
  | .address text => "failed to bind " ++ text

namespace Server

/-- Sets a server up. -/
def setUp (s : Settings) (t : FileTree) : Except SetupError Server :=
  match s.openSite t with
  | .error e => .error (.site e)
  | .ok site =>
    match ListenAddress.parse? s.listenAddress with
    | none => .error (.address s.listenAddress)
    | some address => .ok { site := site, address := address }

/-- The bytes sent on a connection on which these chunks arrive. -/
def transcript (s : Server) (order : FieldOrder) (written : Nat → FieldOrder) (t : FileTree)
    (chunks : List Bytes) : Bytes :=
  PreviewServer.transcript order written (s.site.handle t) chunks

end Server

end PreviewServer
