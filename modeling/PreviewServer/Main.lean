import PreviewServer.Server
import Std.Async.DNS
import Std.Async.TCP

/-!
# The program

Loads the settings, opens the site and answers connections, each on a thread of its own.  The files
are read from disk into a tree whenever bytes have arrived that make up a request, and everything
that is then decided is decided on that tree.  Pipes and devices are read only when they are asked
for, since this may take any time.
-/

namespace PreviewServer.Program

open Std.Net

/-! ### Files -/

/-- The largest number of bytes that are taken from a connection at once. -/
def chunkSize : UInt64 := 4096

/-- The node for something on disk that is no directory and no link, and whether it refuses to be
read.  Only regular files are read. -/
def leaf (path : String) (info : IO.FS.Metadata) : IO (Node × Bool) := do
  let modified := info.modified.sec
  match info.type with
  | .file =>
    match ← (IO.FS.readBinFile path).toBaseIO with
    | .ok content => return (.file content.data.toList modified, false)
    | .error _ => return (.file [] modified, true)
  | _ => return (.special none modified, false)

/-- The tree with what a link leads to, if that lies outside the root.  Its content is never shown,
only what kind of node it is. -/
def addTarget (root : Path) (t : FileTree) (text : Bytes) (info : IO.FS.Metadata) : FileTree :=
  let components := componentsFrom [] text
  if root.isPrefixOf components then t
  else
    match info.type with
    | .dir => (t.makeDirectories [] components).1
    | .file => t.put [] text (.file [] 0)
    | _ => t.put [] text (.special none 0)

/-- The tree with an entry of a directory and everything below it. -/
partial def addEntry (root dir : Path) (t : FileTree) (e : IO.FS.DirEntry) : IO FileTree := do
  let here := dir ++ [Utf8.encode e.fileName]
  match ← e.path.symlinkMetadata.toBaseIO with
  | .error _ => return t
  | .ok info =>
    match info.type with
    | .dir =>
      match ← e.path.readDir.toBaseIO with
      | .error _ => return (t.set here .directory).lock here
      | .ok es => es.foldlM (addEntry root here) (t.set here .directory)
    | .symlink =>
      match ← (IO.FS.realPath e.path).toBaseIO with
      | .error _ => return t.set here (.link [])
      | .ok target =>
        let text := Utf8.encode target.toString
        let t := t.set here (.link text)
        match ← target.metadata.toBaseIO with
        | .error _ => return t
        | .ok info => return addTarget root t text info
    | _ =>
      let (n, refuses) ← leaf e.path.toString info
      let t := t.set here n
      return if refuses then t.lock here else t

/-- The files at and below a canonical path. -/
def filesBelow (path : String) : IO FileTree := do
  let components := componentsFrom [] (Utf8.encode path)
  let info ← (← IO.FS.realPath path).metadata
  match info.type with
  | .dir =>
    let es ← (← IO.FS.realPath path).readDir
    es.foldlM (addEntry components components) (FileTree.empty.makeDirectories [] components).1
  | _ => return FileTree.empty.put [] (Utf8.encode path) (← leaf path info).1

/-- The tree with the bytes of the pipe or device that a request asks for, if it asks for one. -/
def readSpecial (site : Site) (t : FileTree) (r : Request) : IO FileTree := do
  match Target.parse r.target with
  | .error _ => return t
  | .ok target =>
    match site.confine t (site.components target) with
    | .error _ => return t
    | .ok p =>
      match t.node? p with
      | some (.special none modified) =>
        match ← (IO.FS.readBinFile (Utf8.decodeLossy p.text)).toBaseIO with
        | .error _ => return t
        | .ok content => return t.set p (.special (some content.data.toList) modified)
      | _ => return t

/-! ### Connections -/

/-- The order in which the program goes through header fields. -/
def fieldOrder : FieldOrder := .asSet

/-- Gives answers for as long as the buffer holds requests.  What is left of the buffer comes back,
unless the connection was closed. -/
partial def answer (site : Site) (t : FileTree) (client : Std.Async.TCP.Socket.Client)
    (buffer : Bytes) : IO (Option Bytes) := do
  let t ←
    match Request.read fieldOrder buffer with
    | .ok (r, _) => readSpecial site t r
    | .error _ => pure t
  match Turn.next fieldOrder (site.handle t) buffer with
  | .wait => return some buffer
  | .answer reply rest =>
    (client.send ⟨(reply.bytes fieldOrder).toArray⟩).block
    answer site t client rest
  | .close reply =>
    (client.send ⟨(reply.bytes fieldOrder).toArray⟩).block
    client.shutdown.block
    return none
  | .breakDown =>
    client.shutdown.block
    return none

/-- Answers a connection until one of its ends is closed. -/
partial def attend (site : Site) (client : Std.Async.TCP.Socket.Client) (buffer : Bytes) :
    IO Unit := do
  match ← (client.recv? chunkSize).block with
  | none => return
  | some chunk =>
    let buffer := buffer ++ chunk.data.toList
    match Request.read fieldOrder buffer with
    | .error .incomplete => attend site client buffer
    | _ =>
      let t ← filesBelow (Utf8.decodeLossy site.root.text)
      match ← answer site t client buffer with
      | some rest => attend site client rest
      | none => return

/-- Accepts connections for good. -/
partial def listen (site : Site) (socket : Std.Async.TCP.Socket.Server) : IO Unit := do
  let client ← socket.accept.block
  let _ ← IO.asTask (attend site client []) Task.Priority.dedicated
  listen site socket

/-! ### Starting -/

/-- The host of an address without the brackets around a number of the longer kind. -/
def hostName (a : ListenAddress) : String :=
  match a.host.toList with
  | '[' :: inner => String.ofList inner.dropLast
  | name => String.ofList name

/-- The address to bind to. -/
def socketAddress (a : ListenAddress) : IO (Option SocketAddress) := do
  let port := a.port.toUInt16
  let found ← (Std.Async.DNS.getAddrInfo (hostName a) "").block.toBaseIO
  match found with
  | .error _ => return none
  | .ok hosts =>
    return hosts[0]?.map fun
      | .v4 host => .v4 { addr := host, port := port }
      | .v6 host => .v6 { addr := host, port := port }

/-- How many clients may wait to be accepted. -/
def backlog : UInt32 := 128

/-- The port of an address. -/
def portOf : SocketAddress → UInt16
  | .v4 a => a.port
  | .v6 a => a.port

/-- The variables of the environment that matter. -/
def environment : IO Settings.Environment := do
  let variableBytes := fun (name : String) => do return (← IO.getEnv name).map Utf8.encode
  return { settingsFile := ← variableBytes "DOCPREVIEW_CONFIG"
           listenAddress := ← variableBytes "LISTEN"
           root := ← variableBytes "DOC_ROOT" }

/-- The bytes of the file that the environment names. -/
def settingsFile (env : Settings.Environment) : IO (Option Bytes) := do
  match env.settingsFile.bind Utf8.decode? with
  | none => return none
  | some path =>
    match ← (IO.FS.readBinFile path).toBaseIO with
    | .ok content => return some content.data.toList
    | .error _ => return none

/-- The settings with their root as a canonical path, and the files there.  A root that does not
exist stays as it is. -/
def locate (s : Settings) : IO (Settings × FileTree) := do
  match ← (IO.FS.realPath (Utf8.decodeLossy s.root)).toBaseIO with
  | .error _ => return (s, .empty)
  | .ok root =>
    return ({ s with root := Utf8.encode root.toString }, ← filesBelow root.toString)

/-- Reports why there is no server. -/
def fail (message : String) : IO UInt32 := do
  IO.eprintln ("Error: " ++ message)
  return 1

/-- Runs a server whose address was given as `text`. -/
def run (s : Server) (text : String) : IO UInt32 := do
  match ← socketAddress s.address with
  | none => fail (SetupError.address text).message
  | some address =>
    let socket ← Std.Async.TCP.Socket.Server.mk
    match ← (do socket.bind address; socket.listen backlog : IO Unit).toBaseIO with
    | .error _ => fail (SetupError.address text).message
    | .ok () =>
      IO.println ("Running on port " ++ toString (portOf (← socket.getSockName)))
      (← IO.getStdout).flush
      listen s.site socket
      return 0

end PreviewServer.Program

open PreviewServer PreviewServer.Program in
/-- Loads the settings and runs a server until it is stopped. -/
def main : IO UInt32 := do
  let env ← environment
  let file ← settingsFile env
  match Settings.load env fun _ => file with
  | .error e => fail e.message
  | .ok settings =>
    let (settings, t) ← locate settings
    match Server.setUp settings t with
    | .error e => fail e.message
    | .ok server => run server settings.listenAddress
