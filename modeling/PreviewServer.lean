import PreviewServer.Connection
import PreviewServer.Listing
import PreviewServer.Main
import PreviewServer.Server
import PreviewServer.Settings
import PreviewServer.Site
import PreviewServer.Target
import PreviewServer.Proofs.ByteLines
import PreviewServer.Proofs.FieldOrders
import PreviewServer.Proofs.FinalVerdicts
import PreviewServer.Proofs.Chunking
import PreviewServer.Proofs.ConnectionField
import PreviewServer.Proofs.CanonicalPaths
import PreviewServer.Proofs.ConnectionRun
import PreviewServer.Proofs.Confinement
import PreviewServer.Proofs.AcceptedRequests
import PreviewServer.Proofs.RequestFormat
import PreviewServer.Proofs.UnbrokenTexts
import PreviewServer.Proofs.ResponseFraming
import PreviewServer.Proofs.Outcome
import PreviewServer.Proofs.ResponseStream
import PreviewServer.Proofs.Trails
import PreviewServer.Proofs.ListingPages
import PreviewServer.Proofs.Observations
import PreviewServer.Proofs.Redirects
import PreviewServer.Proofs.KeptConnections
import PreviewServer.Proofs.HeadRequests
import PreviewServer.Proofs.BufferBounds
import PreviewServer.Proofs.ByteOrder
import PreviewServer.Proofs.Extensions
import PreviewServer.Proofs.ConfiguredTypes
import PreviewServer.Proofs.LossyDecoding
import PreviewServer.Proofs.ListingLinks
import PreviewServer.Proofs.RelativeLinks
import PreviewServer.Proofs.ListingMarkup
import PreviewServer.Proofs.ListingOrder
import PreviewServer.Proofs.CompleteUrls
import PreviewServer.Proofs.DeclaredLengths
import PreviewServer.Proofs.NameCase
import PreviewServer.Proofs.HeaderOrder
import PreviewServer.Proofs.Queries
import PreviewServer.Proofs.RegistrationHistory
import PreviewServer.Proofs.DocumentValues
import PreviewServer.Proofs.SettingsSources
import PreviewServer.Proofs.DraftSteps
import PreviewServer.Proofs.DeclaredOnce
