import DavCourier.Calendar.Date
import DavCourier.Calendar.Instant
import DavCourier.Calendar.MailDate
import DavCourier.Command.Line
import DavCourier.Command.Misuse
import DavCourier.Command.Run
import DavCourier.Command.Similarity
import DavCourier.Command.Spec
import DavCourier.Dav.Creation
import DavCourier.Dav.Depth
import DavCourier.Dav.MultiStatus
import DavCourier.Dav.MultiStatus.Printer
import DavCourier.Dav.MultiStatus.Reader
import DavCourier.Dav.Resource
import DavCourier.Http.Connection
import DavCourier.Http.Message
import DavCourier.Http.Outgoing
import DavCourier.Http.Phrase
import DavCourier.Local.Disk
import DavCourier.Local.Entries
import DavCourier.Local.Files
import DavCourier.Local.Path
import DavCourier.Main
import DavCourier.Markup.Event
import DavCourier.Markup.Fault
import DavCourier.Markup.Node
import DavCourier.Markup.Piece
import DavCourier.Markup.Reading
import DavCourier.Markup.Reference
import DavCourier.Markup.Scope
import DavCourier.Proofs.Calendar.Date
import DavCourier.Proofs.Calendar.MailDate
import DavCourier.Proofs.Dav.Document
import DavCourier.Proofs.Dav.Insertion
import DavCourier.Proofs.Dav.Prefix
import DavCourier.Proofs.Dav.Presentation
import DavCourier.Proofs.Dav.Projection
import DavCourier.Proofs.Dav.Removal
import DavCourier.Proofs.Dav.RoundTrip
import DavCourier.Proofs.Dav.StatusLine
import DavCourier.Proofs.Dav.Truncation
import DavCourier.Proofs.Fallible
import DavCourier.Proofs.Local.Below
import DavCourier.Proofs.Local.Proper
import DavCourier.Proofs.Local.Walk
import DavCourier.Proofs.Local.Writing
import DavCourier.Proofs.Markup.Content
import DavCourier.Proofs.Markup.Cutting
import DavCourier.Proofs.Markup.Enclosure
import DavCourier.Proofs.Markup.Reference
import DavCourier.Proofs.Markup.Spelling
import DavCourier.Proofs.Repository.Address
import DavCourier.Proofs.Repository.Agreement
import DavCourier.Proofs.Repository.Escapes
import DavCourier.Proofs.Repository.Inverse
import DavCourier.Proofs.Repository.Recognition
import DavCourier.Proofs.Repository.Reference
import DavCourier.Proofs.ResourcePath
import DavCourier.Proofs.ResourcePath.Written
import DavCourier.Proofs.Server.Faithful
import DavCourier.Proofs.Server.Tree
import DavCourier.Proofs.Text.Blank
import DavCourier.Proofs.Text.Numeral
import DavCourier.Proofs.Text.Percent
import DavCourier.Proofs.Text.Split
import DavCourier.Proofs.Text.Utf8
import DavCourier.Proofs.Transfer.Addressing
import DavCourier.Proofs.Transfer.Attribution
import DavCourier.Proofs.Transfer.Clients
import DavCourier.Proofs.Transfer.Concurrent
import DavCourier.Proofs.Transfer.Containment
import DavCourier.Proofs.Transfer.Course
import DavCourier.Proofs.Transfer.Directory
import DavCourier.Proofs.Transfer.Download
import DavCourier.Proofs.Transfer.Freshness
import DavCourier.Proofs.Transfer.History
import DavCourier.Proofs.Transfer.Listing
import DavCourier.Proofs.Transfer.Members
import DavCourier.Proofs.Transfer.Mirror
import DavCourier.Proofs.Transfer.Naming
import DavCourier.Proofs.Transfer.NormalForm
import DavCourier.Proofs.Transfer.Plan
import DavCourier.Proofs.Transfer.Store
import DavCourier.Proofs.Transfer.Target
import DavCourier.Proofs.Transfer.Transcript
import DavCourier.Proofs.Transfer.Turns
import DavCourier.Proofs.Transfer.Upload
import DavCourier.Proofs.Url.Authority
import DavCourier.Proofs.Url.Domain
import DavCourier.Proofs.Url.Path
import DavCourier.Proofs.Url.Reading
import DavCourier.Repository.Basic
import DavCourier.Repository.EnvFile
import DavCourier.Repository.Environment
import DavCourier.Repository.Href
import DavCourier.Repository.Settings
import DavCourier.ResourcePath
import DavCourier.Text.Alphanumeric
import DavCourier.Text.Base64
import DavCourier.Text.Blank
import DavCourier.Text.Case
import DavCourier.Text.Composed
import DavCourier.Text.Json
import DavCourier.Text.Mark
import DavCourier.Text.Numeral
import DavCourier.Text.Percent
import DavCourier.Text.Ranges
import DavCourier.Text.Split
import DavCourier.Text.Utf8
import DavCourier.Transfer.Collections
import DavCourier.Transfer.Dialogue
import DavCourier.Transfer.Download
import DavCourier.Transfer.Fault
import DavCourier.Transfer.Inquiry
import DavCourier.Transfer.Listing
import DavCourier.Transfer.Probe
import DavCourier.Transfer.Script
import DavCourier.Transfer.Session
import DavCourier.Transfer.Upload
import DavCourier.Url.Basic
import DavCourier.Url.Domain
import DavCourier.Url.Domain.Direction
import DavCourier.Url.Domain.Joiner
import DavCourier.Url.Domain.Mapping
import DavCourier.Url.Domain.Punycode
import DavCourier.Url.Encoding
import DavCourier.Url.Host
import DavCourier.Url.Numeric
import DavCourier.Url.Path
