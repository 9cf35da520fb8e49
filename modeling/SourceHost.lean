import SourceHost.Bytes
import SourceHost.Text.Utf8
import SourceHost.Text.Blank
import SourceHost.Wire.Wired
import SourceHost.Catalog.Classification
import SourceHost.Catalog.Listing
import SourceHost.Catalog.Filter
import SourceHost.Catalog.Manga
import SourceHost.Catalog.Page
import SourceHost.Catalog.Home
import SourceHost.Url.Basic
import SourceHost.Http.Exchange
import SourceHost.Arena.Basic
import SourceHost.Mailbox
import SourceHost.RateLimit
import SourceHost.Memory.Frame
import SourceHost.Settings
import SourceHost.Runtime
import SourceHost.Date.Timestamp
import SourceHost.Guest.Basic
import SourceHost.Guest.Script
import SourceHost.Guest.Run
import SourceHost.Session.Basic
import SourceHost.Functions.Table
import SourceHost.Source.Features
import SourceHost.Source.Config
import SourceHost.Source.Call
import SourceHost.Source.Entry
import SourceHost.Source.Load
import SourceHost.Proofs.Text.Utf8
import SourceHost.Proofs.Text.Order
import SourceHost.Proofs.Wire.Varint
import SourceHost.Proofs.Wire.Width
import SourceHost.Proofs.Wire.Node
import SourceHost.Proofs.Wire.Spelling
import SourceHost.Proofs.Wire.Reading
import SourceHost.Proofs.Wire.Signed
import SourceHost.Proofs.Wire.Writing
import SourceHost.Proofs.Wire.RoundTrip
import SourceHost.Proofs.Wire.Content
import SourceHost.Proofs.Wire.Locality
import SourceHost.Proofs.Wire.Canonical
import SourceHost.Proofs.Wire.Demand
import SourceHost.Proofs.Wire.Table
import SourceHost.Proofs.Wire.Tidy
import SourceHost.Proofs.Wire.Moment
import SourceHost.Proofs.Catalog.Laws
import SourceHost.Proofs.Catalog.RoundTrip
import SourceHost.Proofs.Catalog.Home
import SourceHost.Proofs.Catalog.Belonging
import SourceHost.Proofs.Catalog.Merging
import SourceHost.Proofs.Catalog.Layout
import SourceHost.Proofs.Arena.Turn
import SourceHost.Proofs.Arena.Handles
import SourceHost.Proofs.Arena.Succession
import SourceHost.Proofs.RateLimit.Windows
import SourceHost.Proofs.RateLimit.Race
import SourceHost.Proofs.Memory.Access
import SourceHost.Proofs.Memory.Frame
import SourceHost.Proofs.Memory.Writes
import SourceHost.Proofs.Mailbox.Folds
import SourceHost.Proofs.Settings.Isolation
import SourceHost.Proofs.Session.Turn
import SourceHost.Proofs.Session.News
import SourceHost.Proofs.Source.Arguments
import SourceHost.Proofs.Source.Call
import SourceHost.Proofs.Source.Use
import SourceHost.Proofs.Source.Results
import SourceHost.Proofs.Source.CleanUp
import SourceHost.Proofs.Source.Bystanders
import SourceHost.Proofs.Source.News
import SourceHost.Proofs.Source.Home
import SourceHost.Proofs.Source.Belonging
import SourceHost.Proofs.Source.Delivery
import SourceHost.Proofs.Functions.AllOrNothing
import SourceHost.Proofs.Session.Calls
import SourceHost.Proofs.Settings.Persistence
import SourceHost.Proofs.Web.Batch
import SourceHost.Proofs.Web.History
import SourceHost.Proofs.Web.LifeCycle
import SourceHost.Proofs.Web.Body
import SourceHost.Proofs.Date.Notation
import SourceHost.Proofs.Date.Zones
import SourceHost.Proofs.Date.Offsets
import SourceHost.Proofs.Date.Facts
import SourceHost.Proofs.Date.Moments
import SourceHost.Proofs.Functions.Dates
import SourceHost.Proofs.Source.Refusal
import SourceHost.Proofs.Session.Mute
import SourceHost.Proofs.Source.Update
