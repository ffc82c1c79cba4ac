import OpenBadges.Action
import OpenBadges.Action.Codec
import OpenBadges.Action.Summary
import OpenBadges.App
import OpenBadges.Collections.Items
import OpenBadges.CommandLine.Arguments
import OpenBadges.CommandLine.Program
import OpenBadges.Decimal.Binary64
import OpenBadges.Decimal.Layout
import OpenBadges.Decimal.Shortest
import OpenBadges.Dict
import OpenBadges.Event
import OpenBadges.Flow.ActionLoop
import OpenBadges.Flow.Audience
import OpenBadges.Flow.Crew
import OpenBadges.Flow.Dispatcher
import OpenBadges.Flow.EventBus
import OpenBadges.Flow.Interleaving
import OpenBadges.Flow.Outcome
import OpenBadges.Flow.Report
import OpenBadges.Flow.Script
import OpenBadges.Flow.Wiring
import OpenBadges.Forms.Catalogue
import OpenBadges.Forms.FieldValue
import OpenBadges.Forms.Registry
import OpenBadges.Forms.Schema
import OpenBadges.Http.Client
import OpenBadges.Http.CookieJar
import OpenBadges.Json.Basic
import OpenBadges.Json.Cursor
import OpenBadges.Json.Decoder
import OpenBadges.Json.Document
import OpenBadges.Json.Parser
import OpenBadges.Json.Printer
import OpenBadges.Main
import OpenBadges.Request.Context
import OpenBadges.Store.CollectionStore
import OpenBadges.Store.FormStore
import OpenBadges.Store.ViewStores
import OpenBadges.Stores
import OpenBadges.Text.Blank
import OpenBadges.Text.Canonical
import OpenBadges.Text.Case
import OpenBadges.Text.Mark
import OpenBadges.Text.Quoted
import OpenBadges.Text.Segments
import OpenBadges.Transport.Exchange
import OpenBadges.Transport.Rehearsed
import OpenBadges.Transport.Request
import OpenBadges.Url.Basic
import OpenBadges.Url.Domain
import OpenBadges.Url.Domain.Direction
import OpenBadges.Url.Domain.Joining
import OpenBadges.Url.Domain.Mapping
import OpenBadges.Url.Domain.Punycode
import OpenBadges.Url.Host
import OpenBadges.Url.Parser
import OpenBadges.Url.Path
import OpenBadges.Url.Percent
import OpenBadges.View.Bootstrap
import OpenBadges.View.Menu
import OpenBadges.View.Message
import OpenBadges.View.Panel
import OpenBadges.Proofs.RunOrder
import OpenBadges.Proofs.Calls
import OpenBadges.Proofs.FormRecords
import OpenBadges.Proofs.StoreOrder
import OpenBadges.Proofs.Pending
import OpenBadges.Proofs.Identity
import OpenBadges.Proofs.Uniqueness
import OpenBadges.Proofs.Contents
import OpenBadges.Proofs.Answers
import OpenBadges.Proofs.Announcements
import OpenBadges.Proofs.Course
import OpenBadges.Proofs.Fetching
import OpenBadges.Proofs.Settlement
import OpenBadges.Proofs.Rounds
import OpenBadges.Proofs.Idle
import OpenBadges.Proofs.FormLife
import OpenBadges.Proofs.HandOff
import OpenBadges.Proofs.Edits
import OpenBadges.Proofs.RequestLog
import OpenBadges.Proofs.ChangeReports
import OpenBadges.Proofs.Existence
import OpenBadges.Proofs.Origins
import OpenBadges.Proofs.Completion
import OpenBadges.Proofs.Loading
import OpenBadges.Proofs.FetchCommand
import OpenBadges.Proofs.Reachability
import OpenBadges.Proofs.Refusals
import OpenBadges.Proofs.Seating
import OpenBadges.Proofs.Deliveries
import OpenBadges.Proofs.Rereading
import OpenBadges.Proofs.Documents
import OpenBadges.Proofs.Upsert
import OpenBadges.Proofs.Replay
import OpenBadges.Proofs.Filtering
import OpenBadges.Proofs.FieldUpdates
import OpenBadges.Proofs.PathParameters
import OpenBadges.Proofs.Links
import OpenBadges.Proofs.Words
import OpenBadges.Proofs.TypeNames
import OpenBadges.Proofs.Cookies
import OpenBadges.Proofs.Rehearsals
import OpenBadges.Proofs.Searches
