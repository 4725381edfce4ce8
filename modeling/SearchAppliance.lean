import SearchAppliance.Calendar.Date
import SearchAppliance.Calendar.Instant
import SearchAppliance.Clock
import SearchAppliance.Document
import SearchAppliance.Failure
import SearchAppliance.Hash.Blake2b
import SearchAppliance.Identity
import SearchAppliance.Index.Query
import SearchAppliance.Index.Search
import SearchAppliance.Index.Store
import SearchAppliance.Json
import SearchAppliance.Log
import SearchAppliance.Number.Dyadic
import SearchAppliance.Number.Numeral
import SearchAppliance.Page.Document
import SearchAppliance.Page.Session
import SearchAppliance.Pairs
import SearchAppliance.Proofs.Calendar.Date
import SearchAppliance.Proofs.Calendar.HeaderDate
import SearchAppliance.Proofs.Calendar.Moment
import SearchAppliance.Proofs.Calendar.Succession
import SearchAppliance.Proofs.Hash.Blake2b
import SearchAppliance.Proofs.Identity
import SearchAppliance.Proofs.Index.Answer
import SearchAppliance.Proofs.Index.Arrangement
import SearchAppliance.Proofs.Index.Composition
import SearchAppliance.Proofs.Index.Fragments
import SearchAppliance.Proofs.Index.Frame
import SearchAppliance.Proofs.Index.History
import SearchAppliance.Proofs.Index.Identifier
import SearchAppliance.Proofs.Index.Marks
import SearchAppliance.Proofs.Index.Paging
import SearchAppliance.Proofs.Index.Reference
import SearchAppliance.Proofs.Index.Score
import SearchAppliance.Proofs.Index.Snippets
import SearchAppliance.Proofs.Index.SortKey
import SearchAppliance.Proofs.Index.Spans
import SearchAppliance.Proofs.Index.Store
import SearchAppliance.Proofs.Index.Window
import SearchAppliance.Proofs.NodeName
import SearchAppliance.Proofs.Number.DecimalText
import SearchAppliance.Proofs.Number.Numeral
import SearchAppliance.Proofs.Number.Overlong
import SearchAppliance.Proofs.Outcome
import SearchAppliance.Proofs.Page.Characters
import SearchAppliance.Proofs.Page.Independence
import SearchAppliance.Proofs.Page.Limits
import SearchAppliance.Proofs.Page.Lockstep
import SearchAppliance.Proofs.Page.Options
import SearchAppliance.Proofs.Page.Pieces
import SearchAppliance.Proofs.Page.Projection
import SearchAppliance.Proofs.Page.Ranks
import SearchAppliance.Proofs.Page.Reading
import SearchAppliance.Proofs.Page.Session
import SearchAppliance.Proofs.Page.StartTag
import SearchAppliance.Proofs.Page.Stopping
import SearchAppliance.Proofs.Page.Texts
import SearchAppliance.Proofs.Page.Timing
import SearchAppliance.Proofs.Page.Truncation
import SearchAppliance.Proofs.Page.Untimed
import SearchAppliance.Proofs.Result.Address
import SearchAppliance.Proofs.Result.ChangeDate
import SearchAppliance.Proofs.Result.Contribution
import SearchAppliance.Proofs.Result.Digest
import SearchAppliance.Proofs.Result.Fold
import SearchAppliance.Proofs.Result.Leniency
import SearchAppliance.Proofs.Result.Overlong
import SearchAppliance.Proofs.Result.Shown
import SearchAppliance.Proofs.Result.Size
import SearchAppliance.Proofs.Service.Exchange
import SearchAppliance.Proofs.Service.History
import SearchAppliance.Proofs.Service.Run
import SearchAppliance.Proofs.Service.Search
import SearchAppliance.Proofs.Service.SortOrder
import SearchAppliance.Proofs.Settings.PageOptions
import SearchAppliance.Proofs.SortOrder
import SearchAppliance.Proofs.Stopwatch
import SearchAppliance.Proofs.Text.Base64Url
import SearchAppliance.Proofs.Text.Cut
import SearchAppliance.Proofs.Text.Entity
import SearchAppliance.Proofs.Text.EntityCode
import SearchAppliance.Proofs.Text.Html
import SearchAppliance.Proofs.Text.LetterCase
import SearchAppliance.Proofs.Text.Markup
import SearchAppliance.Proofs.Text.Occurrences
import SearchAppliance.Proofs.Text.Percent
import SearchAppliance.Proofs.Text.Words
import SearchAppliance.Proofs.Text.XmlChar
import SearchAppliance.Proofs.Text.XmlName
import SearchAppliance.Result.Digest
import SearchAppliance.Result.Hit
import SearchAppliance.Schema
import SearchAppliance.Service.Basic
import SearchAppliance.Settings.Fault
import SearchAppliance.Settings.Options
import SearchAppliance.Settings.Scalar
import SearchAppliance.SortOrder
import SearchAppliance.Text.Basic
import SearchAppliance.Text.Encoding
import SearchAppliance.Text.Escape
import SearchAppliance.Text.LetterCase
import SearchAppliance.Text.LetterCase.Table
import SearchAppliance.Text.Printable
import SearchAppliance.Text.Quoted
import SearchAppliance.Text.WordChar
import SearchAppliance.Text.Words
