import OrderDesk.Account.Balance
import OrderDesk.Account.User
import OrderDesk.Asset
import OrderDesk.Config.Basic
import OrderDesk.Config.Interpolation
import OrderDesk.Config.Load
import OrderDesk.Config.Record
import OrderDesk.Decimal.Basic
import OrderDesk.Decimal.Binary64
import OrderDesk.Decimal.Written
import OrderDesk.Desk.Basic
import OrderDesk.Desk.Fault
import OrderDesk.Desk.Table
import OrderDesk.Identifier
import OrderDesk.Json.Basic
import OrderDesk.Json.Reader
import OrderDesk.Json.Record
import OrderDesk.Json.Token
import OrderDesk.Log.Filter
import OrderDesk.Log.Level
import OrderDesk.Log.Setup
import OrderDesk.Order.Basic
import OrderDesk.Order.Form
import OrderDesk.Order.Id
import OrderDesk.Order.Kind
import OrderDesk.Order.Rules
import OrderDesk.Order.Status
import OrderDesk.Order.View
import OrderDesk.Service.Change
import OrderDesk.Service.Check
import OrderDesk.Service.Error
import OrderDesk.Service.Event
import OrderDesk.Service.Place
import OrderDesk.Service.Program
import OrderDesk.Service.Query
import OrderDesk.Text.Alphanumeric
import OrderDesk.Text.Base64
import OrderDesk.Text.Blank
import OrderDesk.Text.Numeral
import OrderDesk.Text.Segments
import OrderDesk.Text.Uppercase
import OrderDesk.Time.Calendar
import OrderDesk.Time.Instant
import OrderDesk.Time.Rfc3339
import OrderDesk.Uuid
import OrderDesk.Wire
import OrderDesk.Yaml.Cursor
import OrderDesk.Yaml.Node
import OrderDesk.Yaml.Number
import OrderDesk.Yaml.Parse
import OrderDesk.Yaml.Scalar
import OrderDesk.Yaml.Strict.Position
import OrderDesk.Yaml.Strict.Token
import OrderDesk.Yaml.Token
import OrderDesk.Yaml.Value
import OrderDesk.Proofs.Contract
import OrderDesk.Proofs.Call
import OrderDesk.Proofs.Conduct
import OrderDesk.Proofs.Stores
import OrderDesk.Proofs.Traffic.Basic
import OrderDesk.Proofs.Traffic.Record
import OrderDesk.Proofs.Traffic.Versions
import OrderDesk.Proofs.Footprint
import OrderDesk.Proofs.Amount
import OrderDesk.Proofs.Traffic.Ledger
import OrderDesk.Proofs.Placing
import OrderDesk.Proofs.Point
import OrderDesk.Proofs.Shortage
import OrderDesk.Proofs.Traffic.Points
import OrderDesk.Proofs.Traffic.Completion
import OrderDesk.Proofs.Traffic.Serial
import OrderDesk.Proofs.Rounding
import OrderDesk.Proofs.Places
import OrderDesk.Proofs.Names
import OrderDesk.Proofs.Fields
import OrderDesk.Proofs.Alone
import OrderDesk.Proofs.Acceptance
import OrderDesk.Proofs.Soundness
import OrderDesk.Proofs.Requests
import OrderDesk.Proofs.Authority
import OrderDesk.Proofs.Traffic.Solvency
import OrderDesk.Proofs.Traffic.Asked
import OrderDesk.Proofs.Traffic.Sound
import OrderDesk.Proofs.Traffic.Authority
import OrderDesk.Proofs.Cancellation
import OrderDesk.Proofs.Overflow
import OrderDesk.Proofs.Listing
import OrderDesk.Proofs.Views
import OrderDesk.Proofs.Confidentiality
import OrderDesk.Proofs.Traffic.Visibility
import OrderDesk.Proofs.Reading
import OrderDesk.Proofs.Traffic.Reading
import OrderDesk.Proofs.Traffic.Lifecycle
import OrderDesk.Proofs.Traffic.Contract
import OrderDesk.Proofs.Outage
import OrderDesk.Proofs.Traffic.Outage
import OrderDesk.Proofs.Reticence
import OrderDesk.Proofs.Numeral
import OrderDesk.Proofs.Calendar
import OrderDesk.Proofs.Traffic.Drawing
import OrderDesk.Proofs.Precision
import OrderDesk.Proofs.Pricing
import OrderDesk.Proofs.Traffic.Pricing
import OrderDesk.Proofs.Independence
import OrderDesk.Proofs.Layers
import OrderDesk.Proofs.Interpolation
import OrderDesk.Proofs.Newest
import OrderDesk.Proofs.Traffic.Newest
import OrderDesk.Proofs.Spelling
import OrderDesk.Proofs.SameForms
import OrderDesk.Proofs.SameRuns
import OrderDesk.Proofs.Components
import OrderDesk.Proofs.Collision
import OrderDesk.Proofs.Grammar
import OrderDesk.Proofs.Normalization
import OrderDesk.Proofs.Restoring
import OrderDesk.Proofs.Uppercase
import OrderDesk.Proofs.Assets
import OrderDesk.Proofs.Wire.Text
import OrderDesk.Proofs.Wire.Numbers
import OrderDesk.Proofs.Wire.Times
import OrderDesk.Proofs.Wire.Variation
import OrderDesk.Proofs.Wire.Records
