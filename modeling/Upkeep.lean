import Upkeep.Action
import Upkeep.Backend
import Upkeep.Cache.Basic
import Upkeep.Cache.Change
import Upkeep.Cache.Criteria
import Upkeep.Cache.Memory
import Upkeep.Cache.Server
import Upkeep.Cache.Shared
import Upkeep.Calendar.Civil
import Upkeep.Calendar.Stamp
import Upkeep.Config.Basic
import Upkeep.Config.Check
import Upkeep.Config.Dotenv
import Upkeep.Config.Fault
import Upkeep.Config.Load
import Upkeep.Config.Record
import Upkeep.Context
import Upkeep.Deployment
import Upkeep.Document.Basic
import Upkeep.Document.Format
import Upkeep.Document.Quote
import Upkeep.Document.Record
import Upkeep.Document.Toml.Basic
import Upkeep.Document.Toml.Value
import Upkeep.Document.Yaml.Basic
import Upkeep.Document.Yaml.Flow
import Upkeep.Document.Yaml.Line
import Upkeep.Failure
import Upkeep.Filter.Expr
import Upkeep.Filter.Parser
import Upkeep.Filter.Token
import Upkeep.Gateway.Address
import Upkeep.Gateway.Basic
import Upkeep.Gateway.Caller
import Upkeep.Gateway.Exchange
import Upkeep.Gateway.MediaType
import Upkeep.Gateway.Record
import Upkeep.Inventory.Fields
import Upkeep.Inventory.Ids
import Upkeep.Inventory.Record
import Upkeep.Inventory.Seed
import Upkeep.Inventory.Store
import Upkeep.Inventory.Valid
import Upkeep.Json.Basic
import Upkeep.Json.Reader
import Upkeep.Json.Record
import Upkeep.Json.Token
import Upkeep.Json.Writer
import Upkeep.Main
import Upkeep.Power
import Upkeep.Proofs.Action
import Upkeep.Proofs.Cache.Bounded
import Upkeep.Proofs.Cache.Distant
import Upkeep.Proofs.Cache.Fresh
import Upkeep.Proofs.Cache.Inquiry
import Upkeep.Proofs.Cache.Keys
import Upkeep.Proofs.Cache.Lasting
import Upkeep.Proofs.Cache.Mirror
import Upkeep.Proofs.Cache.Outdated
import Upkeep.Proofs.Cache.Race
import Upkeep.Proofs.Cache.RaceSafety
import Upkeep.Proofs.Cache.Recent
import Upkeep.Proofs.Cache.Seek
import Upkeep.Proofs.Cache.Shared
import Upkeep.Proofs.Cache.SharedAlone
import Upkeep.Proofs.Cache.SharedRace
import Upkeep.Proofs.Cache.SharedRaceSafety
import Upkeep.Proofs.Cache.Timeline
import Upkeep.Proofs.Cache.Traffic
import Upkeep.Proofs.Cache.Transparent
import Upkeep.Proofs.Calendar.Civil
import Upkeep.Proofs.Calendar.Stamp
import Upkeep.Proofs.Calendar.Stored
import Upkeep.Proofs.Config.Rule
import Upkeep.Proofs.Filter.Criteria
import Upkeep.Proofs.Filter.Derivation
import Upkeep.Proofs.Filter.Grammar
import Upkeep.Proofs.Filter.Laws
import Upkeep.Proofs.Filter.Layout
import Upkeep.Proofs.Filter.Meaning
import Upkeep.Proofs.Filter.Typing
import Upkeep.Proofs.Filter.Written
import Upkeep.Proofs.Gateway.Cycle
import Upkeep.Proofs.Gateway.Errand
import Upkeep.Proofs.Gateway.Patch
import Upkeep.Proofs.Gateway.Place
import Upkeep.Proofs.Gateway.Tenant
import Upkeep.Proofs.Inventory.Change
import Upkeep.Proofs.Inventory.Filtered
import Upkeep.Proofs.Inventory.Integrity
import Upkeep.Proofs.Inventory.Listing
import Upkeep.Proofs.Inventory.Naming
import Upkeep.Proofs.Inventory.Page
import Upkeep.Proofs.Inventory.Partition
import Upkeep.Proofs.Inventory.Reachable
import Upkeep.Proofs.Inventory.Rewrite
import Upkeep.Proofs.Inventory.Seeding
import Upkeep.Proofs.Inventory.Supply
import Upkeep.Proofs.Inventory.Tenancy
import Upkeep.Proofs.Json.Fields
import Upkeep.Proofs.Json.Legible
import Upkeep.Proofs.Json.Record
import Upkeep.Proofs.Json.Word
import Upkeep.Proofs.Schedule.Convert
import Upkeep.Proofs.Schedule.Mask
import Upkeep.Proofs.Schedule.Named
import Upkeep.Proofs.Schedule.Narrow
import Upkeep.Proofs.Schedule.Sent
import Upkeep.Proofs.Schedule.Status
import Upkeep.Proofs.Service.Accepted
import Upkeep.Proofs.Service.Alike
import Upkeep.Proofs.Service.Apart
import Upkeep.Proofs.Service.Contact
import Upkeep.Proofs.Service.Isolation
import Upkeep.Proofs.Service.Listing
import Upkeep.Proofs.Service.Narrow
import Upkeep.Proofs.Service.Plan
import Upkeep.Proofs.Service.Replaced
import Upkeep.Proofs.Service.Stable
import Upkeep.Proofs.Service.Watched
import Upkeep.Proofs.Service.Write
import Upkeep.Proofs.Table
import Upkeep.Proofs.Text.Decimal
import Upkeep.Proofs.Wire.Exact
import Upkeep.Proofs.Wire.Record
import Upkeep.Proofs.Wire.Stamped
import Upkeep.Record
import Upkeep.Resource
import Upkeep.Schedule.Assign
import Upkeep.Schedule.Convert
import Upkeep.Schedule.Mask
import Upkeep.Schedule.Window
import Upkeep.Service
import Upkeep.Sign.Base64
import Upkeep.Sign.Sha256
import Upkeep.Sign.Token
import Upkeep.Startup
import Upkeep.Table
import Upkeep.Text.Blank
import Upkeep.Text.Decimal
import Upkeep.Text.Hex
import Upkeep.Text.Numeral
import Upkeep.Text.Quoted
import Upkeep.Text.Shortest
import Upkeep.Text.Shown
import Upkeep.Text.Utf8
import Upkeep.Wire.Basic
import Upkeep.Wire.Record
