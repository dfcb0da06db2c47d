import Tabula.Main
import Tabula.Service
import Tabula.Service.Address
import Tabula.Web.Server
import Tabula.Proofs.Session.Keys
import Tabula.Proofs.Session.Lookup
import Tabula.Proofs.Session.Reopen
import Tabula.Proofs.Session.Update
import Tabula.Proofs.Statement.RoundTrip
import Tabula.Proofs.Database.Counter
import Tabula.Proofs.Session.Counter
import Tabula.Proofs.Database.Typed
import Tabula.Proofs.Database.Written
import Tabula.Proofs.Session.Lineage
import Tabula.Proofs.Session.Typed
import Tabula.Proofs.Snapshot
import Tabula.Proofs.Json.Depth
import Tabula.Proofs.Json.Fuel
import Tabula.Proofs.Session.Start
import Tabula.Proofs.Text.Runs
import Tabula.Proofs.Number.Numeral
import Tabula.Proofs.Number.Range
import Tabula.Proofs.Value.Short
import Tabula.Proofs.Statement.Short
import Tabula.Proofs.Database.Refusals
import Tabula.Proofs.Session.Refusals
import Tabula.Proofs.Database.Filed
import Tabula.Proofs.Session.Filed
import Tabula.Proofs.Database.Given
import Tabula.Proofs.Session.Given
import Tabula.Proofs.Console.Segments
import Tabula.Proofs.Text.Encoding
import Tabula.Proofs.Database.Made
import Tabula.Proofs.Condition
import Tabula.Proofs.Number.Overflow
import Tabula.Proofs.Number.Whole
import Tabula.Proofs.Database.Whole
import Tabula.Proofs.Session.Whole
import Tabula.Proofs.Database.Joined
import Tabula.Proofs.Session.Joined
import Tabula.Proofs.Database.Matching
import Tabula.Proofs.Session.Matching
import Tabula.Proofs.Statement.Groups
import Tabula.Proofs.Statement.Columns
import Tabula.Proofs.Database.Apart
import Tabula.Proofs.Session.Apart
import Tabula.Proofs.Database.Found
import Tabula.Proofs.Session.Found
import Tabula.Proofs.Database.Drawn
import Tabula.Proofs.Session.Drawn
import Tabula.Proofs.Text.Casing
import Tabula.Proofs.Number.Grammar
import Tabula.Proofs.Token.Shape
import Tabula.Proofs.Token.Passage
import Tabula.Proofs.Token.Single
import Tabula.Proofs.Index.Steps
import Tabula.Proofs.Console.Layout
import Tabula.Proofs.Database.Answers
import Tabula.Proofs.Console.Shown
import Tabula.Proofs.Session.Shown
import Tabula.Proofs.Statement.Kinds
import Tabula.Proofs.Number.Text
import Tabula.Proofs.Database.Spelled
import Tabula.Proofs.Session.Spelled
import Tabula.Proofs.Statement.Names
import Tabula.Proofs.Database.Qualified
import Tabula.Proofs.Session.Qualified
import Tabula.Proofs.Service.Calls
