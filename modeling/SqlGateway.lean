import SqlGateway.Http.Gateway
import SqlGateway.Main
import SqlGateway.Proofs.Command.Line
import SqlGateway.Proofs.Command.Render
import SqlGateway.Proofs.Condition.Canonical
import SqlGateway.Proofs.Condition.Domain
import SqlGateway.Proofs.Condition.Members
import SqlGateway.Proofs.Condition.Unambiguous
import SqlGateway.Proofs.Config.Layout
import SqlGateway.Proofs.Http.Conditions
import SqlGateway.Proofs.Http.Cors
import SqlGateway.Proofs.Http.Filter
import SqlGateway.Proofs.Statement.Assignments
import SqlGateway.Proofs.Statement.Defects
import SqlGateway.Proofs.Statement.Fields
import SqlGateway.Proofs.Statement.Terms
import SqlGateway.Proofs.Statement.Values
import SqlGateway.Proofs.Store.Changed
import SqlGateway.Proofs.Store.Integers
import SqlGateway.Proofs.Store.Retry
import SqlGateway.Proofs.Store.Rows
import SqlGateway.Proofs.Store.Times
