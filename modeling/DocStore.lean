import DocStore.Call
import DocStore.Geometry.Builder
import DocStore.Pattern.Parser
import DocStore.Proofs.Contact
import DocStore.Proofs.Endpoint
import DocStore.Proofs.Exchange
import DocStore.Proofs.Frame.Deletion
import DocStore.Proofs.Geometry.Closure
import DocStore.Proofs.Geometry.Report
import DocStore.Proofs.Grouping
import DocStore.Proofs.Operand.Conversion
import DocStore.Proofs.Operand.Evaluation
import DocStore.Proofs.Query.ElementMatch
import DocStore.Proofs.Query.FieldOperand
import DocStore.Proofs.Query.Pattern
import DocStore.Proofs.Query.Proximity
import DocStore.Proofs.Query.Reading
import DocStore.Proofs.Query.Shape
import DocStore.Proofs.Query.WellFormed
import DocStore.Proofs.Reference.Reachable
import DocStore.Proofs.Response
import DocStore.Proofs.Schema.Fault
import DocStore.Proofs.Session
import DocStore.Proofs.Snapshot
import DocStore.Proofs.Subscription.Cancellation
import DocStore.Proofs.Subscription.Delivery
import DocStore.Proofs.Subscription.Ending
import DocStore.Proofs.Subscription.Inquiry
import DocStore.Proofs.Subscription.Peer
import DocStore.Proofs.Subscription.Schedule
import DocStore.Proofs.Update.Addition
import DocStore.Proofs.Update.Assignment
import DocStore.Proofs.Update.Opposite
import DocStore.Proofs.Update.Partition
import DocStore.Proofs.Url.Extension
import DocStore.Subscription.Simulation
import DocStore.Proofs.Operand.Plain
import DocStore.Proofs.Query.Shape
