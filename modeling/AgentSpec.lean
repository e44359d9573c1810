import AgentSpec.Main
import AgentSpec.Proofs.Message
import AgentSpec.Proofs.Reference
import AgentSpec.Proofs.Conformance
import AgentSpec.Proofs.Independence
import AgentSpec.Proofs.Session
import AgentSpec.Proofs.Json.Label
import AgentSpec.Proofs.Yaml.Label
import AgentSpec.Proofs.Yaml.Failure
import AgentSpec.Proofs.Output
import AgentSpec.Proofs.CollectionFindings
import AgentSpec.Proofs.Advice
import AgentSpec.Proofs.Arguments
import AgentSpec.Proofs.Overrun
import AgentSpec.Proofs.Display
import AgentSpec.Proofs.ReportLines
import AgentSpec.Proofs.Identifier
import AgentSpec.Proofs.Addition
import AgentSpec.Proofs.Order
import AgentSpec.Proofs.Boundary
import AgentSpec.Proofs.LineColumn
import AgentSpec.Proofs.Extension
import AgentSpec.Proofs.Loading
import AgentSpec.Proofs.UnresolvedRecords
