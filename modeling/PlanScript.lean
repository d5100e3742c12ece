import PlanScript.Main
import PlanScript.Command.Run
import PlanScript.Proofs.Plan.RoundTrip
import PlanScript.Proofs.Plan.Position
import PlanScript.Proofs.Statement.Language
import PlanScript.Proofs.Plan.Append
import PlanScript.Proofs.Plan.Span
import PlanScript.Proofs.Plan.Leading
import PlanScript.Proofs.Source.Region
import PlanScript.Proofs.Source.Quoted
import PlanScript.Proofs.Plan.Lenient
import PlanScript.Proofs.Plan.DataModel
import PlanScript.Proofs.Wire.Record
import PlanScript.Proofs.Offset.Parse
import PlanScript.Proofs.Value.Commas
import PlanScript.Proofs.Plan.Strings
import PlanScript.Proofs.Nesting.Culprit
import PlanScript.Proofs.Plan.Entries
import PlanScript.Proofs.Plan.Log
import PlanScript.Proofs.Plan.Indices
import PlanScript.Proofs.Suite.Run
import PlanScript.Proofs.Nesting.Group
import PlanScript.Proofs.Fixture.Check
import PlanScript.Proofs.Fixture.Frontmatter
import PlanScript.Proofs.Suite.Missing
