import HelperKit.Main
import HelperKit.Proofs.Json.Members
import HelperKit.Proofs.Json.Numeral
import HelperKit.Proofs.Text.Characters
import HelperKit.Proofs.Json.Strings
import HelperKit.Proofs.Json.RoundTrip
import HelperKit.Proofs.Json.Acceptance
import HelperKit.Proofs.Disk.Change
import HelperKit.Proofs.Disk.Absence
import HelperKit.Proofs.Workspace.Operation
import HelperKit.Proofs.Workspace.Access
import HelperKit.Proofs.Project.Record
import HelperKit.Proofs.Project.Codec
import HelperKit.Proofs.Project.Selecting
import HelperKit.Proofs.Project.Complaints
import HelperKit.Proofs.Project.Drafting
import HelperKit.Proofs.Settings.Document
import HelperKit.Proofs.Settings.Store
import HelperKit.Proofs.Settings.Sharing
import HelperKit.Proofs.Settings.Forgetting
import HelperKit.Proofs.Settings.Verdict
import HelperKit.Proofs.Artifact.Payload
import HelperKit.Proofs.Artifact.Writing
import HelperKit.Proofs.Artifact.Calls
import HelperKit.Proofs.Artifact.Interruption
import HelperKit.Proofs.Artifact.Removing
import HelperKit.Proofs.Artifact.InStep
import HelperKit.Proofs.Workspace.Rewriting
import HelperKit.Proofs.Settings.Atomicity
import HelperKit.Proofs.Artifact.Frame
import HelperKit.Proofs.Artifact.Deleting
import HelperKit.Proofs.Artifact.Genuine
import HelperKit.Proofs.Artifact.Merging
import HelperKit.Proofs.Artifact.Coherence
import HelperKit.Proofs.Artifact.Rendering
import HelperKit.Proofs.Artifact.Hoisting
import HelperKit.Proofs.Artifact.Dependence
import HelperKit.Proofs.Artifact.Sources
import HelperKit.Proofs.Artifact.Copying
import HelperKit.Proofs.Artifact.Trouble
import HelperKit.Proofs.Artifact.Heedless
import HelperKit.Proofs.Artifact.Renewal
import HelperKit.Proofs.Artifact.Abandoning
import HelperKit.Proofs.Artifact.Recreating
import HelperKit.Proofs.Upkeep.Edits
import HelperKit.Proofs.Upkeep.Outcomes
import HelperKit.Proofs.Upkeep.Extending
import HelperKit.Proofs.Dialogue.Choosing
import HelperKit.Proofs.Dialogue.Selecting
import HelperKit.Proofs.Dialogue.Taking
import HelperKit.Proofs.Dialogue.Reaching
import HelperKit.Proofs.Dialogue.Gathering
import HelperKit.Proofs.Dialogue.Reading
import HelperKit.Proofs.Upkeep.Picking
import HelperKit.Proofs.CommandLine.Cancelling
import HelperKit.Proofs.CommandLine.Escaping
import HelperKit.Proofs.CommandLine.Sharing
import HelperKit.Proofs.CommandLine.Parts
import HelperKit.Proofs.CommandLine.Exhausting
import HelperKit.Proofs.CommandLine.Arriving
import HelperKit.Proofs.CommandLine.Questioning
import HelperKit.Proofs.CommandLine.Detours
import HelperKit.Proofs.CommandLine.Summing
