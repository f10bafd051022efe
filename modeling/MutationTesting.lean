import MutationTesting.Main
import MutationTesting.Proofs.Campaign.ModulePaths
import MutationTesting.Proofs.Campaign.Order
import MutationTesting.Proofs.Campaign.Settings
import MutationTesting.Proofs.Campaign.Validity
import MutationTesting.Proofs.Discovery.Distance
import MutationTesting.Proofs.Discovery.Queue
import MutationTesting.Proofs.Discovery.Reach
import MutationTesting.Proofs.Execution.Arithmetic
import MutationTesting.Proofs.Execution.CallStack
import MutationTesting.Proofs.Execution.Contrast
import MutationTesting.Proofs.Execution.Fuel
import MutationTesting.Proofs.Execution.Resolution
import MutationTesting.Proofs.Execution.Safety
import MutationTesting.Proofs.Files.Directories
import MutationTesting.Proofs.Ledger.Campaigns
import MutationTesting.Proofs.Ledger.PatchHash
import MutationTesting.Proofs.Ledger.Session
import MutationTesting.Proofs.Mutation.Identity
import MutationTesting.Proofs.Mutation.Overlay
import MutationTesting.Proofs.Object.Recording
import MutationTesting.Proofs.Object.Violation
import MutationTesting.Proofs.Program.Document
import MutationTesting.Proofs.Relevance.History
import MutationTesting.Proofs.Relevance.IncludeDirectories
import MutationTesting.Proofs.Relevance.Lookup
import MutationTesting.Proofs.Report.Recount
import MutationTesting.Proofs.Report.Survivors
import MutationTesting.Proofs.Source.Innermost
