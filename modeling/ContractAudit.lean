import ContractAudit.Job.Rehearsal
import ContractAudit.Main
import ContractAudit.Proofs.Report.Batch
import ContractAudit.Report.Lookup
import ContractAudit.Proofs.Report.Lookup
import ContractAudit.Proofs.Report.Skipping
import ContractAudit.Proofs.Json.Records
import ContractAudit.Proofs.SourceMap.Position
import ContractAudit.Proofs.Diagnostic.Identity
import ContractAudit.Proofs.Report.Duplicates
import ContractAudit.Proofs.Job.Trace
import ContractAudit.Proofs.Job.Safety
import ContractAudit.Proofs.Answers
import ContractAudit.Proofs.Job.Deadline
import ContractAudit.Proofs.Job.Ramp
import ContractAudit.Proofs.Report.Unordered
import ContractAudit.Proofs.Solidity.Closure
import ContractAudit.Proofs.Solidity.Naming
import ContractAudit.Proofs.Solidity.Order
import ContractAudit.Proofs.Solidity.NameBound
import ContractAudit.Proofs.Solidity.Termination
import ContractAudit.Proofs.Solidity.Unordered
import ContractAudit.Proofs.Service.Turns
import ContractAudit.Proofs.Service.Tokens
import ContractAudit.Proofs.Report.Page
import ContractAudit.Proofs.Report.Lossless
import ContractAudit.Proofs.Service.Stops
import ContractAudit.Proofs.Command.Analysis
import ContractAudit.Proofs.Json.Order
import ContractAudit.Proofs.Json.Strict
import ContractAudit.Proofs.Submission
import ContractAudit.Proofs.Report.Sources
import ContractAudit.Proofs.Finding.Reports
import ContractAudit.Proofs.Command.Clean
import ContractAudit.Proofs.Report.Unplaced
import ContractAudit.Proofs.SourceMap.LineFeeds
import ContractAudit.Proofs.SourceMap.Order
import ContractAudit.Proofs.Job.Cancelled
import ContractAudit.Proofs.Report.Rendering
import ContractAudit.Proofs.SourceMap.Excerpt
import ContractAudit.Proofs.SourceMap.Entry
import ContractAudit.Proofs.Diagnostic.Placement
import ContractAudit.Proofs.Finding.Canonical
import ContractAudit.Proofs.Finding.Versions
import ContractAudit.Proofs.Report.Names
import ContractAudit.Proofs.Report.Slashes
import ContractAudit.Proofs.Solidity.Lines
import ContractAudit.Proofs.Solidity.Layout
import ContractAudit.Proofs.Solidity.Failures
import ContractAudit.Proofs.Json.Below
import ContractAudit.Proofs.Solidity.Bytecode
import ContractAudit.Proofs.Solidity.Record
import ContractAudit.Proofs.Solidity.Selection
import ContractAudit.Proofs.Solidity.Linking
import ContractAudit.Proofs.Solidity.Submitted
import ContractAudit.Proofs.SourceMap.Files
import ContractAudit.Proofs.Service.Defects
import ContractAudit.Proofs.Settings.Account
import ContractAudit.Proofs.Settings.Address
import ContractAudit.Proofs.Terminal.Printing
import ContractAudit.Proofs.Terminal.Messages
import ContractAudit.Proofs.Terminal.Tags
import ContractAudit.Proofs.Command.Errors
import ContractAudit.Proofs.Command.Diagnostics
import ContractAudit.Proofs.Report.Lines
import ContractAudit.Proofs.Report.Totals
