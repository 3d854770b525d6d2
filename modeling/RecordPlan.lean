import RecordPlan.Main
import RecordPlan.Session
import RecordPlan.Settings.Json
import RecordPlan.Proofs.Plan
import RecordPlan.Proofs.Setting.Printing
import RecordPlan.Proofs.Managed.Merging
import RecordPlan.Proofs.Settings.Shorthand
import RecordPlan.Proofs.Address.Ip4
import RecordPlan.Proofs.Address.Ip6
import RecordPlan.Proofs.HostId.Text
import RecordPlan.Proofs.Setting.PrintedEntries
import RecordPlan.Proofs.Settings.WrittenBack
import RecordPlan.Proofs.Plan.Records
import RecordPlan.Proofs.Json.Lexical
import RecordPlan.Proofs.Settings.Encoding
import RecordPlan.Proofs.CommandLine.Level
import RecordPlan.Proofs.CommandLine.Check
import RecordPlan.Proofs.Domain.Renderings
import RecordPlan.Proofs.Domain.Sorting
import RecordPlan.Proofs.Domain.Zones
import RecordPlan.Proofs.Predicate
import RecordPlan.Proofs.Session
import RecordPlan.Proofs.Setting.ListPart
import RecordPlan.Proofs.Setting.FirstProblem
import RecordPlan.Proofs.Setting.Composition
import RecordPlan.Proofs.HostId.Arithmetic
import RecordPlan.Proofs.HostId.InterfaceId
import RecordPlan.Proofs.HostId.Kinds
import RecordPlan.Proofs.HostId.Spelling
import RecordPlan.Proofs.Setting.PlainList
import RecordPlan.Proofs.Setting.LetterCase
import RecordPlan.Proofs.Settings.OtherPrefixLength
import RecordPlan.Proofs.Settings.PrefixLengthText
import RecordPlan.Proofs.Domain.Length
import RecordPlan.Proofs.HostId.MacSteps
import RecordPlan.Proofs.Setting.Progress
