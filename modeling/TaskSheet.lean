import TaskSheet.Main
import TaskSheet.Proofs.OrderedEdits
import TaskSheet.Proofs.PromptDecoding
import TaskSheet.Proofs.SavedRecords
import TaskSheet.Proofs.SchemaVerdicts
import TaskSheet.Proofs.SourceSheets
import TaskSheet.Proofs.TickedEntries
import TaskSheet.Proofs.WrittenSheets
import TaskSheet.Proofs.WellFormedDocuments
import TaskSheet.Proofs.PromptHeaders
import TaskSheet.Proofs.AcceptedArguments
import TaskSheet.Proofs.RunReports
import TaskSheet.Proofs.Seams
import TaskSheet.Proofs.SectionOrder
import TaskSheet.Proofs.Diagnoses
import TaskSheet.Proofs.CheckedSheets
import TaskSheet.Proofs.ForeignRecords
import TaskSheet.Proofs.LineEndings
import TaskSheet.Proofs.ProgressTraces
import TaskSheet.Proofs.TaskFiles
import TaskSheet.Proofs.WorkingDirectories
import TaskSheet.Proofs.SourceSteps
import TaskSheet.Proofs.ProjectDirectories
import TaskSheet.Proofs.SectionBodies
import TaskSheet.Proofs.TaskNumbers
import TaskSheet.Proofs.BrokenRules
import TaskSheet.Proofs.EnclosingPaths
import TaskSheet.Proofs.SavedFiles
import TaskSheet.Proofs.ReportedMessages
import TaskSheet.Proofs.ShownPaths
