import TaskSheet.Proofs.AcceptedArguments
import TaskSheet.Proofs.SourceSheets

/-!
# The report on a run

A run ends in one of two ways. It fails, and then an error is logged, nothing is printed,
and directories around the output are all that may be new. Or it succeeds, and then no error
is logged and the records are where the mode wants them. Success comes from the same
compilation in every mode, and therefore what is written is what would have been printed.
-/

namespace TaskSheet

/-- Whether an event tells of an error. -/
def Event.isError : Event → Bool
  | .notice _ => false
  | .finding found => found.isError

namespace CommandLine

namespace Report

end Report

/-- The directories around the output that the settings name. -/
def Settings.enclosing (settings : Settings) : List Bytes :=
  (settings.output.map Path.enclosing).getD []

end CommandLine

end TaskSheet
