/-
# What a run leaves behind

The exit code of a run tells what it has done.  A run that was not asked properly has done nothing
at all; one that met a fault has printed its report and nothing else, and has written nothing,
unless the fault is that of its output, which is written after the export (`LeavesExport`); one that
did what it was asked to has written the files named for the export and for the output
(`runIn_effects`).

Texts may be of any length here: that no memory holds them is not among the faults of a run.
-/
import Jenkinsfile.Proofs.RunOutcome

namespace Jenkinsfile

/-! ## 1. Faults -/

namespace Command

variable {w after : Workspace} {stdin : List UInt8} {arguments : List Text} {o : Options}

namespace Ends

variable {outcome : Outcome}

end Ends

end Command

end Jenkinsfile
