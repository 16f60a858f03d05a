import HelperKit.Workspace

/-!
# Errands

An errand works on the disk and consults its caller on the way.  The two states
are kept side by side: an operation on the disk does not see the caller, and the
caller does not see the disk.
-/

namespace HelperKit

/-- An operation that also acts on a state `σ` of its caller, which the disk
does not see. -/
abbrev Errand (σ : Type) := ExceptT Failure (StateM (Workspace × σ))

namespace Errand

variable {σ α : Type}

/-- An operation on the workspace alone. -/
def onDisk (job : Job α) : Errand σ α :=
  fun (workspace, caller) =>
    let (result, workspace) := job workspace
    (result, (workspace, caller))

/-- An operation on the state of the caller alone. -/
def onCaller (act : σ → Except Failure α × σ) : Errand σ α :=
  fun (workspace, caller) =>
    let (result, caller) := act caller
    (result, (workspace, caller))

end Errand

end HelperKit
