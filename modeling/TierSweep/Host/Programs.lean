import TierSweep.Host.Turn
import TierSweep.Shell.Startup
import TierSweep.Utility.Catalog

/-!
# The programs of the machine

A program is a shell or one of those in the catalog.
-/

namespace TierSweep.Machine

/-- What the programs of the operating system do. -/
def programs : Programs := fun x environment =>
  if shells.contains x.program then (Shell.Startup.shell x environment).toProcedure
  else match Utility.body? x.program with
    | some body => (body x environment).toProcedure
    | none => .ended 127

end TierSweep.Machine
