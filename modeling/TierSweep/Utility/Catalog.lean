import TierSweep.Utility.Editing
import TierSweep.Utility.Expression
import TierSweep.Utility.Facts
import TierSweep.Utility.Lines
import TierSweep.Utility.Listing
import TierSweep.Utility.Search

/-!
# The catalog of programs

The catalog says which programs the machine has besides its shells, and what each of them does.
-/

namespace TierSweep.Utility

/-- The programs and what they do. -/
def catalog : List (String × Body) :=
  [("[", test), ("basename", basename), ("cat", cat), ("chmod", chmod), ("cmp", cmp), ("comm", comm), ("cp", cp),
    ("cut", cut), ("date", date), ("dd", dd), ("diff", diff), ("dirname", dirname), ("du", du), ("echo", echo),
    ("egrep", egrep), ("env", env), ("expr", expr), ("false", failing), ("fgrep", fgrep), ("find", find),
    ("fold", fold), ("grep", grep), ("head", head), ("hostname", hostname), ("id", user), ("install", install),
    ("link", link), ("ln", ln), ("ls", ls), ("mkdir", mkdir), ("mktemp", mktemp), ("mv", mv), ("nice", nice),
    ("nl", nl), ("nohup", nohup), ("nproc", nproc), ("paste", paste), ("printenv", printenv), ("printf", printf),
    ("pwd", pwd), ("readlink", readlink), ("realpath", realpath), ("rev", rev), ("rm", rm), ("rmdir", rmdir),
    ("sed", sed), ("seq", seq), ("setsid", setsid), ("sha256sum", sha256sum), ("sleep", sleep), ("sort", sort),
    ("stat", stat), ("stdbuf", stdbuf), ("sync", sync), ("tac", tac), ("tail", tail), ("tee", tee),
    ("test", test), ("timeout", timeout), ("touch", touch), ("tr", tr), ("true", succeed),
    ("truncate", truncate), ("uname", uname), ("uniq", uniq), ("unlink", unlink), ("wc", wc), ("which", which),
    ("whoami", whoami), ("xargs", xargs), ("yes", yes)]

/-- What the program of a name does. -/
def body? (name : String) : Option Body := catalog.lookup name

end TierSweep.Utility
