import CrossBench.Tool.Account
import CrossBench.Tool.Batch
import CrossBench.Tool.Compare
import CrossBench.Tool.Compute
import CrossBench.Tool.Condition
import CrossBench.Tool.Copy
import CrossBench.Tool.Count
import CrossBench.Tool.Difference
import CrossBench.Tool.Digest
import CrossBench.Tool.Dump
import CrossBench.Tool.Editor.Run
import CrossBench.Tool.Environment
import CrossBench.Tool.Filling
import CrossBench.Tool.Join
import CrossBench.Tool.Letters
import CrossBench.Tool.List
import CrossBench.Tool.Make
import CrossBench.Tool.Name
import CrossBench.Tool.Order
import CrossBench.Tool.Part
import CrossBench.Tool.Print
import CrossBench.Tool.Quantity
import CrossBench.Tool.Records.Main
import CrossBench.Tool.Search
import CrossBench.Tool.Shuffle
import CrossBench.Tool.Split
import CrossBench.Tool.Start
import CrossBench.Tool.Stat
import CrossBench.Tool.Transfer
import CrossBench.Tool.Usage
import CrossBench.Tool.Walk

/-!
# The programs of a system

The small programs that the scripts of a project can call, by their names. They are those of a small
system, so that a project runs here as it does there; a program that is not in the table is not found.
-/

namespace CrossBench.Tool

open Shell Shell.Act

/-- The programs by name. -/
def table : List (String × Act Nat) :=
  [("true", return 0), ("false", return 1), ("echo", echo), ("printf", printf), ("test", test),
    ("[", test), ("yes", yes), ("seq", Sequence.seq), ("whoami", always "root\n"),
    ("hostname", hostname), ("nproc", nproc), ("arch", always "x86_64\n"), ("logname", logname), ("uname", uname),
    ("groups", groups), ("id", identity), ("users", always ""), ("who", who), ("tty", tty), ("sync", sync),
    ("printenv", printenv), ("which", which), ("pathchk", pathchk),
    ("cat", cat), ("head", head), ("tail", tail), ("tee", tee), ("tac", tac), ("nl", nl), ("wc", wc),
    ("split", split), ("csplit", csplit), ("dd", Transfer.dd), ("touch", touch), ("truncate", truncate), ("chmod", chmod), ("chown", chown),
    ("chgrp", chgrp), ("mkdir", mkdir), ("mkfifo", mkfifo), ("mknod", mknod), ("mktemp", mktemp),
    ("rm", rm), ("rmdir", rmdir), ("unlink", unlink), ("cp", cp), ("mv", mv), ("ln", ln),
    ("link", link), ("install", install), ("basename", basename), ("dirname", dirname),
    ("readlink", readlink), ("realpath", realpath), ("pwd", pwd), ("ls", ls), ("dir", dir),
    ("vdir", vdir), ("stat", stat), ("du", du), ("date", date), ("sleep", sleep), ("sort", sort),
    ("uniq", uniq), ("comm", comm), ("join", join), ("shuf", Shuffle.shuf), ("numfmt", numfmt), ("tsort", tsort), ("tr", tr),
    ("cut", cut), ("paste", paste), ("rev", rev), ("fold", fold), ("fmt", Filling.fmt), ("expand", expand),
    ("unexpand", unexpand), ("grep", grep), ("egrep", egrep), ("fgrep", fgrep), ("env", env),
    ("nice", nice), ("nohup", nohup), ("setsid", setsid), ("stdbuf", stdbuf), ("ionice", ionice),
    ("timeout", timeout), ("kill", kill), ("xargs", Batch.xargs), ("cmp", Compare.cmp), ("diff", Difference.diff),
    ("expr", expr), ("factor", factor), ("sed", Editor.sed), ("od", Dump.od), ("awk", Records.awk), ("mawk", Records.awk),
    ("find", Walk.find),
    ("base64", Encoding.base64), ("base32", Encoding.base32), ("basenc", Encoding.basenc)] ++ Digests.programs

/-- The program of a name. -/
def find? (name : String) : Option (Act Nat) := (table.find? fun t => t.1 = name).map (·.2)

/-- The names of the programs. -/
def names : List String := table.map (·.1)

end CrossBench.Tool
