import Conformance.Host.Launch
import Conformance.Shell.Start
import Conformance.Tools.Files
import Conformance.Tools.Grep
import Conformance.Tools.Lines
import Conformance.Tools.Listing
import Conformance.Tools.Printing
import Conformance.Tools.Running
import Conformance.Tools.Sed
import Conformance.Tools.Streams
import Conformance.Tools.Translation

/-!
# Programs

The programs that a host has, by their names: the shell, and the tools that scripts call.
-/

namespace Conformance.Programs

open Tools

/-- The tools by their names. -/
def tool? (name : String) : Option (Tool Unit) :=
  match name with
  | "[" => some (Condition.tool true)
  | "basename" => some basename
  | "cat" => some cat
  | "chmod" => some chmod
  | "cmp" => some cmp
  | "comm" => some comm
  | "cp" => some cp
  | "cut" => some cut
  | "dirname" => some dirname
  | "echo" => some echo
  | "egrep" => some (grep 'E')
  | "env" => some env
  | "false" => some failing
  | "fgrep" => some (grep 'F')
  | "find" => some find
  | "fold" => some fold
  | "grep" => some (grep 'G')
  | "head" => some head
  | "hostname" => some (fixedLine "localhost")
  | "id" => some identity
  | "kill" => some kill
  | "link" => some link
  | "ln" => some ln
  | "ls" => some ls
  | "mkdir" => some mkdir
  | "mkfifo" => some mkfifo
  | "mktemp" => some mktemp
  | "mv" => some mv
  | "nice" => some (runPlainly "n:")
  | "nl" => some nl
  | "nohup" => some nohup
  | "paste" => some paste
  | "printenv" => some printenv
  | "printf" => some printf
  | "pwd" => some pwd
  | "readlink" => some readlink
  | "realpath" => some realpath
  | "rev" => some rev
  | "rm" => some rm
  | "rmdir" => some rmdir
  | "sed" => some sed
  | "seq" => some seq
  | "setsid" => some (runPlainly "w")
  | "sleep" => some sleep
  | "sort" => some sort
  | "stat" => some stat
  | "stdbuf" => some (runPlainly "i:o:e:")
  | "tac" => some tac
  | "tail" => some tail
  | "tee" => some tee
  | "test" => some (Condition.tool false)
  | "timeout" => some timeout
  | "touch" => some touch
  | "tr" => some tr
  | "true" => some succeed
  | "truncate" => some truncate
  | "uname" => some uname
  | "uniq" => some uniq
  | "unlink" => some unlink
  | "wc" => some wc
  | "which" => some which
  | "whoami" => some (fixedLine "root")
  | "xargs" => some xargs
  | "yes" => some yes
  | _ => none

/-- Starts the program with a name. -/
def load : Host.Loader := fun name words environment =>
  if name = "dash" then some (Shell.start words environment)
  else (tool? name).map fun tool => tool.toProcess (.ofWords words environment)

/-- The host on which programs are launched, before anything is done on it. -/
def host (disk : Disk) : Host := { disk }

/-- The executor that launches programs. -/
def executor : Executor Host := Host.executor load

end Conformance.Programs
