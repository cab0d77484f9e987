import Disasm.Host.Utility.Awk.Run
import Disasm.Host.Utility.Bytes
import Disasm.Host.Utility.Columns
import Disasm.Host.Utility.Condition
import Disasm.Host.Utility.Expr
import Disasm.Host.Utility.Files
import Disasm.Host.Utility.Grep
import Disasm.Host.Utility.Sed.Run
import Disasm.Host.Utility.Sorting

namespace Disasm.Host.Utility

/-- What a utility does; none for a name that is not one of them, or of one that runs other
programs. -/
def work? (name : String) : Option (Work Unit) :=
  match name with
  | "[" => some (test true)
  | "awk" | "mawk" | "nawk" => some awk
  | "base64" => some base64
  | "basename" => some basename
  | "cat" => some cat
  | "chmod" => some chmod
  | "cp" => some (transfer false "copy")
  | "cut" => some cut
  | "dd" => some dd
  | "dirname" => some dirname
  | "echo" => some echo
  | "expr" => some expr
  | "egrep" => some (grepWith "-E")
  | "false" => some (setStatus 1)
  | "fgrep" => some (grepWith "-F")
  | "fold" => some fold
  | "grep" => some grep
  | "head" => some head
  | "ls" => some ls
  | "mkdir" => some mkdir
  | "mv" => some (transfer true "move")
  | "nl" => some nl
  | "od" => some od
  | "paste" => some paste
  | "printenv" => some printenv
  | "printf" => some printf
  | "pwd" => some pwdUtility
  | "rev" => some rev
  | "rm" => some rm
  | "rmdir" => some rmdir
  | "sed" => some sed
  | "seq" => some seq
  | "sleep" => some sleep
  | "sort" => some sort
  | "tac" => some tac
  | "tail" => some tail
  | "tee" => some tee
  | "test" => some (test false)
  | "touch" => some touch
  | "tr" => some tr
  | "true" => some (setStatus 0)
  | "uniq" => some uniq
  | "wc" => some wc
  | "yes" => some yes
  | _ => none

def run (work : Work Unit) (request : Request) (input : Option (List Char)) : Progress :=
  ((work.run.run request).run { input := input, tree := request.machine.tree }).2

end Disasm.Host.Utility
