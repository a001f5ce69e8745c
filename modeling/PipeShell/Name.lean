/-!
# The shell's name
-/

namespace PipeShell

/-- The name by which the shell calls itself: in its messages, as `$0`, and in its files. -/
def shellName : String := "minish"

end PipeShell
