/-!
# Shell words

A text of any kind is written into a script as one word: between single
quotation marks nothing is special to the shell, and a single quotation mark
itself is written outside of them.
-/

namespace Provisioning.Shell

set_option autoImplicit false

/-- How a quoted word writes one character.  A quotation mark closes the quoted
part, is written with a backslash in front, and opens the next part. -/
def quoteChar (c : Char) : List Char :=
  if c = '\'' then ['\'', '\\', '\'', '\''] else [c]

/-- A text as one word. -/
def quote (s : String) : String :=
  String.ofList ('\'' :: s.toList.flatMap quoteChar ++ ['\''])

end Provisioning.Shell
