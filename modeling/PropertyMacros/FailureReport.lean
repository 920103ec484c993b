import PropertyMacros.Text.Wrap

/-!
Reports of failures.

A report is a message in lines that fit a terminal. A cross stands in front of the first line, and a
bar in front of the others.
-/

namespace PropertyMacros.FailureReport

/-- The columns of a line: those of a terminal, less two at its end and those of the mark. -/
def width : Nat := 80 - 2 - 4

def messageLines (message : String) : List String :=
  (Text.wrap width message.toList).map String.ofList

def lines (message : String) : List String :=
  match messageLines message with
  | [] => []
  | first :: others => ("  × " ++ first) :: others.map ("  │ " ++ ·)

end PropertyMacros.FailureReport
