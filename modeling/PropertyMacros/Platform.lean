/-!
What the operators of the category `System` report.
-/

namespace PropertyMacros

structure Platform where
  pathSeparator : String
  fileSeparator : String
  lineSeparator : String
  os : String
  arch : String

/-- The platform on which properties are evaluated. -/
def Platform.linux : Platform where
  pathSeparator := ":"
  fileSeparator := "/"
  lineSeparator := "\n"
  os := "linux"
  arch := "x86_64"

end PropertyMacros
