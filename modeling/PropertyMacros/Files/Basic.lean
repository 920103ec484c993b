/-!
What a program can learn about files.
-/

namespace PropertyMacros

inductive FileFault where
  | notFound
  | notDirectory
  | isDirectory
  | nameTooLong
  | notText
  | zeroInPath
  | other (reason : String)
  deriving DecidableEq, Repr

def FileFault.message : FileFault → String
  | notFound => "No such file or directory (os error 2)"
  | notDirectory => "Not a directory (os error 20)"
  | isDirectory => "Is a directory (os error 21)"
  | nameTooLong => "File name too long (os error 36)"
  | notText => "stream did not contain valid UTF-8"
  | zeroInPath => "file name contained an unexpected NUL byte"
  | other reason => reason

/-- The outcome of reading a path, and of opening it to append to it. -/
structure Files where
  read : String → Except FileFault ByteArray
  openLog : String → Except FileFault Unit

namespace Files

def readText (files : Files) (path : String) : Except FileFault String := do
  match String.fromUTF8? (← files.read path) with
  | some text => return text
  | none => throw .notText

/-- Whether a path leads to a file or a directory. -/
def contains (files : Files) (path : String) : Bool :=
  match files.read path with
  | .ok _ | .error .isDirectory => true
  | .error _ => false

end Files

end PropertyMacros
