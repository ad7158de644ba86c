/-!
# Faults of input and output

What can go wrong when a file or a stream is used, and the text in which it is
reported.  Faults of the system carry their number; starting a program reports
the same faults by their symbol.
-/

namespace LineShell

/-- A fault that the system reports. -/
inductive SystemFault where
  | noEntry
  | tooManyArguments
  | notExecutable
  | accessDenied
  | notDirectory
  | isDirectory
  | invalidArgument
  | brokenPipe
  | nameTooLong
  | tooManyLinks
  deriving DecidableEq, Repr

namespace SystemFault

/-- The number of a fault. -/
def code : SystemFault → Nat
  | .noEntry => 2
  | .tooManyArguments => 7
  | .notExecutable => 8
  | .accessDenied => 13
  | .notDirectory => 20
  | .isDirectory => 21
  | .invalidArgument => 22
  | .brokenPipe => 32
  | .nameTooLong => 36
  | .tooManyLinks => 40

/-- The symbol of a fault. -/
def symbol : SystemFault → String
  | .noEntry => "ENOENT"
  | .tooManyArguments => "E2BIG"
  | .notExecutable => "ENOEXEC"
  | .accessDenied => "EACCES"
  | .notDirectory => "ENOTDIR"
  | .isDirectory => "EISDIR"
  | .invalidArgument => "EINVAL"
  | .brokenPipe => "EPIPE"
  | .nameTooLong => "ENAMETOOLONG"
  | .tooManyLinks => "ELOOP"

/-- The fault in words. -/
def description : SystemFault → String
  | .noEntry => "No such file or directory"
  | .tooManyArguments => "Argument list too long"
  | .notExecutable => "Exec format error"
  | .accessDenied => "Permission denied"
  | .notDirectory => "Not a directory"
  | .isDirectory => "Is a directory"
  | .invalidArgument => "Invalid argument"
  | .brokenPipe => "Broken pipe"
  | .nameTooLong => "File name too long"
  | .tooManyLinks => "Too many levels of symbolic links"

/-- The fault in the words that go with its symbol. -/
def symbolDescription : SystemFault → String
  | .tooManyLinks => "Too many symbolic links encountered"
  | f => f.description

/-- The report of a fault under its symbol. -/
def symbolMessage (f : SystemFault) : String := f.symbol ++ ": " ++ f.symbolDescription

end SystemFault

/-- A fault of a file or a stream. -/
inductive Fault where
  | system (f : SystemFault)
  /-- A path with a NUL character, which no file can have. -/
  | nulInPath
  /-- Text was expected and the bytes are not UTF-8. -/
  | notUtf8
  /-- A fault that a stream reports in its own words. -/
  | stream (text : String)
  deriving DecidableEq, Repr

/-- The report of a fault. -/
def Fault.message : Fault → String
  | .system f => f.description ++ " (os error " ++ toString f.code ++ ")"
  | .nulInPath => "file name contained an unexpected NUL byte"
  | .notUtf8 => "stream did not contain valid UTF-8"
  | .stream text => text

end LineShell
