import LineShell.Files.Fault
import LineShell.Stream.Channel
import LineShell.Token.Machine
import LineShell.Unicode.Category
import LineShell.Unicode.Property

/-!
# Failures of a line

Why a command or a line did not come to a status, and how this is told.
-/

namespace LineShell

/-!
## Quoted text

Text that may hold anything is shown between double quotes.  Characters with
a short escape use it, and characters that would not be seen, or that would
change how their neighbours look, are written by number.
-/

namespace Quoted

/-- Letters that fill a place and have no shape. -/
def fillers : Unicode.CharSet :=
  [(0x115F, 0x1160), (0x3164, 0x3164), (0xFFA0, 0xFFA0)]

/-- The characters that have no shape of their own. -/
def unseen : Unicode.CharSet :=
  Unicode.CharSet.union fillers
    (Unicode.CharSet.union
      (Unicode.CharSet.difference Unicode.assigned.complement Unicode.Latest.assigned)
      (Unicode.unionOfCategories ["cc", "cf", "co", "zl", "zp", "zs"]))

/-- The characters that attach to the one before them.  The halfwidth sound
marks, which take room of their own, are left out. -/
def attached : Unicode.CharSet :=
  Unicode.CharSet.difference
    (Unicode.CharSet.union ((Unicode.property? "graphemeextend").getD []) Unicode.Latest.marks)
    [(0xFF9E, 0xFF9F)]

/-- Whether a character is written by number. -/
def byNumber (c : Char) : Bool :=
  if c.toNat < 0x7F then c.toNat < 0x20
  else attached.contains c.toNat || unseen.contains c.toNat

/-- One character between quotes. -/
def escape (c : Char) : List Char :=
  if c = '\x00' then ['\\', '0']
  else if c = '\t' then ['\\', 't']
  else if c = '\n' then ['\\', 'n']
  else if c = '\r' then ['\\', 'r']
  else if c = '\\' || c = '"' then ['\\', c]
  else if byNumber c then
    ['\\', 'u', '\x7b'] ++ Nat.toDigits 16 c.toNat ++ ['\x7d']
  else [c]

/-- A text between quotes. -/
def quote (s : String) : String :=
  String.ofList ('"' :: s.toList.flatMap escape ++ ['"'])

end Quoted

/-!
## Failures

Why a command or a line did not come to a status.  Leaving the shell is
reported this way too, though nothing has gone wrong.
-/

/-- The status of a command that has come to its end. -/
abbrev Status := Int

/-- An argument that a command of the shell cannot take. -/
inductive BadArgument where
  /-- A status that is not a number. -/
  | status (text : String)
  /-- More than one status. -/
  | statusCount
  /-- Text for a program that holds a NUL character. -/
  | nul (text : String)
  deriving DecidableEq, Repr

/-- The report of a bad argument. -/
def BadArgument.message : BadArgument → String
  | .status text => "exit: " ++ text ++ ": numeric argument required"
  | .statusCount => "exit: too many arguments"
  | .nul text => "NUL byte in " ++ Quoted.quote text

/-- Why a command or a line has no status. -/
inductive Failure where
  /-- The shell is to be left. -/
  | exit (code : Status)
  | commandNotFound (name : String)
  /-- The line ended inside a quotation or after a backslash. -/
  | incomplete
  | reader (m : Misuse)
  | channel (m : Channel.Misuse)
  /-- A system call failed. -/
  | system (call : String) (f : SystemFault)
  | argument (a : BadArgument)
  | stream (f : Fault)
  deriving DecidableEq, Repr

/-- The report of a failure. -/
def Failure.message : Failure → String
  | .exit code => "exit with code " ++ toString code
  | .commandNotFound name => name ++ ": command not found"
  | .incomplete => "unexpected end of input"
  | .reader m => m.message
  | .channel m => m.message
  | .system call f => call ++ ": " ++ f.symbolMessage
  | .argument a => "invalid argument: " ++ a.message
  | .stream f => "IO error: " ++ f.message

end LineShell
