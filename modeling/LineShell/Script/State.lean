import LineShell.Program.Basic
import LineShell.Script.Tree

/-!
# What a script begins with

Its flags, and the state that it changes as it goes.
-/

namespace LineShell

/-!
## How a script is asked to run

The words that start the shell of the host begin with flags: letters after a
hyphen, or after a plus sign, which takes them back.  The first word that is
neither, or a hyphen alone or twice, ends them.
-/

namespace Script

/-- What flags ask for. -/
structure Flags where
  /-- The script is given in a word. -/
  inWord : Bool
  /-- The script is read from the input. -/
  fromInput : Bool
  /-- A command that fails ends the script, unless its status is looked at. -/
  stopOnFailure : Bool
  /-- Commands are reported before they are run. -/
  trace : Bool
  /-- No command is run. -/
  idle : Bool
  deriving DecidableEq, Repr

namespace Flags

/-- No flags. -/
def empty : Flags := ⟨false, false, false, false, false⟩

/-- The letters that are known and change nothing here. -/
def neutral : List Char := ['l', 'f', 'I', 'i', 'm', 'v', 'V', 'E', 'a', 'b', 'u']

/-- The flags after one more letter, which is set or taken back. -/
def set? (f : Flags) (on : Bool) (c : Char) : Option Flags :=
  match c with
  | 'c' => some { f with inWord := true }
  | 's' => some { f with fromInput := on }
  | 'e' => some { f with stopOnFailure := on }
  | 'x' => some { f with trace := on }
  | 'n' => some { f with idle := on }
  | c => if neutral.contains c then some f else none

/-- The flags after some letters, or the letter that is not known. -/
def setAll (f : Flags) (on : Bool) : List Char → Except Char Flags
  | [] => .ok f
  | c :: rest =>
    match f.set? on c with
    | some f => f.setAll on rest
    | none => .error c

/-- Reads the flags before other words. -/
def read (f : Flags) : List String → Except Char (Flags × List String)
  | [] => .ok (f, [])
  | word :: rest =>
    match word.toList with
    | ['-'] | ['-', '-'] => .ok (f, rest)
    | '-' :: letters =>
      match f.setAll true letters with
      | .ok f => f.read rest
      | .error c => .error c
    | '+' :: letters =>
      match f.setAll false letters with
      | .ok f => f.read rest
      | .error c => .error c
    | _ => .ok (f, word :: rest)

end Flags

end Script

/-!
## The state of a script

A script has variables, arguments and a status.  It reads its input as it
goes and collects what it writes.  Once it has ended nothing changes any more.
-/

namespace Script

/-- Text in which each character is one of these bytes. -/
def Text.ofBytes (bs : Bytes) : Text := bs.map fun b => Char.ofNat b.toNat

/-- The bytes that a text stands for. -/
def Text.toBytes (t : Text) : Bytes := t.map fun c => c.toNat.toUInt8

/-- The text of a string, byte by byte. -/
def Text.ofString (s : String) : Text := Text.ofBytes (bytesOf s)

/-- The string of a text.  Bytes that are not UTF-8 are replaced. -/
def Text.toString (t : Text) : String := String.ofList (Utf8.decodeLossy (Text.toBytes t))

/-- The state of a script. -/
structure State where
  /-- Values by name, the latest first. -/
  values : List (Text × Text)
  name : Text
  arguments : List Text
  files : Files
  input : Text
  output : Array Char
  errors : Array Char
  /-- The status of the last command. -/
  status : Nat
  ending : Option Ending

namespace State

/-- The status of a script for whoever waits for it. -/
def exitStatus (s : State) : Nat :=
  match s.ending with
  | none => s.status
  | some (.exited code) => code
  | some (.killed signal) => 128 + signal

/-- The value of a variable, empty where it has none. -/
def value (s : State) (name : Text) : Text :=
  ((s.values.find? fun v => v.1 = name).map Prod.snd).getD []

/-- Gives a variable a value. -/
def set (s : State) (name value : Text) : State :=
  { s with values := (name, value) :: s.values.filter fun v => v.1 ≠ name }

/-- Sets the status. -/
def answer (s : State) (status : Nat) : State := { s with status }

/-- Ends the script. -/
def finish (s : State) (e : Ending) : State := { s with ending := some e }

/-- Goes on unless the script has ended. -/
def unlessEnded (s : State) (k : State → State) : State :=
  if s.ending.isSome then s else k s

/-- Writes text to a stream. -/
def write (s : State) (t : Target) (text : Array Char) : State :=
  match t with
  | .output => { s with output := s.output ++ text }
  | .errors => { s with errors := s.errors ++ text }
  | .nowhere => s

/-- Reports something about a line. -/
def report (s : State) (line : Nat) (text : Text) : State :=
  { s with errors := s.errors ++
      (s.name ++ ": ".toList ++ (Nat.toDigits 10 line) ++ ": ".toList ++ text ++ ['\n']) }

/-- The process of every script has this number. -/
def processNumber : Text := "1000".toList

/-- What a reference is replaced by.  All arguments together are divided by
blanks. -/
def parameter (s : State) : Parameter → Text
  | .variable name => s.value name
  | .argument 0 => s.name
  | .argument (n + 1) => s.arguments.getD n []
  | .all => [' '].intercalate s.arguments
  | .count => Nat.toDigits 10 s.arguments.length
  | .process => processNumber
  | .status => Nat.toDigits 10 s.status

end State

/-! ### Words -/

/-- Whether unquoted values are divided at a character. -/
def divides (c : Char) : Bool := c = ' ' || c = '\t' || c = '\n'

/-- Fields that a word is being turned into: those that are complete, last one
first, and the one that may go on. -/
structure Fields where
  complete : List Text
  current : Option Text

namespace Fields

/-- Adds text to the current field. -/
def add (f : Fields) (t : Text) : Fields :=
  { f with current := some (f.current.getD [] ++ t) }

/-- Completes the current field. -/
def cut (f : Fields) : Fields :=
  match f.current with
  | some t => ⟨t :: f.complete, none⟩
  | none => f

/-- Adds text that is divided at blanks. -/
def addDivided (f : Fields) (t : Text) : Fields :=
  t.foldl (fun f c => if divides c then f.cut else f.add [c]) f

/-- Adds texts of which each but the first begins a new field. -/
def addEach (f : Fields) : List Text → Fields
  | [] => f
  | [t] => f.add t
  | t :: rest => (f.add t).cut.addEach rest

/-- Adds a piece of a word. -/
def addPiece (s : State) (f : Fields) : Piece → Fields
  | .text t _ => f.add t
  | .value .all true => f.addEach s.arguments
  | .value p true => f.add (s.parameter p)
  | .value p false => f.addDivided (s.parameter p)

end Fields

/-- The fields that a word stands for. -/
def Word.fields (s : State) (w : Word) : List Text :=
  (w.foldl (Fields.addPiece s) ⟨[], none⟩).cut.complete.reverse

/-- The text that a word stands for where it is not divided. -/
def Word.whole (s : State) (w : Word) : Text :=
  w.flatMap fun
    | .text t _ => t
    | .value p _ => s.parameter p

end Script

end LineShell
