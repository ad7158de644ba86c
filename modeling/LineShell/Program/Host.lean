import LineShell.Script.Run
import LineShell.Text.Basic

/-!
# Programs of a host

What the shell can start: programs of the host itself, and files whose first
line names an interpreter.
-/

namespace LineShell

/-!
## The line that names an interpreter

A file that begins with `#!` is not run itself: the rest of its first line
names the program that is to read it, and one argument for that program, which
may hold blanks.  Only the head of the file is looked at, as if zeros filled
it up.  A name that might go on behind the head does not count; an argument
that does is cut off.
-/

/-- A program that reads a file, with its argument before the file. -/
structure Interpreter where
  path : String
  argument : Option String
  deriving DecidableEq, Repr

namespace Interpreter

/-- How much of a file is looked at. -/
def headLength : Nat := 256

/-- The head of a file, filled up with zeros. -/
def head (content : Bytes) : Bytes :=
  let bs := content.take headLength
  bs ++ List.replicate (headLength - bs.length) 0

/-- Whether a byte is a blank here. -/
def isGap (b : UInt8) : Bool := b = 0x20 || b = 0x09

/-- Whether a byte ends a name. -/
def endsName (b : UInt8) : Bool := isGap b || b = 0

/-- What comes after `#!` on the first line of a head, if it can be used.  The
line may go on behind the head, whose last byte is then given up, if something
ends the name before. -/
def line? (rest : Bytes) : Option Bytes :=
  let line := rest.takeWhile fun b => b ≠ 10 && b ≠ 0
  if (rest.drop line.length).head? = some 10 then some line
  else if (rest.dropWhile isGap).any endsName then some rest.dropLast
  else none

/-- A text without the blanks around it. -/
def trim (bs : Bytes) : Bytes :=
  ((bs.reverse.dropWhile isGap).reverse).dropWhile isGap

/-- The text of some bytes. -/
def text (bs : Bytes) : String := String.ofList (Utf8.decodeLossy bs)

/-- The interpreter that a trimmed line names, unless it is empty.  A zero
ends the line after the name or after the argument. -/
def ofLine? (line : Bytes) : Option Interpreter :=
  if line.isEmpty then none
  else
    let name := line.takeWhile fun b => !endsName b
    let rest := line.drop name.length
    some
      { path := text name
        argument :=
          if rest.head?.any isGap then
            some (text ((rest.dropWhile isGap).takeWhile (· ≠ 0)))
          else none }

/-- The interpreter that a file names. -/
def ofFile? (content : Bytes) : Option Interpreter :=
  match head content with
  | 0x23 :: 0x21 :: rest => (line? rest).bind fun line => ofLine? (trim line)
  | _ => none

end Interpreter

/-!
## The host

A small host on which the shell can run: a handful of programs under
`/usr/bin`, and any file that may be executed and names its interpreter on its
first line.  An interpreter can itself be such a file, up to a certain depth.
-/

namespace Host

/-- The names of the host's own programs. -/
def programNames : List String := ["cat", "false", "sh", "tr", "true"]

/-- The files of a host on which nobody has put anything. -/
def bare : Files where
  root := .directory [
    ("bin", .link "usr/bin"),
    ("dev", .directory [("null", .null)]),
    ("tmp", .directory []),
    ("usr", .directory [
      ("bin", .directory (programNames.map fun n => (n, .system n)))])]

/-! ### The host's own programs -/

/-- The end of a program that has read nothing. -/
def finish (files : Files) (code : Nat) (errors : String) : Completion where
  taken := 0
  output := []
  errors := bytesOf errors
  ending := .exited code
  files := files

/-- Copies the files that are named, or the input.  `self` is the name under
which faults are reported. -/
def copyFiles (self : String) (directory : Location) (files : Files) :
    List String → Bytes → Completion → Completion
  | [], _, done => done
  | name :: rest, input, done =>
    if name = "-" then
      copyFiles self directory files rest []
        { done with taken := done.taken + input.length, output := done.output ++ input }
    else
      match files.read directory name with
      | .ok bs =>
        copyFiles self directory files rest input { done with output := done.output ++ bs }
      | .error f =>
        let why := match f with
          | .system f => f.description
          | f => f.message
        copyFiles self directory files rest input
          { done with
            errors := done.errors ++ bytesOf (self ++ ": " ++ name ++ ": " ++ why ++ "\n")
            ending := .exited 1 }

/-- The characters of a set such as `a-z`. -/
def characters : Script.Text → Script.Text
  | lo :: '-' :: hi :: rest =>
    ((List.range (hi.toNat + 1)).drop lo.toNat).map Char.ofNat ++ characters rest
  | c :: rest => c :: characters rest
  | [] => []

/-- Puts the characters of one set in the place of those of another.  The last
one of a short set is used for all that are left. -/
def exchange (source target : Script.Text) (c : Char) : Char :=
  match source.idxOf? c with
  | some i => target.getD i (target.getLastD c)
  | none => c

/-- What the shell of the host does with its words. -/
def shell (host : Host) (p : Program) (directory : Location) (files : Files)
    (input : Bytes) : Completion :=
  let self := p.words.headD "sh"
  let refuse := fun why => finish files 2 (self ++ ": 0: " ++ why ++ "\n")
  match Script.Flags.empty.read p.words.tail with
  | .error c => refuse ("Illegal option -" ++ c.toString)
  | .ok (flags, words) =>
    let run := fun (text : Script.Text) (name : String) (args : List String) (input : Bytes) =>
      Script.run host flags text (Script.Text.ofString name)
        (args.map Script.Text.ofString) p.exported directory files input
    if flags.inWord then
      match words with
      | [] => refuse "-c requires an argument"
      | text :: rest =>
        run (Script.Text.ofString text) (rest.headD self) rest.tail input
    else if flags.fromInput || words.isEmpty then
      { run (Script.Text.ofBytes input) self words [] with taken := input.length }
    else
      let file := words.headD ""
      match files.read directory file with
      | .ok bs => run (Script.Text.ofBytes bs) file words.tail input
      | .error _ => refuse ("cannot open " ++ file ++ ": No such file")

/-- What one of the host's own programs does. -/
def program (host : Host) (name : String) (p : Program) (directory : Location)
    (files : Files) (input : Bytes) : Completion :=
  match name with
  | "sh" => shell host p directory files input
  | "cat" =>
    let names := if p.words.tail.isEmpty then ["-"] else p.words.tail
    copyFiles (p.words.headD name) directory files names input (finish files 0 "")
  | "tr" =>
    let set := fun i => characters (Script.Text.ofString (p.words.getD i ""))
    { finish files 0 "" with
      taken := input.length
      output := Script.Text.toBytes
        ((Script.Text.ofBytes input).map (exchange (set 1) (set 2))) }
  | "false" => finish files 1 ""
  | _ => finish files 0 ""

/-! ### Starting -/

/-- What is started by a path. -/
inductive Image where
  /-- One of the host's own programs. -/
  | system (name : String)
  /-- A file that names its interpreter, if anything can be started at all. -/
  | file (content : Bytes)

/-- The image that a path leads to.  No path at all leads to the directory,
which cannot be started. -/
def image (files : Files) (directory : Location) (path : String) :
    Except SystemFault Image :=
  if path.isEmpty then .error .accessDenied
  else
    match files.find directory path with
    | .error (.system f) => .error f
    | .error _ => .error .noEntry
    | .ok (.system name) => .ok (.system name)
    | .ok (.file content true) => .ok (.file content)
    | .ok _ => .error .accessDenied

/-- An interpreter can itself name an interpreter, so many times. -/
def chainLimit : Nat := 5

/-- Starts a program with the help of the interpreters that files name.  `run`
is what the host's own programs do. -/
def start (run : String → Host) : Nat → Host
  | links, p, directory, files, input =>
    match image files directory p.path with
    | .error f => .error f
    | .ok (.system name) => run name p directory files input
    | .ok (.file content) =>
      match Interpreter.ofFile? content with
      | none => .error .notExecutable
      | some i =>
        match links with
        | 0 =>
          match image files directory i.path with
          | .error f => .error f
          | .ok _ => .error .tooManyLinks
        | links + 1 =>
          start run links
            { p with
              path := i.path
              words := i.path :: i.argument.toList ++ p.path :: p.words.tail }
            directory files input

/-- Each text that is handed to a program has fewer bytes than this. -/
def textLimit : Nat := 131072

/-- How much room there is for all that is handed to a program. -/
def roomLimit : Nat := 2097152

/-- The room that a reference to a text takes up. -/
def referenceSize : Nat := 8

/-- Whether there is room for what is handed to a program: every text with a
byte that ends it, and a reference to each word and variable. -/
def fits (p : Program) : Bool :=
  let texts := p.words ++ p.exported
  texts.all (fun t => t.utf8ByteSize < textLimit) &&
    (p.path :: texts).foldl (fun n t => n + (t.utf8ByteSize + 1)) 0 +
      referenceSize * texts.length ≤ roomLimit

/-- The host on which programs start programs, and those again, up to a
depth. -/
def ofDepth : Nat → Host
  | 0 => fun _ _ _ _ => .error .tooManyLinks
  | depth + 1 => fun p directory files input =>
    if fits p then
      start (fun name p directory files input =>
        .ok (program (ofDepth depth) name p directory files input))
        chainLimit p directory files input
    else .error .tooManyArguments

/-- The host that the shell runs on. -/
def standard : Host := ofDepth 16

end Host

end LineShell
