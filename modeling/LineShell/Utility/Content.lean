import LineShell.Text.Basic
import LineShell.Utility.Basic

/-!
# Printing words, copying and counting files

Every argument of `cat` and `wc` names a file, whatever it looks like, except
that a single hyphen stands for the input.  The input is read once: a second
hyphen finds nothing left.  The first file that cannot be used ends the work.
-/

namespace LineShell.Utility

namespace Echo

def form : Options.Form where
  about := "write the arguments to standard output, separated by spaces. " ++
    "by default, a trailing newline is printed."
  flags := [⟨"no-newline", some 'n', .none, "do not output the trailing newline."⟩]
  operands := [⟨"args", .rest, "values to print as-is, separated by spaces."⟩]

/-- The text that is printed. -/
def text (words : List String) (newline : Bool) : String :=
  " ".intercalate words ++ if newline then "\n" else ""

/-- Prints the operands, divided by single blanks. -/
def body (c : Options.Choice) (st : Stage) : Outcome Status :=
  match st.write (bytesOf (text c.operands (!c.has "no-newline"))) with
  | (.ok (), st) => (.ok 0, st)
  | (.error f, st) => (.error (.stream f), st)

end Echo

/-- Whether a name stands for the input. -/
def isInputName (name : String) : Bool := name == "-"

namespace Cat

def form : Options.Form where
  about := "print file(s) to stdout"
  flags := []
  operands := [⟨"files", .rest, "files to print; `-` or nothing copies standard input"⟩]

/-- Copies the input. -/
def input (st : Stage) : Outcome Unit :=
  match st.copyInput with
  | (.ok (), st) => (.ok (), st)
  | (.error f, st) => (.error (.stream f), st)

/-- Copies the file of a name. -/
def file (name : String) (st : Stage) : Outcome Unit :=
  match st.openFile name with
  | .error f => (.error (.file "cat" name f), st)
  | .ok node =>
    match node.content with
    | .error f => (.error (.stream f), st)
    | .ok bs =>
      match st.write bs with
      | (.ok (), st) => (.ok (), st)
      | (.error f, st) => (.error (.stream f), st)

/-- Copies files one after the other. -/
def all : List String → Stage → Outcome Status
  | [], st => (.ok 0, st)
  | name :: rest, st =>
    match (if isInputName name then input st else file name st) with
    | (.ok (), st) => all rest st
    | (.error e, st) => (.error e, st)

/-- Copies files, or the input where none is named. -/
def body (c : Options.Choice) (st : Stage) : Outcome Status :=
  all (if c.operands.isEmpty then ["-"] else c.operands) st

end Cat

/-- How much text there is. -/
structure Counts where
  lines : Nat
  words : Nat
  bytes : Nat
  deriving DecidableEq, Repr

namespace Counts

/-- The number of words in a text.  `inside` says whether the text goes on in
the middle of a word that has been counted. -/
def wordsFrom (inside : Bool) (count : Nat) : List Char → Nat
  | [] => count
  | c :: rest =>
    if isBlank c then wordsFrom false count rest
    else wordsFrom true (if inside then count else count + 1) rest

/-- The number of words in a text: rows of characters that are not blank. -/
def wordCount (cs : List Char) : Nat := wordsFrom false 0 cs

/-- Counts bytes, line breaks among them, and words of the text they hold. -/
def ofBytes (bs : Bytes) : Counts where
  lines := bs.count 10
  words := wordCount (Utf8.decodeLossy bs)
  bytes := bs.length

/-- The counts as they are printed. -/
def render (c : Counts) : String :=
  toString c.lines ++ " " ++ toString c.words ++ " " ++ toString c.bytes

end Counts

namespace Wc

def form : Options.Form where
  about := "count lines, words and bytes"
  flags := []
  operands := [⟨"files", .rest, "files to count; `-` or nothing reads standard input"⟩]

/-- The bytes that a name stands for. -/
def read (name : String) (st : Stage) : Outcome Bytes :=
  if isInputName name then
    match st.readInput with
    | (.ok bs, st) => (.ok bs, st)
    | (.error f, st) => (.error (.stream f), st)
  else
    match st.files.read st.directory (st.path name) with
    | .ok bs => (.ok bs, st)
    | .error f => (.error (.file "wc" name f), st)

/-- Counts what a name stands for and prints the counts before a label. -/
def one (name label : String) (st : Stage) : Outcome Unit :=
  match read name st with
  | (.error e, st) => (.error e, st)
  | (.ok bs, st) =>
    match st.writeLine ((Counts.ofBytes bs).render ++ label) with
    | (.ok (), st) => (.ok (), st)
    | (.error f, st) => (.error (.stream f), st)

/-- Counts files one after the other. -/
def all : List String → Stage → Outcome Status
  | [], st => (.ok 0, st)
  | name :: rest, st =>
    match one name (" " ++ name) st with
    | (.ok (), st) => all rest st
    | (.error e, st) => (.error e, st)

/-- Counts files, or the input where none is named. -/
def body (c : Options.Choice) (st : Stage) : Outcome Status :=
  if c.operands.isEmpty then
    match one "-" "" st with
    | (.ok (), st) => (.ok 0, st)
    | (.error e, st) => (.error e, st)
  else all c.operands st

end Wc

end LineShell.Utility
