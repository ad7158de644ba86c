/-!
# Scripts and the text they print

Scripts as trees, and what becomes of the text that their commands print.
-/

namespace LineShell

/-!
## Scripts

A script is text for a shell of the host: simple commands, put together in
sequence, by conditions, by loops and by bars.  Its text is a row of bytes of
any kind, so every character here stands for the byte of the same number.

Words are kept in pieces.  Whether a piece was quoted decides if a value in it
is divided at blanks.
-/

namespace Script

/-- Text in which each character is a byte. -/
abbrev Text := List Char

/-- What a reference in a script refers to. -/
inductive Parameter where
  | variable (name : Text)
  /-- An argument by its number; zero is the name of the script. -/
  | argument (n : Nat)
  /-- All arguments from the first on. -/
  | all
  /-- The number of arguments. -/
  | count
  /-- The number of the process. -/
  | process
  /-- The status of the last command. -/
  | status
  deriving DecidableEq, Repr

/-- A piece of a word. -/
inductive Piece where
  | text (t : Text) (quoted : Bool)
  | value (p : Parameter) (quoted : Bool)
  deriving DecidableEq, Repr

/-- A word before its references are replaced. -/
abbrev Word := List Piece

/-- The text of a word that has no quotes and no references. -/
def Word.plain? : Word → Option Text
  | [] => some []
  | .text t false :: rest => (Word.plain? rest).map (t ++ ·)
  | _ => none

/-- A stream that a command writes to. -/
inductive Target where
  | output
  | errors
  | nowhere
  deriving DecidableEq, Repr

/-- Where output goes instead. -/
inductive Redirection where
  /-- A stream goes where another one goes. -/
  | copy (stream source : Nat)
  /-- A stream goes to a file, which keeps nothing. -/
  | discard (stream : Nat)
  deriving DecidableEq, Repr

/-- A command without parts. -/
structure Simple where
  /-- The line of the script, counted from one. -/
  line : Nat
  bindings : List (Text × Word)
  words : List Word
  redirections : List Redirection

/-- A script or a part of it. -/
inductive Tree where
  | simple (s : Simple)
  | sequence (first second : Tree)
  /-- Runs the second part if the first has succeeded, or else if it has not. -/
  | condition (first second : Tree) (onSuccess : Bool)
  | negation (t : Tree)
  /-- Gives the output of the first part to the second. -/
  | bar (first second : Tree)
  /-- Runs the body for each word, or for each argument of the script. -/
  | each (name : Text) (words : Option (List Word)) (body : Tree)
  /-- Runs the body as long as the test succeeds, or as long as it does not. -/
  | loop (test body : Tree) (whileSuccess : Bool)
  | branch (test yes no : Tree)
  | nothing
  /-- Text that is no script, with the report of what is wrong. -/
  | fault (line : Nat) (report : Text)

/-!
## Text with escapes

Two commands of scripts print text in which a backslash begins an escape:
`echo` in all it prints, and `printf` in its template, where percent signs
stand for arguments as well.
-/

/-- Whether a character is an octal digit. -/
def isOctal (c : Char) : Bool := '0' ≤ c && c ≤ '7'

/-- Reads up to `most` octal digits after the value `n`. -/
def octal : Nat → Nat → Text → Nat × Text
  | 0, n, t => (n, t)
  | most + 1, n, c :: rest =>
    if isOctal c then octal most (n * 8 + (c.toNat - 48)) rest else (n, c :: rest)
  | _ + 1, n, [] => (n, [])

theorem length_octal_le (most n : Nat) (t : Text) :
    (octal most n t).2.length ≤ t.length := by
  induction most generalizing n t with
  | zero => simp [octal]
  | succ most ih =>
    cases t with
    | nil => simp [octal]
    | cons c rest =>
      simp only [octal]
      split
      · have := ih (n * 8 + (c.toNat - 48)) rest
        simp only [List.length_cons]
        omega
      · simp

/-- The byte of a number. -/
def byteChar (n : Nat) : Char := Char.ofNat (n % 256)

/-- What a letter stands for after a backslash. -/
def escapeLetter? : Char → Option Char
  | '\\' => some '\\'
  | 'a' => some '\x07'
  | 'b' => some '\x08'
  | 'f' => some '\x0c'
  | 'n' => some '\n'
  | 'r' => some '\r'
  | 't' => some '\t'
  | 'v' => some '\x0b'
  | _ => none

/-- Reads what follows a backslash: the character it stands for, and the rest.
What is no escape leaves the backslash as it is. -/
def escaped : Text → Char × Text
  | [] => ('\\', [])
  | c :: rest =>
    if isOctal c then
      let (n, rest) := octal 3 0 (c :: rest)
      (byteChar n, rest)
    else
      match escapeLetter? c with
      | some e => (e, rest)
      | none => ('\\', c :: rest)

theorem length_escaped_le (t : Text) : (escaped t).2.length ≤ t.length := by
  cases t with
  | nil => simp [escaped]
  | cons c rest =>
    simp only [escaped]
    split
    · exact length_octal_le 3 0 (c :: rest)
    · split <;> simp

/-- Adds what `echo` prints for a text, and says whether it goes on after it.
An octal number is written after a zero, and the letter `c` ends everything. -/
def echoFrom (out : Array Char) (t : Text) : Array Char × Bool :=
  match t with
  | [] => (out, true)
  | c :: rest =>
    if c = '\\' then
      if rest.head? = some 'c' then (out, false)
      else if rest.head? = some '0' then
        echoFrom (out.push (byteChar (octal 3 0 rest.tail).1)) (octal 3 0 rest.tail).2
      else echoFrom (out.push (escaped rest).1) (escaped rest).2
    else echoFrom (out.push c) rest
  termination_by t.length
  decreasing_by
  · have := length_octal_le 3 0 rest.tail
    simp only [List.length_cons, List.length_tail] at *
    omega
  · have := length_escaped_le rest
    simp only [List.length_cons]
    omega
  · simp

/-- What `echo` prints. -/
def echo (args : List Text) : Text :=
  let (newline, words) :=
    match args with
    | ['-', 'n'] :: rest => (false, rest)
    | _ => (true, args)
  let (out, goesOn) := echoFrom #[] ([' '].intercalate words)
  (if goesOn && newline then out.push '\n' else out).toList

/-- What an argument is printed as, by the letter after a percent sign. -/
def directive (c : Char) (arg : Text) : Text :=
  if c = 's' then arg
  else if c = 'b' then (echoFrom #[] arg).1.toList
  else if c = 'c' then arg.take 1
  else if c = 'd' || c = 'i' then
    (toString ((String.ofList arg).toInt?.getD 0)).toList
  else ['%', c]

/-- Goes over a template once.  The answer is what is printed and the
arguments that are left. -/
def printOnce (template : Text) (args : List Text) : Text × List Text :=
  match template with
  | [] => ([], args)
  | c :: rest =>
    if c = '%' then
      match rest with
      | [] => (['%'], args)
      | d :: rest' =>
        if d = '%' then
          let (out, left) := printOnce rest' args
          ('%' :: out, left)
        else
          let (out, left) := printOnce rest' args.tail
          (directive d (args.headD []) ++ out, left)
    else if c = '\\' then
      let (out, left) := printOnce (escaped rest).2 args
      ((escaped rest).1 :: out, left)
    else
      let (out, left) := printOnce rest args
      (c :: out, left)
  termination_by template.length
  decreasing_by
  · simp only [List.length_cons]; omega
  · simp only [List.length_cons]; omega
  · have := length_escaped_le rest
    simp only [List.length_cons]
    omega
  · simp

/-- Goes over a template as long as it takes arguments. -/
def printAll (template : Text) (args : List Text) : Text :=
  let (out, left) := printOnce template args
  if left.isEmpty then out
  else if left.length < args.length then out ++ printAll template left
  else out
  termination_by args.length

/-- What `printf` prints. -/
def print (args : List Text) : Text :=
  match args with
  | [] => []
  | template :: rest => printAll template rest

end Script

end LineShell
