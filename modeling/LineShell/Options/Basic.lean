import LineShell.Text.Basic

/-!
# Options and operands

A form says which options and operands a command takes.  Arguments are read
from left to right.  An argument that begins with a hyphen is an option until
`--`, or until the first operand of an open-ended row, ends the options.
Options are written in full, one per argument, and an option that takes a
value takes the next argument.  The word `help` asks for help as `--help`
does.

A fault in the arguments is reported before a request for help, and both
before missing operands.
-/

namespace LineShell

namespace Options

/-- What an option expects after it. -/
inductive Value where
  | none
  | text
  | count
  deriving DecidableEq, Repr

/-- An option, under its long name and perhaps a letter. -/
structure Flag where
  long : String
  short : Option Char
  value : Value
  about : String

/-- How many arguments an operand stands for. -/
inductive Arity where
  | one
  | optional
  /-- All arguments that are left.  The first of them ends the options. -/
  | rest
  deriving DecidableEq, Repr

/-- An operand. -/
structure Operand where
  name : String
  arity : Arity
  about : String

/-- What a command accepts. -/
structure Form where
  about : String
  flags : List Flag
  operands : List Operand

/-- What is wrong with the arguments of a command. -/
inductive Fault where
  | unrecognized (argument : String)
  | noValue (option : String)
  | badValue (option value why : String)
  | afterHelp
  | missing (operands : List String)
  deriving DecidableEq, Repr

/-- The report of a fault.  All but one end their line. -/
def Fault.message : Fault → String
  | .unrecognized a => "Unrecognized argument: " ++ a ++ "\n"
  | .noValue o => "No value provided for option '" ++ o ++ "'.\n"
  | .badValue o v why =>
    "Error parsing option '" ++ o ++ "' with value '" ++ v ++ "': " ++ why ++ "\n"
  | .afterHelp => "Trailing arguments are not allowed after `help`."
  | .missing names =>
    "Required positional arguments not provided:" ++
      String.join (names.map fun n => "\n    " ++ n) ++ "\n"

/-- What the arguments of a command say. -/
structure Choice where
  /-- The long names of the options without a value that were given. -/
  switches : List String
  /-- The long names of the other options, with their values. -/
  values : List (String × String)
  operands : List String
  deriving DecidableEq, Repr

namespace Choice

/-- Whether an option without a value was given. -/
def has (c : Choice) (long : String) : Bool := c.switches.contains long

/-- The value that an option was given. -/
def value? (c : Choice) (long : String) : Option String :=
  (c.values.find? fun e => e.1 == long).map Prod.snd

end Choice

/-- A reading of arguments that has not come to its end. -/
structure Reading where
  switches : List String
  values : List (String × String)
  /-- The operands, latest first. -/
  operands : List String
  help : Bool
  /-- Whether every further argument is an operand. -/
  ended : Bool
  /-- How many operands of the form are taken. -/
  taken : Nat

/-- The reading before any argument. -/
def Reading.start : Reading := ⟨[], [], [], false, false, 0⟩

/-- What has been read. -/
def Reading.choice (r : Reading) : Choice := ⟨r.switches, r.values, r.operands.reverse⟩

/-- The words that ask for help. -/
def helpWords : List String := ["--help", "help"]

/-- Whether an option can be written in this way. -/
def Flag.matches (f : Flag) (argument : String) : Bool :=
  argument == "--" ++ f.long ||
    f.short.any fun c => argument == String.ofList ['-', c]

/-- Whether an option accepts a value. -/
def Value.check : Value → String → Except String Unit
  | .count, v =>
    match Numeral.natural Numeral.countLimit v with
    | .ok _ => .ok ()
    | .error e => .error e.message
  | _, _ => .ok ()

/-- Takes an argument as the next operand. -/
def Form.takeOperand (form : Form) (argument : String) (r : Reading) :
    Except Fault Reading :=
  match form.operands[r.taken]? with
  | none => .error (.unrecognized argument)
  | some operand =>
    let r := { r with operands := argument :: r.operands }
    if operand.arity = .rest then .ok { r with ended := true }
    else .ok { r with taken := r.taken + 1 }

/-- Reads arguments up to the first fault. -/
def Form.read (form : Form) : List String → Reading → Except Fault Reading
  | [], r => .ok r
  | a :: rest, r =>
    if r.ended || (!helpWords.contains a && !a.startsWith "-") then
      match form.takeOperand a r with
      | .ok r => form.read rest r
      | .error e => .error e
    else if helpWords.contains a then form.read rest { r with help := true }
    else if a == "--" then form.read rest { r with ended := true }
    else if r.help then .error .afterHelp
    else
      match form.flags.find? (·.matches a) with
      | none => .error (.unrecognized a)
      | some f =>
        if f.value = .none then
          form.read rest { r with switches := f.long :: r.switches }
        else
          match rest with
          | [] => .error (.noValue a)
          | v :: rest =>
            if r.values.any fun e => e.1 == f.long then
              .error (.badValue a v "duplicate values provided")
            else
              match f.value.check v with
              | .error why => .error (.badValue a v why)
              | .ok () =>
                form.read rest { r with values := (f.long, v) :: r.values }

/-- The operands that a command cannot do without. -/
def Form.required (form : Form) : List Operand :=
  form.operands.filter fun o => o.arity = .one

/-- What some arguments amount to. -/
inductive Request where
  | help
  | run (choice : Choice)
  deriving DecidableEq, Repr

/-- Reads the arguments of a command. -/
def Form.parse (form : Form) (args : List String) : Except Fault Request :=
  match form.read args Reading.start with
  | .error e => .error e
  | .ok r =>
    if r.help then .ok .help
    else
      let missing := form.required.drop r.operands.length
      if missing.isEmpty then .ok (.run r.choice)
      else .error (.missing (missing.map Operand.name))

end Options

/-!
## Help for options

The help of a command shows how it is used, what it is for, and what each
option and operand means.  Meanings stand in a column of their own, which ends
at the right margin; a name that reaches into that column has its meaning on
the next line.  An open-ended row of operands is shown in the usage only.
-/

namespace Options

/-- Where meanings begin. -/
def column : Nat := 20

/-- Lines are not longer than this unless a single word is. -/
def margin : Nat := 80

/-- Fills a line with blanks up to the column of meanings. -/
def pad (line : String) : String :=
  line ++ String.ofList (List.replicate (column - line.length) ' ')

/-- Sets words behind what a line holds, and on as many new lines as needed. -/
def wrap (line : String) : List String → List String
  | [] => [line]
  | w :: rest =>
    if line.length + w.length + 1 > margin then line :: wrap (pad "" ++ w) rest
    else wrap (line ++ " " ++ w) rest

/-- The lines of a name with its meaning. -/
def entry (name about : String) : List String :=
  let first := "  " ++ name
  match about.splitOn " " with
  | [] => [first]
  | w :: rest =>
    if first.length < column then wrap (pad first ++ w) rest
    else first :: wrap (pad "" ++ w) rest

/-- An option in the usage. -/
def Flag.usage (f : Flag) : String :=
  let name := match f.short with
    | some c => String.ofList ['-', c]
    | none => "--" ++ f.long
  if f.value = .none then "[" ++ name ++ "]"
  else "[" ++ name ++ " <" ++ f.long ++ ">]"

/-- An operand in the usage. -/
def Operand.usage (o : Operand) : String :=
  match o.arity with
  | .one => "<" ++ o.name ++ ">"
  | .optional => "[<" ++ o.name ++ ">]"
  | .rest => "[" ++ o.name ++ "...]"

/-- All ways to write an option. -/
def Flag.spelling (f : Flag) : String :=
  match f.short with
  | some c => String.ofList ['-', c] ++ ", --" ++ f.long
  | none => "--" ++ f.long

/-- The help of a command under a name. -/
def Form.help (form : Form) (name : String) : String :=
  let single := form.operands.filter fun o => o.arity ≠ .rest
  let open_ := form.operands.filter fun o => o.arity = .rest
  let usage := ["Usage: " ++ name] ++ form.flags.map Flag.usage ++
    (if single.isEmpty then [] else ["[--]"]) ++
    single.map Operand.usage ++ open_.map Operand.usage
  let operands :=
    if single.isEmpty then []
    else "Positional Arguments:" ::
      single.flatMap (fun o => entry o.name o.about) ++ [""]
  let options := "Options:" ::
    form.flags.flatMap (fun f => entry f.spelling f.about) ++
    entry "--help, help" "display usage information"
  let lines := [" ".intercalate usage, "", form.about, ""] ++ operands ++ options
  String.join (lines.map (· ++ "\n"))

end Options

end LineShell
