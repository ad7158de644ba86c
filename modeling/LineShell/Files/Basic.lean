import LineShell.Files.Fault
import LineShell.Text.Basic

/-!
# Files

Paths are text; what they lead to is found in a tree of files.
-/

namespace LineShell

/-!
## Paths as text

A path is text.  It is absolute if it begins with a slash.  Joining does not
normalise: the result shows how it came about, doubled slashes and dots
included.  What a path leads to is found by walking its steps.
-/

namespace Path

/-- Whether a path does not depend on a directory to start from. -/
def isAbsolute (p : String) : Bool := p.startsWith "/"

/-- The path `p` as seen from the directory `base`.  Joining the empty path
adds a slash, so it names the directory itself. -/
def join (base p : String) : String :=
  if isAbsolute p || base.isEmpty then p
  else if base.endsWith "/" then base ++ p
  else base ++ "/" ++ p

/-- The pieces of a text between slashes. -/
def pieces : List Char → List (List Char)
  | [] => [[]]
  | c :: rest =>
    if c = '/' then [] :: pieces rest
    else
      match pieces rest with
      | [] => [[c]]
      | p :: ps => (c :: p) :: ps

/-- The steps of a path.  Empty pieces do not count, except that a slash at
the end asks for a directory, as a dot does. -/
def steps (p : String) : List String :=
  let names := (pieces p.toList).filter fun s => !s.isEmpty
  names.map String.ofList ++ if p.endsWith "/" then ["."] else []

end Path

/-!
## A tree of files

The tree holds regular files with their bytes, programs of the system, links
and directories.  A location is the list of names that leads from the root to
a node without links or dots.  Walking a path gives its location, with links
followed at every step, the last one included.
-/

/-- A file, link or directory. -/
inductive Node where
  | file (content : Bytes) (executable : Bool)
  /-- A program of the system, known by its name alone. -/
  | system (name : String)
  /-- A device that holds nothing and keeps nothing. -/
  | null
  | link (target : String)
  | directory (entries : List (String × Node))

instance : Inhabited Node := ⟨.directory []⟩

namespace Node

/-- The entries of a directory. -/
def entries : Node → List (String × Node)
  | .directory es => es
  | _ => []

def isDirectory : Node → Bool
  | .directory _ => true
  | _ => false

/-- The entry of a name. -/
def child? (n : Node) (name : String) : Option Node :=
  (n.entries.find? fun e => e.1 == name).map Prod.snd

/-- Puts a node under a name, in place of an earlier one. -/
def setChild (n : Node) (name : String) (new : Node) : Node :=
  .directory ((n.entries.filter fun e => e.1 != name) ++ [(name, new)])

/-- The bytes of a file.  A directory can be opened but not read. -/
def content : Node → Except Fault Bytes
  | .file content _ => .ok content
  | .directory _ => .error (.system .isDirectory)
  | _ => .ok []

/-- The node that a list of names leads to. -/
def descend? (n : Node) : List String → Option Node
  | [] => some n
  | name :: rest =>
    match n.child? name with
    | some m => m.descend? rest
    | none => none

/-- Puts a node at the end of a list of names and makes the directories on
the way.  A directory that exists already keeps its entries. -/
def place (new : Node) : List String → Node → Node
  | [], old =>
    match new, old with
    | .directory [], .directory es => .directory es
    | new, _ => new
  | name :: rest, old =>
    old.setChild name (place new rest ((old.child? name).getD (.directory [])))

end Node

/-- The names from the root to a node. -/
abbrev Location := List String

/-- A location as an absolute path. -/
def Location.render : Location → String
  | [] => "/"
  | l => l.foldl (fun s name => s ++ "/" ++ name) ""

/-- A tree of files, by its root. -/
structure Files where
  root : Node

namespace Files

/-- The longest name a directory can hold, in bytes. -/
def nameLimit : Nat := 255

/-- Paths are shorter than this, in bytes. -/
def pathLimit : Nat := 4096

/-- How many links one walk follows. -/
def linkLimit : Nat := 40

/-- The node at a location. -/
def at? (fs : Files) (l : Location) : Option Node := fs.root.descend? l

/-- Whether a location is a directory. -/
def isDirectoryAt (fs : Files) (l : Location) : Bool :=
  (fs.at? l).any Node.isDirectory

/-- Walks the steps of a path from a location.  Every step starts in a
directory; `links` more links may be followed. -/
def walk (fs : Files) (links : Nat) (here : Location) :
    List String → Except SystemFault Location
  | [] => .ok here
  | step :: rest =>
    match fs.at? here with
    | some (.directory es) =>
      if step = "." then fs.walk links here rest
      else if step = ".." then fs.walk links here.dropLast rest
      else if step.utf8ByteSize > nameLimit then .error .nameTooLong
      else
        match (Node.directory es).child? step with
        | none => .error .noEntry
        | some (.link target) =>
          match links with
          | 0 => .error .tooManyLinks
          | links + 1 =>
            if target.isEmpty then .error .noEntry
            else
              fs.walk links (if Path.isAbsolute target then [] else here)
                (Path.steps target ++ rest)
        | some _ => fs.walk links (here ++ [step]) rest
    | _ => .error .notDirectory
  termination_by steps => (links, steps.length)

/-- The location that a path of any length leads to, from the directory
`dir`, for whoever walks it step by step. -/
def resolve (fs : Files) (dir : Location) (p : String) :
    Except Fault Location :=
  if p.contains '\x00' then .error .nulInPath
  else if p.isEmpty then .error (.system .noEntry)
  else
    match fs.walk linkLimit (if Path.isAbsolute p then [] else dir)
        (Path.steps p) with
    | .ok l => .ok l
    | .error f => .error (.system f)

/-- The location that a path leads to, from the directory `dir`.  The path is
handed to the system in one piece, which has to be short enough. -/
def locate (fs : Files) (dir : Location) (p : String) :
    Except Fault Location :=
  if p.utf8ByteSize ≥ pathLimit && !p.contains '\x00' then .error (.system .nameTooLong)
  else fs.resolve dir p

/-- The node that a path leads to. -/
def find (fs : Files) (dir : Location) (p : String) : Except Fault Node :=
  match fs.locate dir p with
  | .error f => .error f
  | .ok l =>
    match fs.at? l with
    | some n => .ok n
    | none => .error (.system .noEntry)

/-- Whether a path leads to a file with content, be it data or a program. -/
def isFile (fs : Files) (dir : Location) (p : String) : Bool :=
  match fs.find dir p with
  | .ok (.file _ _) => true
  | .ok (.system _) => true
  | _ => false

/-- The bytes of the file that a path leads to. -/
def read (fs : Files) (dir : Location) (p : String) : Except Fault Bytes :=
  match fs.find dir p with
  | .ok n => n.content
  | .error f => .error f

/-- The names in the directory that a path leads to. -/
def list (fs : Files) (dir : Location) (p : String) :
    Except Fault (List String) :=
  match fs.find dir p with
  | .ok (.directory es) => .ok (es.map Prod.fst)
  | .ok _ => .error (.system .notDirectory)
  | .error f => .error f

/-- The location of the directory that a path leads to, for a process that
moves there. -/
def directoryAt (fs : Files) (dir : Location) (p : String) :
    Except Fault Location :=
  match fs.locate dir p with
  | .ok l =>
    if fs.isDirectoryAt l then .ok l else .error (.system .notDirectory)
  | .error f => .error f

end Files

end LineShell
