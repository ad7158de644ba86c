import LineShell.Script.Token

/-!
# Reading scripts

A script consists of lists of commands.  Words such as `for` and `done` are
reserved where a command could begin, and nowhere else.  What is wrong with a
script shows where the reading comes to it, so it stands in the tree at that
place, after everything that is right.
-/

namespace LineShell.Script

/-- A reading of tokens, with the tokens that are left. -/
abbrev Parse := StateT (List Placed) (Except (Nat × Text))

namespace Parse

/-- The report of a token in the wrong place. -/
def unexpected : Option Token → Text
  | none => "Syntax error: end of file unexpected".toList
  | some (.sign '\n') => "Syntax error: newline unexpected".toList
  | some (.sign c) => "Syntax error: \"".toList ++ [c] ++ "\" unexpected".toList
  | some (.redirect _) => "Syntax error: redirection unexpected".toList
  | some (.word w) =>
    match w.plain? with
    | some t => "Syntax error: \"".toList ++ t ++ "\" unexpected".toList
    | none => "Syntax error: word unexpected".toList

/-- The next token. -/
def peek? : Parse (Option Token) := return (← get).head?.map Prod.fst

/-- The line of the next token. -/
def line : Parse Nat := return ((← get).head?.map Prod.snd).getD 1

/-- Passes the next token. -/
def skip : Parse Unit := modify List.tail

/-- Refuses the next token. -/
def refuse {α : Type} : Parse α := do
  throw (← line, unexpected (← peek?))

/-- Passes line breaks, and semicolons too if they are allowed. -/
def skipBreaks (semicolons : Bool) : Parse Unit :=
  modify fun ts => ts.dropWhile fun t =>
    match t.1 with
    | .sign '\n' => true
    | .sign ';' => semicolons
    | _ => false

/-- The text of the next token, if that is a plain word. -/
def plain? : Parse (Option Text) := do
  match ← peek? with
  | some (.word w) => return w.plain?
  | _ => return none

/-- Whether the next token is this reserved word. -/
def isReserved (s : String) : Parse Bool := return (← plain?) = some s.toList

/-- Passes a reserved word. -/
def expect (s : String) : Parse Unit := do
  if ← isReserved s then skip else refuse

/-- The words that end a list. -/
def terminators : List String :=
  ["do", "done", "then", "else", "elif", "fi", "\x7d"]

/-- Whether the list ends here. -/
def atEndOfList : Parse Bool := do
  match ← peek? with
  | none => return true
  | some (.sign ')') => return true
  | _ =>
    match ← plain? with
    | some t => return terminators.contains (String.ofList t)
    | none => return false

/-- Passes a sign if it comes next, once or doubled as asked. -/
def sign (c : Char) (doubled : Bool) : Parse Bool := do
  match (← get).map Prod.fst with
  | .sign a :: .sign b :: _ =>
    if a = c && b = c then
      if doubled then skip; skip
      return doubled
    else if a = c && !doubled then skip; return true
    else return false
  | .sign a :: _ =>
    if a = c && !doubled then skip; return true
    else return false
  | _ => return false

end Parse

/-- A word as a binding: a plain name, an equals sign and the value. -/
def Word.binding? (name : Text) : Word → Option (Text × Word)
  | .text [c] false :: rest =>
    if c = '=' then
      match name with
      | [] => none
      | n :: _ => if beginsName n then some (name, rest) else none
    else if continuesName c then Word.binding? (name ++ [c]) rest
    else none
  | _ => none

namespace Parse

/-- The words up to the next sign. -/
def words : List Placed → List Word × List Placed
  | (.word w, _) :: rest =>
    let (ws, rest) := words rest
    (w :: ws, rest)
  | rest => ([], rest)

/-- The place that output is sent to, after the sign that sends it. -/
def target (stream : Nat) : Parse Redirection := do
  match (← get).map Prod.fst with
  | .sign '&' :: .word w :: _ =>
    skip
    skip
    match (w.plain?.bind fun t => (String.ofList t).toNat?) with
    | some source => return .copy stream source
    | none => return .discard stream
  | .word _ :: _ =>
    skip
    return .discard stream
  | _ => refuse

/-- Reads a command without parts.  `fuel` is more than the number of tokens. -/
def simple : Nat → Simple → Parse Simple
  | 0, s => return s
  | fuel + 1, s => do
    match ← peek? with
    | some (.redirect stream) =>
      skip
      let r ← target stream
      simple fuel { s with redirections := s.redirections ++ [r] }
    | some (.word w) =>
      skip
      match if s.words.isEmpty then w.binding? [] else none with
      | some b => simple fuel { s with bindings := s.bindings ++ [b] }
      | none => simple fuel { s with words := s.words ++ [w] }
    | _ => return s

mutual

/-- Reads a list of commands, up to a word that ends it. -/
def list : Nat → Parse Tree
  | 0 => refuse
  | fuel + 1 => do
    skipBreaks false
    if ← atEndOfList then return .nothing
    else
      let first ← conditions fuel (← bars fuel)
      match ← peek? with
      | some (.sign c) =>
        if c = ';' || c = '\n' || c = '&' then
          skip
          return .sequence first (← list fuel)
        else return first
      | _ => return first

/-- Reads what depends on whether a command succeeds. -/
def conditions : Nat → Tree → Parse Tree
  | 0, _ => refuse
  | fuel + 1, t => do
    let onSuccess ← sign '&' true
    let onFailure ← if onSuccess then pure false else sign '|' true
    if onSuccess || onFailure then
      skipBreaks false
      conditions fuel (.condition t (← bars fuel) onSuccess)
    else return t

/-- Reads commands between bars. -/
def bars : Nat → Parse Tree
  | 0 => refuse
  | fuel + 1 => do
    if ← isReserved "!" then
      skip
      return .negation (← bars fuel)
    else
      let first ← command fuel
      if ← sign '|' false then
        skipBreaks false
        return .bar first (← bars fuel)
      else return first

/-- Reads the rest of a condition, after the word that opens it. -/
def branches : Nat → Parse Tree
  | 0 => refuse
  | fuel + 1 => do
    let test ← list fuel
    expect "then"
    let yes ← list fuel
    if ← isReserved "elif" then
      skip
      return .branch test yes (← branches fuel)
    else if ← isReserved "else" then
      skip
      let no ← list fuel
      expect "fi"
      return .branch test yes no
    else
      expect "fi"
      return .branch test yes .nothing

/-- Reads the body of a loop. -/
def body : Nat → Parse Tree
  | 0 => refuse
  | fuel + 1 => do
    skipBreaks true
    expect "do"
    let t ← list fuel
    expect "done"
    return t

/-- Reads a command. -/
def command : Nat → Parse Tree
  | 0 => refuse
  | fuel + 1 => do
    match (← plain?).map String.ofList with
    | some "for" =>
      skip
      match ← plain? with
      | none => refuse
      | some name =>
        skip
        if ← isReserved "in" then
          skip
          let (ws, rest) := words (← get)
          set rest
          return .each name (some ws) (← body fuel)
        else return .each name none (← body fuel)
    | some "while" =>
      skip
      let test ← list fuel
      return .loop test (← body fuel) true
    | some "until" =>
      skip
      let test ← list fuel
      return .loop test (← body fuel) false
    | some "if" =>
      skip
      branches fuel
    | some "\x7b" =>
      skip
      let t ← list fuel
      expect "\x7d"
      return t
    | some t =>
      if t = "in" || terminators.contains t then refuse
      else
        return .simple (← simple ((← get).length + 1) ⟨← line, [], [], []⟩)
    | none =>
      match ← peek? with
      | some (.sign _) => refuse
      | none => refuse
      | _ => return .simple (← simple ((← get).length + 1) ⟨← line, [], [], []⟩)

end

/-- The commands of a script, one after the other. -/
def program : Nat → List Placed → Tree
  | 0, _ => .nothing
  | fuel + 1, ts =>
    let ts := ts.dropWhile fun t =>
      match t.1 with
      | .sign '\n' => true
      | _ => false
    if ts.isEmpty then .nothing
    else
      let depth := 8 * ts.length + 8
      match ((do conditions depth (← bars depth)) : Parse Tree).run ts with
      | .error (line, report) => .fault line report
      | .ok (t, []) => t
      | .ok (t, (.sign c, l) :: rest) =>
        if c = ';' || c = '\n' || c = '&' then .sequence t (program fuel rest)
        else .sequence t (.fault l (unexpected (some (.sign c))))
      | .ok (t, (token, l) :: _) => .sequence t (.fault l (unexpected (some token)))

end Parse

/-- Reads a script. -/
def Tree.ofText (t : Text) : Tree :=
  match tokens t with
  | .ok ts => Parse.program (ts.length + 1) ts
  | .error line => .fault line "Syntax error: Unterminated quoted string".toList

end LineShell.Script
