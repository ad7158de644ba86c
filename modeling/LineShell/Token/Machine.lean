/-!
# Tokens, and a machine that builds them

The words of a line are tokens, which keep how each of their characters was written.  They
are built by a pushdown machine, and a grammar says how.
-/

namespace LineShell

/-!
## Glyphs and tokens

A glyph is a character together with the way it was written: bare, after a
backslash, or between quotes.  Two glyphs of one character are different
things to every later stage.  A bare bar divides commands and an escaped one
is text.

A token is a list of glyphs.  Besides the characters of a word it keeps a
boundary glyph wherever a quotation began or ended.  Boundaries are not text,
but they end the name of a variable.
-/

/-- What a glyph stands for, apart from being escaped or not. -/
inductive Role where
  /-- A character of the word. -/
  | text
  /-- A character of the word in which a dollar sign is just a dollar sign. -/
  | verbatim
  /-- The place where a quotation opens or closes. -/
  | boundary
  deriving DecidableEq, Repr

/-- A character with the way it was written. -/
structure Glyph where
  char : Char
  escaped : Bool
  role : Role
  deriving DecidableEq, Repr

namespace Glyph

/-- A character written as itself. -/
def plain (c : Char) : Glyph := ⟨c, false, .text⟩

/-- A character written after a backslash. -/
def escape (c : Char) : Glyph := ⟨c, true, .text⟩

/-- A character written between single quotes. -/
def quoted (c : Char) : Glyph := ⟨c, true, .verbatim⟩

/-- The mark left where a quotation opens or closes. -/
def boundary : Glyph := ⟨'\x00', false, .boundary⟩

def isBoundary (g : Glyph) : Bool := g.role == .boundary

/-- Whether a glyph is text with no protection at all. -/
def isBare (g : Glyph) : Bool := !g.escaped && g.role == .text

end Glyph

/-- A word, or the bar between two commands. -/
abbrev Token := List Glyph

namespace Token

/-- The token between two commands. -/
def bar : Token := [.plain '|']

/-- A bar divides commands only where it is bare and stands alone. -/
def isBar : Token → Bool
  | [g] => g.char == '|' && g.isBare
  | _ => false

/-- The characters of a token, boundaries left out. -/
def chars (t : Token) : List Char :=
  (t.filter fun g => !g.isBoundary).map Glyph.char

/-- The text of a token. -/
def render (t : Token) : String := String.ofList t.chars

/-- An unescaped bar written as text is the only token that divides. -/
theorem isBar_iff {t : Token} : t.isBar ↔ t = bar := by
  match t with
  | [] => simp [isBar, bar]
  | [⟨c, e, r⟩] =>
    simp only [isBar, Glyph.isBare, bar, Glyph.plain, Bool.and_eq_true, beq_iff_eq,
      Bool.not_eq_true', List.cons.injEq, Glyph.mk.injEq, and_true]
  | _ :: _ :: _ => simp [isBar, bar]

end Token

/-!
## A pushdown machine that builds tokens

The machine keeps a stack of states.  It gives each character to the state on
top, whose rule may push and pop states, open, extend and close a token, and
ask that the new top read the same character again.  A grammar says which
states there are and what each does; the machine knows nothing of shells.

Rules are programs over a fixed set of operations (`Control`), so a grammar
cannot reach into the machine.  Whatever it does, the zero state stays at the
bottom of the stack and finished tokens stay as they are.
-/

/-- The ways in which a rule can misuse the machine. -/
inductive Misuse where
  /-- A character was added, or a token closed, while none was open. -/
  | noOpenToken
  /-- A token was opened while another one was open. -/
  | openToken
  /-- The zero state was to be popped. -/
  | zeroState
  deriving DecidableEq, Repr

/-- The text in which a misuse is reported. -/
def Misuse.message : Misuse → String
  | .noOpenToken => "lexer: character pushed before a token was started"
  | .openToken => "lexer: token started while another one is open"
  | .zeroState => "lexer: attempt to pop the zero state"

/-- The machine between two operations. -/
structure Scan (σ : Type) where
  /-- The states, innermost first. -/
  stack : List σ
  /-- The glyphs of the open token, latest first. -/
  current : Option (List Glyph)
  /-- The finished tokens, latest first. -/
  finished : List Token

namespace Scan

variable {σ : Type}

/-- The machine before any input. -/
def start (zero : σ) : Scan σ := ⟨[zero], none, []⟩

/-- Whether a token is open. -/
def isOpen (m : Scan σ) : Bool := m.current.isSome

/-- Whether only the zero state is left. -/
def atZero (m : Scan σ) : Bool := m.stack.length == 1

/-- The tokens finished so far, oldest first. -/
def tokens (m : Scan σ) : List Token := m.finished.reverse

end Scan

/-- One operation on the machine. -/
inductive Action (σ : Type) where
  | push (s : σ)
  | pop
  | begin
  | append (g : Glyph)
  | finish

/-- The effect of an operation.  A refused one has no effect. -/
def Action.apply {σ : Type} : Action σ → Scan σ → Except Misuse (Scan σ)
  | .push s, m => .ok { m with stack := s :: m.stack }
  | .pop, m =>
    match m.stack with
    | _ :: s :: below => .ok { m with stack := s :: below }
    | _ => .error .zeroState
  | .begin, m =>
    match m.current with
    | none => .ok { m with current := some [] }
    | some _ => .error .openToken
  | .append g, m =>
    match m.current with
    | some t => .ok { m with current := some (g :: t) }
    | none => .error .noOpenToken
  | .finish, m =>
    match m.current with
    | some t =>
      .ok { m with current := none, finished := t.reverse :: m.finished }
    | none => .error .noOpenToken

/-- A program over the operations, with a result of type `α`.  It may ask
whether a token is open, and it may go on after a refused operation. -/
inductive Control (σ α : Type) where
  | done (a : α)
  | refuse (e : Misuse)
  | perform (a : Action σ) (next : Except Misuse Unit → Control σ α)
  | askOpen (next : Bool → Control σ α)
  /-- Has the top of the stack read the current character again. -/
  | again (next : Control σ α)

namespace Control

variable {σ α β : Type}

def bind : Control σ α → (α → Control σ β) → Control σ β
  | .done a, k => k a
  | .refuse e, _ => .refuse e
  | .perform a next, k => .perform a fun r => (next r).bind k
  | .askOpen next, k => .askOpen fun b => (next b).bind k
  | .again next, k => .again (next.bind k)

instance : Monad (Control σ) where
  pure := .done
  bind := Control.bind

/-- An operation that ends the rule where it is refused. -/
def act (a : Action σ) : Control σ Unit :=
  .perform a fun
    | .ok () => .done ()
    | .error e => .refuse e

def push (s : σ) : Control σ Unit := act (.push s)
def pop : Control σ Unit := act .pop
def beginToken : Control σ Unit := act .begin
def append (g : Glyph) : Control σ Unit := act (.append g)
def finishToken : Control σ Unit := act .finish
def isOpen : Control σ Bool := .askOpen .done
def reread : Control σ Unit := .again (.done ())

/-- Runs a program.  The flag says whether the character is to be read again;
effects made before a refusal remain. -/
def run : Control σ α → Bool → Scan σ → Except Misuse (α × Bool) × Scan σ
  | .done a, reread, m => (.ok (a, reread), m)
  | .refuse e, _, m => (.error e, m)
  | .perform a next, reread, m =>
    match a.apply m with
    | .ok m' => (next (.ok ())).run reread m'
    | .error e => (next (.error e)).run reread m
  | .askOpen next, reread, m => (next m.isOpen).run reread m
  | .again next, _, m => next.run true m

end Control

/-- The states of a machine and their rules. -/
structure Grammar (σ : Type) where
  /-- The state at the bottom of the stack. -/
  zero : σ
  /-- What the state on top does with a character. -/
  rule : σ → Char → Control σ Unit

namespace Grammar

variable {σ : Type}

/-- The state on top of the stack. -/
def top (g : Grammar σ) (m : Scan σ) : σ := m.stack.headD g.zero

/-- Feeds one character.  `limit` bounds the number of states that read it;
there is no answer if more than that ask for it. -/
def feedChar (g : Grammar σ) (c : Char) :
    Nat → Scan σ → Option (Except Misuse Unit × Scan σ)
  | 0, _ => none
  | limit + 1, m =>
    match (g.rule (g.top m) c).run false m with
    | (.error e, m') => some (.error e, m')
    | (.ok ((), true), m') => g.feedChar c limit m'
    | (.ok ((), false), m') => some (.ok (), m')

/-- Feeds characters from left to right, up to the first misuse. -/
def feed (g : Grammar σ) (limit : Nat) :
    List Char → Scan σ → Option (Except Misuse Unit × Scan σ)
  | [], m => some (.ok (), m)
  | c :: rest, m =>
    match g.feedChar c limit m with
    | none => none
    | some (.error e, m') => some (.error e, m')
    | some (.ok (), m') => g.feed limit rest m'

end Grammar

/-!
## Grammars given by a table

A table names its states and lists rules.  For a character, the first rule
of the state on top that admits the character, and that agrees with whether a
token is open, gives its orders to the machine.  Where no rule applies nothing
happens.  The first state of the table is the zero state.
-/

namespace Table

/-- What a rule may tell the machine to do. -/
inductive Order where
  | push (state : String) (reread : Bool)
  | pop (reread : Bool)
  | begin
  | finish
  /-- Adds the current character, written in the given way. -/
  | keep (escaped : Bool) (role : Role)
  | boundary
  deriving DecidableEq, Repr

/-- A row of a table. -/
structure Row where
  state : String
  /-- The characters the row is for; `none` admits every character. -/
  on : Option (List Char)
  /-- Whether a token must be open, if that matters. -/
  whenOpen : Option Bool
  orders : List Order

/-- The control program of one order. -/
def Order.control (c : Char) : Order → Control String Unit
  | .push s false => Control.push s
  | .push s true => do Control.push s; Control.reread
  | .pop false => Control.pop
  | .pop true => do Control.pop; Control.reread
  | .begin => Control.beginToken
  | .finish => Control.finishToken
  | .keep escaped role => Control.append ⟨c, escaped, role⟩
  | .boundary => Control.append .boundary

/-- Orders are carried out from left to right, up to the first refusal. -/
def control (c : Char) : List Order → Control String Unit
  | [] => pure ()
  | o :: rest => do o.control c; control c rest

/-- Whether a row applies. -/
def Row.applies (row : Row) (state : String) (c : Char) (isOpen : Bool) :
    Bool :=
  row.state == state && row.on.all (·.contains c) &&
    row.whenOpen.all (· == isOpen)

/-- The grammar that a table describes. -/
def grammar (zero : String) (rows : List Row) : Grammar String where
  zero := zero
  rule state c := do
    let isOpen ← Control.isOpen
    match rows.find? (·.applies state c isOpen) with
    | some row => control c row.orders
    | none => pure ()

end Table

end LineShell
