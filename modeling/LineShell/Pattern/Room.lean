import LineShell.Pattern.Expr
import LineShell.Text.Basic
import Std.Data.HashMap

/-!
# How much room a pattern takes

A pattern is refused if the states by which it is searched for take too much
room.  The states read bytes, so sets of characters become sequences of bytes
first.
-/

namespace LineShell

/-!
## Characters as sequences of bytes

A range of characters becomes a list of sequences of byte ranges: a character
is in the range if its bytes are, one by one, in the ranges of a sequence.
A range is cut wherever its characters change their number of bytes, and
wherever a byte other than the last would not run through all its values.
-/

namespace Pattern

/-- A range of bytes, both ends included. -/
abbrev ByteRange := Nat × Nat

/-- The bytes of a character, by its number. -/
def bytesOfNumber (n : Nat) : List Nat :=
  if n < 0x80 then [n]
  else if n < 0x800 then [0xC0 + n / 64, 0x80 + n % 64]
  else if n < 0x10000 then [0xE0 + n / 4096, 0x80 + n / 64 % 64, 0x80 + n % 64]
  else
    [0xF0 + n / 262144, 0x80 + n / 4096 % 64, 0x80 + n / 64 % 64, 0x80 + n % 64]

/-- Where a range is cut because of the bits of its last `size` numbers: behind
the first stretch if that is not whole, else before the last. -/
def cutAt? (lo hi size : Nat) : Option Nat :=
  if lo / size = hi / size then none
  else if lo % size ≠ 0 then some (lo / size * size + size - 1)
  else if hi % size ≠ size - 1 then some (hi / size * size - 1)
  else none

/-- The last number before a range is cut in two. -/
def cut? (lo hi : Nat) : Option Nat :=
  match [0x7F, 0x7FF, 0xFFFF].find? fun m => lo ≤ m && m < hi with
  | some m => some m
  | none =>
    if hi ≤ 0x7F then none
    else [64, 4096, 262144].findSome? (cutAt? lo hi)

/-- The sequences of a range of characters. -/
def sequences (lo hi : Nat) : List (List ByteRange) :=
  match cut? lo hi with
  | none => [(bytesOfNumber lo).zip (bytesOfNumber hi)]
  | some m =>
    if _h : lo ≤ m ∧ m < hi then sequences lo m ++ sequences (m + 1) hi
    else [(bytesOfNumber lo).zip (bytesOfNumber hi)]
  termination_by hi - lo

end Pattern

/-!
## Room for states

A pattern is searched for by states, and these take room.  A pattern is refused
if its states, for reading forwards or for reading backwards, take more than a
limit.  Only the room is computed here: every state takes the same, and some
take more for each state they lead to.

Sets of longer characters are read byte by byte, and states that read the same
bytes and then go on in the same way are shared where that is noticed: a state
is looked for in a table of fixed size, in which a newer state can take the
place of an older one.
-/

namespace Pattern.Room

open Unicode

/-- The room that a pattern may take, in bytes. -/
def limit : Nat := 10 * 1024 * 1024

/-- What has been laid out: how many states there are, and what they take
beyond the room that every state takes. -/
structure Layout where
  states : Nat
  extra : Nat

/-- Laying out states, as long as there is room. -/
abbrev Lay (α : Type) := StateT Layout Option α

/-- The room that every state takes. -/
def stateSize : Nat := 32

/-- The room of a choice of where to go on. -/
def forkSize : Nat := 4

/-- The room of a range of bytes after which to go on. -/
def rangeSize : Nat := 8

/-- Takes room for some states together and returns the number of the first. -/
def addMany (count extra : Nat) : Lay Nat := fun s =>
  let s' : Layout := ⟨s.states + count, s.extra + extra⟩
  if s'.states * stateSize + s'.extra > limit then none else some (s.states, s')

/-- Takes room for a state and returns its number. -/
def add (extra : Nat) : Lay Nat := addMany 1 extra

/-- A stretch of states with one way in and one way out.  `open_` says that its
last state chooses where to go on, so that going on takes room. -/
structure Piece where
  start : Nat
  open_ : Bool

/-- Goes on after a piece. -/
def follow (p : Piece) : Lay Unit :=
  if p.open_ then do let _ ← addMany 0 forkSize else return ()

/-- A state with nothing to choose. -/
def single : Lay Piece := return ⟨← add 0, false⟩

/-- Goes on after a piece with others, each laid out in turn.  `first` is where
they all begin. -/
def chain (first : Nat) : List (Lay Piece) → Piece → Lay Piece
  | [], last => return ⟨first, last.open_⟩
  | next :: rest, last => do
    let p ← next
    follow last
    chain first rest p

/-- Pieces one after the other. -/
def inOrder : List (Lay Piece) → Lay Piece
  | [] => single
  | next :: rest => do
    let p ← next
    chain p.start rest p

/-- Goes on after a piece with copies of another. -/
def chainCopies (lay : Lay Piece) (first : Nat) : Nat → Piece → Lay Piece
  | 0, last => return ⟨first, last.open_⟩
  | n + 1, last => do
    let p ← lay
    follow last
    chainCopies lay first n p

/-- Copies of a piece. -/
def copies (lay : Lay Piece) : Nat → Lay Piece
  | 0 => single
  | n + 1 => do
    let p ← lay
    chainCopies lay p.start n p

/-! ### Texts -/

/-- Texts that are gone through together, divided where one of them ends. -/
def segments : List Bytes → List (List Bytes)
  | [] => [[]]
  | [] :: rest => [] :: segments rest
  | w :: rest =>
    match segments rest with
    | s :: more => (w :: s) :: more
    | [] => [[w]]

/-- The first bytes of texts, each once. -/
def heads (ws : List Bytes) : List UInt8 := (ws.filterMap List.head?).eraseDups

/-- What follows a first byte. -/
def after (b : UInt8) (ws : List Bytes) : List Bytes :=
  ws.filterMap fun w =>
    match w with
    | c :: rest => if c = b then some rest else none
    | [] => none

/-- The states and the extra room for a choice among texts, in which texts with
a common start share states.  `fuel` is the length of the longest text. -/
def treeRoom : Nat → List Bytes → Nat × Nat
  | 0, _ => (0, 0)
  | fuel + 1, ws =>
    let ended := ws.takeWhile List.isEmpty
    let ws := ended.take 1 ++ ws.dropWhile List.isEmpty
    if ws.all List.isEmpty then (0, 0)
    else
      let parts := (segments ws).map fun s => (heads s).map fun b => after b s
      let full := parts.filter fun p => !p.isEmpty
      let ranges := full.map fun p => if p.length = 1 then 0 else p.length * rangeSize
      let below := full.flatten.map (treeRoom fuel)
      (full.length + 1 + (below.map Prod.fst).sum,
        ranges.sum + (full.length + (parts.length - 1)) * forkSize +
          (below.map Prod.snd).sum)

/-- A choice among texts. -/
def texts (ws : List Bytes) : Lay Piece := do
  let longest := (ws.map List.length).foldl max 0
  let (states, extra) := treeRoom (longest + 1) ws
  return ⟨← addMany (states + 1) extra, false⟩

/-! ### Sets -/

/-- Mixes a number into a hash. -/
def mix (h : UInt64) (n : Nat) : UInt64 := (h ^^^ n.toUInt64) * 1099511628211

/-- The hash of no numbers. -/
def seed : UInt64 := 14695981039346656037

/-- States found again by what they do, each in one place of a table. -/
abbrev Shared (κ : Type) := Std.HashMap Nat (κ × Nat)

/-- The places of the table for states that are read forwards. -/
def forwardPlaces : Nat := 10000

/-- The places of the table for states that are read backwards. -/
def backwardPlaces : Nat := 1000

/-- A range of bytes and the state that it leads to. -/
structure Step where
  range : ByteRange
  target : Nat
  deriving DecidableEq

/-- A state of which the last range does not lead anywhere yet.  `steps` holds
the others, last one first. -/
structure Draft where
  steps : List Step
  last : Option ByteRange

/-- The steps of a state whose last range leads to a state. -/
def Draft.close (d : Draft) (target : Nat) : List Step :=
  match d.last with
  | some r => ⟨r, target⟩ :: d.steps
  | none => d.steps

/-- The place of a state in the table. -/
def place (steps : List Step) : Nat :=
  let h := steps.foldr (fun s h => mix (mix (mix h s.range.1) s.range.2) s.target) seed
  h.toNat % forwardPlaces

/-- Lays out a state unless there is one that does the same. -/
def share (shared : Shared (List Step)) (steps : List Step) :
    Lay (Nat × Shared (List Step)) := do
  let i := place steps
  let found :=
    match shared[i]? with
    | some (key, id) => if key = steps then some id else none
    | none => none
  match found with
  | some id => return (id, shared)
  | none =>
    let id ← add (steps.length * rangeSize)
    return (id, shared.insert i (steps, id))

/-- Lays out the states of a path, the last one first.  Returns where the path
begins. -/
def closePath (target : Nat) (shared : Shared (List Step)) :
    List Draft → Lay (Nat × Shared (List Step))
  | [] => return (target, shared)
  | d :: rest => do
    let (next, shared) ← closePath target shared rest
    share shared (d.close next)

/-- Adds a sequence of byte ranges to a path.  What the sequence begins with in
common with the one before it is kept, and the rest is laid out. -/
def extend (target : Nat) (shared : Shared (List Step)) :
    List Draft → List ByteRange → Lay (List Draft × Shared (List Step))
  | d :: path, r :: rest => do
    if d.last = some r then
      let (path, shared) ← extend target shared path rest
      return (d :: path, shared)
    else
      let (next, shared) ← closePath target shared path
      return (⟨d.close next, some r⟩ :: rest.map fun r => ⟨[], some r⟩, shared)
  | path, _ => return (path, shared)

/-- Adds sequences to a path and lays out what is left of it. -/
def extendAll (target : Nat) (path : List Draft) (shared : Shared (List Step)) :
    List (List ByteRange) → Lay Nat
  | [] => do
    let (start, _) ← closePath target shared path
    return start
  | s :: rest => do
    let (path, shared) ← extend target shared path s
    extendAll target path shared rest

/-- A set of characters of any length, read forwards. -/
def setForwards (ss : List (List ByteRange)) : Lay Piece := do
  let target ← add 0
  return ⟨← extendAll target [⟨[], none⟩] ∅ ss, false⟩

/-- A range of bytes and the state that comes after it. -/
structure Link where
  target : Nat
  range : ByteRange
  deriving DecidableEq

/-- The place of a range in the table. -/
def Link.place (k : Link) : Nat :=
  (mix (mix (mix seed k.target) k.range.1) k.range.2).toNat % backwardPlaces

/-- Lays out the states of a sequence, so that its first bytes come last. -/
def linkAll (shared : Shared Link) (target : Nat) :
    List ByteRange → Lay (Shared Link)
  | [] => return shared
  | r :: rest => do
    let k : Link := ⟨target, r⟩
    let found :=
      match shared[k.place]? with
      | some (key, id) => if key = k then some id else none
      | none => none
    match found with
    | some id => linkAll shared id rest
    | none =>
      let id ← add 0
      linkAll (shared.insert k.place (k, id)) id rest

/-- Lays out sequences; each is a choice of its own. -/
def linkSequences (target : Nat) (shared : Shared Link) :
    List (List ByteRange) → Lay Unit
  | [] => return ()
  | s :: rest => do
    let shared ← linkAll shared target s
    let _ ← addMany 0 forkSize
    linkSequences target shared rest

/-- A set of characters of any length, read backwards. -/
def setBackwards (ss : List (List ByteRange)) : Lay Piece := do
  let start ← add 0
  let target ← add 0
  linkSequences target ∅ ss
  return ⟨start, false⟩

/-- A set of characters of one byte. -/
def asciiSet (s : CharSet) : Lay Piece := do
  let _ ← add 0
  return ⟨← add (s.length * rangeSize), false⟩

/-- A set of characters. -/
def set (backwards : Bool) (s : CharSet) : Lay Piece :=
  if List.all s fun r => r.2 < 0x80 then asciiSet s
  else
    let ss := s.flatMap fun r => sequences r.1 r.2
    if backwards then setBackwards ss else setForwards ss

/-! ### Repetitions and choices -/

/-- Something that may come any number of times.  `filled` says that it always
has a character. -/
def star (filled : Bool) (lay : Lay Piece) : Lay Piece :=
  if filled then do
    let start ← add forkSize
    follow (← lay)
    return ⟨start, true⟩
  else do
    let p ← lay
    let _ ← add (2 * forkSize)
    follow p
    let start ← add (2 * forkSize)
    let _ ← add 0
    return ⟨start, false⟩

/-- Something that comes once or more. -/
def plus (lay : Lay Piece) : Lay Piece := do
  let p ← lay
  let _ ← add forkSize
  follow p
  return ⟨p.start, true⟩

/-- Something that may be left out. -/
def option (lay : Lay Piece) : Lay Piece := do
  let start ← add (2 * forkSize)
  let p ← lay
  let _ ← add 0
  follow p
  return ⟨start, false⟩

/-- Copies that may be left out, each with all that follow it. -/
def optionalCopies (lay : Lay Piece) : Nat → Piece → Lay Unit
  | 0, last => follow last
  | n + 1, last => do
    let _ ← add (2 * forkSize)
    let p ← lay
    follow last
    optionalCopies lay n p

/-- Something that comes a number of times. -/
def repetition (filled : Bool) (lay : Lay Piece) : Nat → Option Nat → Lay Piece
  | 0, some 1 => option lay
  | 0, none => star filled lay
  | 1, none => plus lay
  | least, none => inOrder [copies lay (least - 1), plus lay]
  | least, some most => do
    let p ← copies lay least
    if least = most then return p
    else
      let _ ← add 0
      optionalCopies lay (most - least) p
      return ⟨p.start, false⟩

/-- Goes on with the branches of a choice after the second one. -/
def moreBranches : List (Lay Piece) → Lay Unit
  | [] => return ()
  | b :: rest => do
    let p ← b
    let _ ← addMany 0 forkSize
    follow p
    moreBranches rest

/-- A choice. -/
def choice : List (Lay Piece) → Lay Piece
  | [] => single
  | [b] => b
  | a :: b :: rest => do
    let p ← a
    let q ← b
    let start ← add (2 * forkSize)
    let _ ← add 0
    follow p
    follow q
    moreBranches rest
    return ⟨start, false⟩

/-- The texts of branches that are texts. -/
def branchTexts? (es : List Expr) : Option (List Bytes) :=
  es.mapM fun e =>
    match e with
    | .text cs => some (Utf8.encode cs)
    | _ => none

mutual

/-- Lays out an expression.  Reading backwards takes no note of captures. -/
def expr (backwards : Bool) : Expr → Lay Piece
  | .nothing => single
  | .text cs => copies single (Expr.textLength cs)
  | .set _ s => set backwards s
  | .look _ => single
  | .repetition least most _ e =>
    repetition ((e.minLength).any (· > 0)) (expr backwards e) least most
  | .capture e =>
    if backwards then expr backwards e
    else do
      let start ← add 0
      follow (← expr backwards e)
      let _ ← add 0
      return ⟨start, false⟩
  | .concat es => inOrder (if backwards then (exprs backwards es).reverse else exprs backwards es)
  | .choice es =>
    match branchTexts? es with
    | some ws =>
      texts (if backwards then ws.map List.reverse else ws)
    | none => choice (exprs backwards es)

def exprs (backwards : Bool) : List Expr → List (Lay Piece)
  | [] => []
  | e :: es => expr backwards e :: exprs backwards es

end

/-- Lays out a whole pattern: what is passed over before a match, the match,
and its end. -/
def pattern (backwards : Bool) (e : Expr) : Lay Unit := do
  if if backwards then e.endsText else e.startsText then
    let _ ← add 0
  else
    let _ ← star true (asciiSet [(0, 0xFF)])
    let _ ← addMany 0 forkSize
  follow (← expr backwards (.capture e))
  let _ ← add 0

/-- How many texts may be chosen from without states: so many are looked for by
other means. -/
def manyTexts : Nat := 3000

/-- Whether an expression is a choice among many texts. -/
def isManyTexts : Expr → Bool
  | .choice es => es.length ≥ manyTexts && (branchTexts? es).isSome
  | _ => false

/-- Whether a pattern has room. -/
def fits (e : Expr) : Bool :=
  isManyTexts e ||
    ((pattern false e ⟨0, 0⟩).isSome && (pattern true e ⟨0, 0⟩).isSome)

end Pattern.Room

end LineShell
