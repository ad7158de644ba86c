import LineShell.Pattern.Cursor
import LineShell.Unicode.Category
import LineShell.Unicode.Property

/-!
# Reading patterns

Patterns are regular expressions in the usual notation: classes in brackets,
groups, alternatives, repetitions, escapes and modes.  Groups and brackets
that are open are kept on a stack of frames, so patterns may be nested to any
depth here; a limit is applied afterwards.
-/

namespace LineShell.Pattern

open Read

/-! ## Characters -/

/-- Characters that mean something unless they are escaped. -/
def isMeta (c : Char) : Bool := "\\.+*?()|[]\x7b\x7d^$#&-~".contains c

/-- Characters that may be escaped for no reason. -/
def isEscapable (c : Char) : Bool :=
  isMeta c || (c.toNat < 128 && !c.isAlphanum && c != '<' && c != '>')

def isHex (c : Char) : Bool :=
  c.isDigit || ('a' ≤ c && c ≤ 'f') || ('A' ≤ c && c ≤ 'F')

def hexDigit (c : Char) : Nat :=
  if c.isDigit then c.toNat - 48
  else if 'a' ≤ c then c.toNat - 87
  else c.toNat - 55

/-- The letters of all scripts. -/
def letters : Unicode.CharSet :=
  Unicode.CharSet.union ((Unicode.property? "alphabetic").getD []) Unicode.Latest.letters

/-- The digits and other numbers of all scripts. -/
def numbers : Unicode.CharSet :=
  Unicode.CharSet.union ((Unicode.category? "n").getD []) Unicode.Latest.numbers

/-- The characters of the name of a group. -/
def isGroupNameChar (c : Char) (first : Bool) : Bool :=
  c = '_' || letters.contains c.toNat ||
    (!first && (c = '.' || c = '[' || c = ']' || numbers.contains c.toNat))

/-! ## Numbers -/

/-- The largest number of repetitions that can be written. -/
def countLimit : Nat := 0xFFFFFFFF

/-- What is written where a number is expected. -/
inductive Count where
  | number (n : Nat)
  | missing (span : Span)
  | tooLarge (span : Span)

/-- Reads a number, with blanks around it. -/
def count : Read Count := do
  let _ ← takeWhile isBlank
  let start ← place
  let digits ← takeWhile Char.isDigit
  let span ← since start
  let _ ← takeWhile isBlank
  let n := digits.foldl (fun n c => n * 10 + (c.toNat - 48)) 0
  return if digits.isEmpty then .missing span
    else if n > countLimit then .tooLarge span
    else .number n

/-- The number, where there has to be one. -/
def Count.required : Count → Read Nat
  | .number n => return n
  | .missing span => refuse .repetitionCountDecimalEmpty span
  | .tooLarge span => refuse .decimalInvalid span

/-! ## Escapes -/

/-- The character of a number. -/
def scalar (n : Nat) (span : Span) : Read Char :=
  if h : n.isValidChar then return Char.ofNatAux n h
  else refuse .escapeHexInvalid span

/-- Reads hexadecimal digits between braces, last one first. -/
def braceDigits : Nat → List Char → Read (List Char)
  | 0, found => return found
  | fuel + 1, found => do
    if ← bumpBlanks then
      match ← peek? with
      | some '\x7d' => return found
      | some c =>
        if isHex c then braceDigits fuel (c :: found)
        else refuse .escapeHexInvalidDigit (← charSpan)
      | none => return found
    else return found

/-- Reads a fixed number of hexadecimal digits, last one first. -/
def fixedDigits : Nat → List Char → Read (List Char)
  | 0, found => return found
  | n + 1, found => do
    let more ← if found.isEmpty then pure true else bumpBlanks
    if !more then refuse .escapeUnexpectedEnd (← here)
    else
      match ← peek? with
      | some c =>
        if isHex c then fixedDigits n (c :: found)
        else refuse .escapeHexInvalidDigit (← charSpan)
      | none => refuse .escapeUnexpectedEnd (← here)

/-- The number that digits, last one first, write. -/
def hexValue (digits : List Char) : Nat :=
  digits.foldr (fun c n => n * 16 + hexDigit c) 0

/-- Reads a character by its number, after `\x`, `\u` or `\U`. -/
def hexEscape (start : Place) (width : Nat) : Read Tree := do
  if !(← bumpBlanks) then refuse .escapeUnexpectedEnd (← here)
  else if (← peek?) = some '\x7b' then
    let brace ← place
    let first := (← charSpan).stop
    let digits ← braceDigits (← get).rest.length []
    if ← atEnd then refuse .escapeUnexpectedEnd (← since brace)
    else
      let span ← since first
      let _ ← bumpBlanks
      if digits.isEmpty then refuse .escapeHexEmpty (← since brace)
      else
        let c ← scalar (hexValue digits) span
        return .literal (← since start) c false
  else
    let first ← place
    let digits ← fixedDigits width []
    let _ ← bumpBlanks
    let c ← scalar (hexValue digits) (← since first)
    return .literal (← since start) c (width = 2)

/-- Reads the name of a property up to the closing brace, last character
first. -/
def propertyName : Nat → List Char → Read (List Char)
  | 0, found => return found
  | fuel + 1, found => do
    if ← bumpBlanks then
      match ← peek? with
      | some '\x7d' => return found
      | some c => propertyName fuel (c :: found)
      | none => return found
    else return found

/-- Splits a text before and after the first occurrence of a mark. -/
def splitAt? (mark : List Char) : List Char → Option (List Char × List Char)
  | [] => none
  | c :: rest =>
    if mark.isPrefixOf (c :: rest) then some ([], (c :: rest).drop mark.length)
    else (splitAt? mark rest).map fun (a, b) => (c :: a, b)

/-- What a name between braces asks for. -/
def propertyQuery (name : List Char) : PropertyQuery :=
  match splitAt? ['!', '='] name with
  | some (a, b) => .valued true (String.ofList a) (String.ofList b)
  | none =>
    match splitAt? [':'] name with
    | some (a, b) => .valued false (String.ofList a) (String.ofList b)
    | none =>
      match splitAt? ['='] name with
      | some (a, b) => .valued false (String.ofList a) (String.ofList b)
      | none => .named (String.ofList name)

/-- Reads a class of characters after `\p` or `\P`. -/
def propertyEscape (start : Place) (negated : Bool) : Read Tree := do
  if !(← bumpBlanks) then refuse .escapeUnexpectedEnd (← here)
  else
    match ← peek? with
    | some '\x7b' =>
      let name ← propertyName (← get).rest.length []
      if ← atEnd then refuse .escapeUnexpectedEnd (← here)
      else
        let _ ← bump
        return .property (← since start) (propertyQuery name.reverse) negated
    | some '\\' => refuse .unicodeClassInvalid (← charSpan)
    | some c =>
      let _ ← bumpBlanks
      return .property (← since start) (.letter c) negated
    | none => refuse .escapeUnexpectedEnd (← here)

/-- The characters of the names of word boundaries. -/
def isBoundaryNameChar (c : Char) : Bool := c.isAlpha || c = '-'

/-- Reads the kind of a word boundary between braces.  If the braces hold
something else, nothing is read. -/
def boundaryKind? (start : Place) : Read (Option Look) := do
  let saved ← get
  if !(← bumpBlanks) then refuse .wordBoundaryUnexpectedEnd (← since start)
  else
    let first ← place
    let name ← takeWhile isBoundaryNameChar
    if name.isEmpty then
      set saved
      return none
    else if (← peek?) ≠ some '\x7d' then
      refuse .wordBoundaryUnclosed (← since saved.place)
    else
      let span ← since first
      let _ ← bump
      match String.ofList name with
      | "start" => return some .wordStart
      | "end" => return some .wordEnd
      | "start-half" => return some .wordStartHalf
      | "end-half" => return some .wordEndHalf
      | _ => refuse .wordBoundaryUnrecognized span

/-- Reads what a backslash begins. -/
def escape : Read Tree := do
  let start ← place
  if !(← bump) then refuse .escapeUnexpectedEnd (← since start)
  else
    let c := (← peek?).getD '\\'
    let span : Span := ⟨start, (← charSpan).stop⟩
    let literal (x : Char) : Read Tree := do
      let _ ← bump
      return .literal span x false
    let look (l : Look) : Read Tree := do
      let _ ← bump
      return .look span l
    let letter (k : LetterClass) (negated : Bool) : Read Tree := do
      let _ ← bump
      return .letter span k negated
    match c with
    | 'x' => hexEscape start 2
    | 'u' => hexEscape start 4
    | 'U' => hexEscape start 8
    | 'p' => propertyEscape start false
    | 'P' => propertyEscape start true
    | 'd' => letter .digit false
    | 'D' => letter .digit true
    | 's' => letter .space false
    | 'S' => letter .space true
    | 'w' => letter .word false
    | 'W' => letter .word true
    | 'a' => literal '\x07'
    | 'f' => literal '\x0c'
    | 't' => literal '\t'
    | 'n' => literal '\n'
    | 'r' => literal '\r'
    | 'v' => literal '\x0b'
    | 'A' => look .textStart
    | 'z' => look .textEnd
    | 'B' => look .notWord
    | '<' => look .wordStart
    | '>' => look .wordEnd
    | 'b' =>
      let _ ← bump
      if (← peek?) = some '\x7b' then
        match ← boundaryKind? start with
        | some kind => return .look (← since start) kind
        | none => return .look span .word
      else return .look span .word
    | _ =>
      if c.isDigit then refuse .backreference span
      else if isEscapable c then literal c
      else
        let _ ← bump
        refuse .escapeUnrecognized span

/-! ## Classes -/

/-- The items of a class that is being read, last one first. -/
structure Row where
  span : Span
  items : List Class

namespace Row

/-- Adds an item. -/
def push (r : Row) (c : Class) : Row :=
  { span := ⟨if r.items.isEmpty then c.span.start else r.span.start, c.span.stop⟩
    items := c :: r.items }

/-- The items as one class. -/
def toClass (r : Row) : Class :=
  match r.items with
  | [] => .empty r.span
  | [c] => c
  | cs => .union r.span cs.reverse

end Row

/-- An open bracket, or an operator that waits for its right side. -/
inductive ClassFrame where
  | bracket (outer : Row) (span : Span) (negated : Bool)
  | op (kind : ClassOp) (left : Class)

/-- Refuses a pattern whose innermost open bracket is never closed. -/
def unclosedClass {α : Type} : List ClassFrame → Read α
  | .bracket _ span _ :: _ => refuse .classUnclosed span
  | .op _ _ :: rest => unclosedClass rest
  | [] => do refuse .classUnclosed (← here)

/-- Reads the hyphens that begin a class; they stand for themselves. -/
def leadingHyphens (start : Place) : Nat → Row → Read Row
  | 0, row => return row
  | fuel + 1, row => do
    if (← peek?) = some '-' then
      let row := row.push (.literal (← charSpan) '-' false)
      if ← bumpBlanks then leadingHyphens start fuel row
      else refuse .classUnclosed (.at start)
    else return row

/-- Reads an opening bracket with what belongs to it: the sign that negates
the class, and hyphens or a closing bracket that stand for themselves. -/
def openBracket : Read (Row × Span × Bool) := do
  let start ← place
  let unclosed : Read (Row × Span × Bool) := do
    refuse .classUnclosed (← since start)
  if !(← bumpBlanks) then unclosed
  else
    let negated := (← peek?) = some '^'
    let goesOn ← if negated then bumpBlanks else pure true
    if !goesOn then unclosed
    else
      let row ← leadingHyphens start (← get).rest.length ⟨← here, []⟩
      if row.items.isEmpty && (← peek?) = some ']' then
        let row := row.push (.literal (← charSpan) ']' false)
        if !(← bumpBlanks) then unclosed
        else return (row, ← since start, negated)
      else return (row, ← since start, negated)

/-- The class with a name. -/
def namedClass? : String → Option NamedClass
  | "alnum" => some .alnum
  | "alpha" => some .alpha
  | "ascii" => some .ascii
  | "blank" => some .blank
  | "cntrl" => some .cntrl
  | "digit" => some .digit
  | "graph" => some .graph
  | "lower" => some .lower
  | "print" => some .print
  | "punct" => some .punct
  | "space" => some .space
  | "upper" => some .upper
  | "word" => some .word
  | "xdigit" => some .xdigit
  | _ => none

/-- Reads a class such as `[:alpha:]`.  If there is none, nothing is read. -/
def namedClass : Read (Option Class) := do
  let saved ← get
  let no : Read (Option Class) := do set saved; return none
  match saved.rest with
  | '[' :: ':' :: rest =>
    let negated := rest.head? = some '^'
    let text := if negated then rest.drop 1 else rest
    let name := text.takeWhile (· != ':')
    match text.dropWhile (· != ':') with
    | ':' :: ']' :: _ =>
      match namedClass? (String.ofList name) with
      | some kind =>
        let _ ← bumpIf (String.ofList
          (['[', ':'] ++ (if negated then ['^'] else []) ++ name ++ [':', ']']))
        return some (.named (← since saved.place) kind negated)
      | none => no
    | _ => no
  | _ => no

/-- Reads one item of a class, as it would stand outside. -/
def classItem : Read Tree := do
  match ← peek? with
  | some '\\' => escape
  | some c =>
    let span ← charSpan
    let _ ← bump
    return .literal span c false
  | none => refuse .classUnclosed (← here)

/-- An item that stands for itself. -/
def itemClass : Tree → Read Class
  | .literal s c byte => return .literal s c byte
  | .letter s k n => return .letter s k n
  | .property s q n => return .property s q n
  | t => refuse .classEscapeInvalid t.span

/-- An item that bounds a range. -/
def boundary : Tree → Read Bound
  | .literal span c byte => return ⟨span, c, byte⟩
  | t => refuse .classRangeLiteral t.span

/-- Reads an item or a range. -/
def classRange (frames : List ClassFrame) : Read Class := do
  let first ← classItem
  skipBlanks
  if ← atEnd then unclosedClass frames
  else
    let next ← peekNextBlanks?
    if (← peek?) ≠ some '-' || next = some ']' || next = some '-' then
      itemClass first
    else if !(← bumpBlanks) then unclosedClass frames
    else
      let second ← classItem
      let span : Span := ⟨first.span.start, second.span.stop⟩
      let lo ← boundary first
      let hi ← boundary second
      if lo.char ≤ hi.char then return .range span lo hi
      else refuse .classRangeInvalid span

/-- Ends the right side of a waiting operator. -/
def closeOp (right : Class) : List ClassFrame → Class × List ClassFrame
  | .op kind left :: rest =>
    (.combined ⟨left.span.start, right.span.stop⟩ kind left right, rest)
  | frames => (right, frames)

/-- The operator at the cursor. -/
def classOp? (c : Char) (next : Option Char) : Option ClassOp :=
  if next ≠ some c then none
  else if c = '&' then some .intersection
  else if c = '-' then some .difference
  else if c = '~' then some .symmetricDifference
  else none

/-- Reads a class to its end.  `fuel` is more than the number of characters
that are left. -/
def classLoop : Nat → Row → List ClassFrame → Read Tree
  | 0, _, frames => unclosedClass frames
  | fuel + 1, row, frames => do
    skipBlanks
    match ← peek? with
    | none => unclosedClass frames
    | some '[' =>
      let named ← if frames.isEmpty then pure none else namedClass
      match named with
      | some c => classLoop fuel (row.push c) frames
      | none =>
        let (inner, span, negated) ← openBracket
        classLoop fuel inner (.bracket row span negated :: frames)
    | some ']' =>
      let (c, frames) := closeOp row.toClass frames
      match frames with
      | .bracket outer span negated :: frames =>
        let _ ← bump
        let span : Span := ⟨span.start, ← place⟩
        if frames.isEmpty then return .bracketed span negated c
        else classLoop fuel (outer.push (.bracketed span negated c)) frames
      | frames => unclosedClass frames
    | some c =>
      match classOp? c (← peekNext?) with
      | some kind =>
        let _ ← bump
        let _ ← bump
        let (left, frames) := closeOp row.toClass frames
        classLoop fuel ⟨← here, []⟩ (.op kind left :: frames)
      | none => classLoop fuel (row.push (← classRange frames)) frames

/-- Reads a class in brackets. -/
def bracketClass : Read Tree := do
  classLoop ((← get).rest.length + 1) ⟨← here, []⟩ []

/-! ## Groups -/

/-- The mode of a letter. -/
def mode? : Char → Option Mode
  | 'i' => some .ignoreCase
  | 'm' => some .multiLine
  | 's' => some .dotAll
  | 'U' => some .swapGreed
  | 'u' => some .unicode
  | 'R' => some .crlf
  | 'x' => some .verbose
  | _ => none

/-- Reads modes up to a colon or a closing parenthesis.  `found` holds those
read so far with their places, and `negation` the place of the minus sign. -/
def modes : Nat → List (Mode × Bool × Span) → Option Span → Bool →
    Read (ModeChange × Bool)
  | 0, _, _, _ => do refuse .flagUnexpectedEnd (← here)
  | fuel + 1, found, negation, dangling => do
    let span ← charSpan
    match ← peek? with
    | none => refuse .flagUnexpectedEnd (← here)
    | some c =>
      if c = ':' || c = ')' then
        match negation with
        | some s =>
          if dangling then refuse .flagDanglingNegation s
          else return (found.reverse.map fun (m, b, _) => (m, b), true)
        | none =>
          return (found.reverse.map fun (m, b, _) => (m, b), !found.isEmpty)
      else
        let step (found : List (Mode × Bool × Span)) (negation : Option Span)
            (dangling : Bool) : Read (ModeChange × Bool) := do
          if ← bump then modes fuel found negation dangling
          else refuse .flagUnexpectedEnd (← here)
        if c = '-' then
          match negation with
          | some s => refuse (.flagRepeatedNegation s) span
          | none => step found (some span) true
        else
          match mode? c with
          | none => refuse .flagUnrecognized span
          | some m =>
            match found.find? fun (x, _) => x = m with
            | some (_, _, s) => refuse (.flagDuplicate s) span
            | none => step ((m, negation.isNone, span) :: found) negation false

/-- Reads the characters of the name of a group, last one first. -/
def groupNameChars : Nat → List Char → Read (List Char)
  | 0, found => return found
  | fuel + 1, found => do
    match ← peek? with
    | none => return found
    | some c =>
      if c = '>' then return found
      else if !isGroupNameChar c found.isEmpty then
        refuse .groupNameInvalid (← charSpan)
      else
        let _ ← bump
        groupNameChars fuel (c :: found)

/-- Reads the name of a group up to its closing angle. -/
def groupName : Read Unit := do
  if ← atEnd then refuse .groupNameUnexpectedEnd (← here)
  else
    let start ← place
    let name := String.ofList
      (← groupNameChars (← get).rest.length []).reverse
    let span ← since start
    if ← atEnd then refuse .groupNameUnexpectedEnd (← here)
    else
      let _ ← bump
      if name.isEmpty then refuse .groupNameEmpty (.at start)
      else
        match (← get).names.find? fun e => e.1 == name with
        | some (_, first) => refuse (.groupNameDuplicate first) span
        | none => modify fun c => { c with names := (name, span) :: c.names }

/-- What an opening parenthesis begins. -/
inductive Opening where
  /-- Modes for the rest of the group around. -/
  | modes (change : ModeChange)
  | group (capture : Bool) (change : ModeChange)

/-- Reads an opening parenthesis with what belongs to it. -/
def openGroup : Read Opening := do
  let openSpan ← charSpan
  let _ ← bump
  skipBlanks
  let looks ← ["?=", "?!", "?<=", "?<!"].anyM fun t => bumpIf t
  if looks then refuse .lookAround (← since openSpan.start)
  else
    let inner ← here
    let named ← ["?P<", "?<"].anyM fun t => bumpIf t
    if named then
      groupName
      return .group true []
    else if ← bumpIf "?" then
      if ← atEnd then refuse .groupUnclosed openSpan
      else
        let (change, some_) ← modes ((← get).rest.length + 1) [] none false
        let last ← peek?
        let _ ← bump
        if last = some ')' then
          if some_ then return .modes change
          else refuse .repetitionMissing inner
        else return .group false change
    else return .group true []

/-! ## Patterns -/

/-- Parts of a pattern one after the other, last one first. -/
structure Parts where
  start : Place
  trees : List Tree

/-- The parts as one pattern that ends at a place. -/
def Parts.toTree (p : Parts) (stop : Place) : Tree :=
  match p.trees with
  | [] => .empty ⟨p.start, stop⟩
  | [t] => t
  | ts => .concat ⟨p.start, stop⟩ ts.reverse

/-- A group that is open, or the alternatives before the current one. -/
inductive Frame where
  | group (outer : Parts) (openSpan : Span) (capture : Bool) (change : ModeChange)
    (verbose : Bool)
  | branches (start : Place) (trees : List Tree)

/-- The current alternative together with those before it. -/
def closeBranches (parts : Parts) (stop : Place) :
    List Frame → Tree × List Frame
  | .branches start trees :: rest =>
    (.alternation ⟨start, stop⟩ ((parts.toTree stop :: trees).reverse), rest)
  | frames => (parts.toTree stop, frames)

/-- Takes what a repetition repeats. -/
def repeated (parts : Parts) : Read (Tree × Parts) := do
  match parts.trees with
  | t :: rest =>
    if t.canRepeat then return (t, { parts with trees := rest })
    else refuse .repetitionMissing (← here)
  | [] => refuse .repetitionMissing (← here)

/-- Reads a question mark that makes a repetition prefer to match less often.
Says whether there is none. -/
def greedy : Read Bool := do
  if (← peek?) = some '?' then
    let _ ← bump
    return false
  else return true

/-- Reads a question mark, a star or a plus sign. -/
def simpleRepetition (parts : Parts) (least : Nat) (most : Option Nat) :
    Read Parts := do
  let (t, parts) ← repeated parts
  let _ ← bump
  let greedy ← greedy
  let span : Span := ⟨t.span.start, ← place⟩
  return { parts with trees := .repetition span least most greedy t :: parts.trees }

/-- Reads how often, between braces. -/
def countedRepetition (parts : Parts) : Read Parts := do
  let start ← place
  let (t, parts) ← repeated parts
  let unclosed {α : Type} : Read α := do
    refuse .repetitionCountUnclosed (← since start)
  if !(← bumpBlanks) then unclosed
  else
    let first ← count
    if ← atEnd then unclosed
    else
      let (least, most) ←
        if (← peek?) = some ',' then do
          if !(← bumpBlanks) then unclosed
          else if (← peek?) = some '\x7d' then do
            let n ← first.required
            pure (n, none)
          else do
            let n ← first.required
            let m ← (← count).required
            pure (n, some m)
        else do
          let n ← first.required
          pure (n, some n)
      if (← peek?) ≠ some '\x7d' then unclosed
      else
        let _ ← bumpBlanks
        let greedy ← greedy
        let span ← since start
        if most.any (· < least) then refuse .repetitionCountInvalid span
        else
          let whole : Span := ⟨t.span.start, span.stop⟩
          return { parts with
            trees := .repetition whole least most greedy t :: parts.trees }

/-- Reads a part that is neither a group nor a class nor a repetition. -/
def primitive : Read Tree := do
  match ← peek? with
  | some '\\' => escape
  | some c =>
    let span ← charSpan
    let _ ← bump
    match c with
    | '.' => return .dot span
    | '^' => return .look span .lineStart
    | '$' => return .look span .lineEnd
    | _ => return .literal span c false
  | none => return .empty (← here)

/-- Reads a pattern to its end.  `fuel` is more than the number of characters
that are left. -/
def loop : Nat → Parts → List Frame → Read Tree
  | 0, parts, _ => return parts.toTree (← place)
  | fuel + 1, parts, frames => do
    skipBlanks
    match ← peek? with
    | none =>
      let (t, frames) := closeBranches parts (← place) frames
      match frames with
      | .group _ openSpan _ _ _ :: _ => refuse .groupUnclosed openSpan
      | _ => return t
    | some '(' =>
      let openSpan ← charSpan
      let verbose := (← get).verbose
      match ← openGroup with
      | .modes change =>
        modify fun c => { c with
          verbose := (change.find? fun e => e.1 = .verbose).elim c.verbose Prod.snd }
        let t := Tree.modes ⟨openSpan.start, ← place⟩ change
        loop fuel { parts with trees := t :: parts.trees } frames
      | .group capture change =>
        modify fun c => { c with
          verbose := (change.find? fun e => e.1 = .verbose).elim c.verbose Prod.snd }
        loop fuel ⟨← place, []⟩ (.group parts openSpan capture change verbose :: frames)
    | some ')' =>
      let (t, frames) := closeBranches parts (← place) frames
      match frames with
      | .group outer openSpan capture change verbose :: frames =>
        modify fun c => { c with verbose }
        let _ ← bump
        let g := Tree.group ⟨openSpan.start, ← place⟩ capture change t
        loop fuel { outer with trees := g :: outer.trees } frames
      | _ => refuse .groupUnopened (← charSpan)
    | some '|' =>
      let stop ← place
      let t := parts.toTree stop
      let frames :=
        match frames with
        | .branches start trees :: rest => .branches start (t :: trees) :: rest
        | frames => .branches parts.start [t] :: frames
      let _ ← bump
      loop fuel ⟨← place, []⟩ frames
    | some '[' =>
      let c ← bracketClass
      loop fuel { parts with trees := c :: parts.trees } frames
    | some '?' => loop fuel (← simpleRepetition parts 0 (some 1)) frames
    | some '*' => loop fuel (← simpleRepetition parts 0 none) frames
    | some '+' => loop fuel (← simpleRepetition parts 1 none) frames
    | some '\x7b' => loop fuel (← countedRepetition parts) frames
    | some _ =>
      let t ← primitive
      loop fuel { parts with trees := t :: parts.trees } frames

/-- How deep patterns may be nested. -/
def nestLimit : Nat := 250

/-- Reads a pattern. -/
def Tree.parse (pattern : String) : Except Fault Tree :=
  let cs := pattern.toList
  match StateT.run (loop (cs.length + 1) ⟨.start, []⟩ []) ⟨cs, .start, false, []⟩ with
  | .error f => .error f
  | .ok (t, _) =>
    match t.tooDeep? nestLimit with
    | some span => .error ⟨.nestLimitExceeded nestLimit, span⟩
    | none => .ok t

end LineShell.Pattern
