/-!
# Characters, numerals, bytes and lines

What everything else takes from text as such: which characters are blank, how
numbers are read, how text is written in bytes, and how bytes are divided into
lines.
-/

namespace LineShell

/-!
## Blank characters

The characters that separate words, that make a line count as empty, and that
divide words when words are counted: all and only those with the Unicode
property `White_Space`.
-/

/-- Whether a character has the Unicode property `White_Space`. -/
def isBlank (c : Char) : Bool :=
  let n := c.toNat
  (0x09 ≤ n && n ≤ 0x0D) || n == 0x20 || n == 0x85 || n == 0xA0 ||
  n == 0x1680 || (0x2000 ≤ n && n ≤ 0x200A) || n == 0x2028 || n == 0x2029 ||
  n == 0x202F || n == 0x205F || n == 0x3000

/-- Every character that the core library calls white space is blank. -/
theorem isBlank_of_isWhitespace {c : Char} (h : c.isWhitespace) :
    isBlank c := by
  simp only [Char.isWhitespace, Bool.or_eq_true, decide_eq_true_eq] at h
  rcases h with ((rfl | rfl) | rfl) | rfl <;> rfl

/-!
## Decimal numerals within bounds

A numeral is a row of ASCII digits, at least one, after an optional sign.  It
is read from left to right, and the first digit that leads out of bounds ends
the reading, whatever follows.  No blanks are allowed.
-/

/-- Why a text is not a numeral in bounds. -/
inductive NumeralFault where
  | empty
  | invalidDigit
  | tooLarge
  | tooSmall
  deriving DecidableEq, Repr

/-- The report of a fault. -/
def NumeralFault.message : NumeralFault → String
  | .empty => "cannot parse integer from empty string"
  | .invalidDigit => "invalid digit found in string"
  | .tooLarge => "number too large to fit in target type"
  | .tooSmall => "number too small to fit in target type"

namespace Numeral

/-- Reads digits after the value `n`, up to `limit`. -/
def digits (limit : Nat) (overflow : NumeralFault) (n : Nat) :
    List Char → Except NumeralFault Nat
  | [] => .ok n
  | c :: rest =>
    if c.isDigit then
      let m := n * 10 + (c.toNat - 48)
      if m > limit then .error overflow else digits limit overflow m rest
    else .error .invalidDigit

/-- Reads a numeral without a minus sign, up to `limit`. -/
def natural (limit : Nat) (s : String) : Except NumeralFault Nat :=
  match s.toList with
  | [] => .error .empty
  | ['+'] => .error .invalidDigit
  | '+' :: rest => digits limit .tooLarge 0 rest
  | cs => digits limit .tooLarge 0 cs

/-- Reads a numeral from `-limit - 1` to `limit`. -/
def integer (limit : Nat) (s : String) : Except NumeralFault Int :=
  match s.toList with
  | ['-'] => .error .invalidDigit
  | '-' :: rest =>
    match digits (limit + 1) .tooSmall 0 rest with
    | .ok n => .ok (-(n : Int))
    | .error e => .error e
  | _ =>
    match natural limit s with
    | .ok n => .ok n
    | .error e => .error e

/-- The largest count: 64 bits without a sign. -/
def countLimit : Nat := 0xFFFFFFFFFFFFFFFF

/-- The largest status: 32 bits with a sign. -/
def statusLimit : Nat := 0x7FFFFFFF

end Numeral

/-!
## Bytes and text

Text is written as UTF-8.  Bytes are read character by character; where they
are not UTF-8, the longest piece that could have begun a character counts as
one mistake, and reading goes on right behind it.  What is done about mistakes
differs: a reader of text refuses them, and a counter of words puts a
replacement character in the place of each.
-/

/-- A string of bytes. -/
abbrev Bytes := List UInt8

namespace Utf8

/-- Writes characters as bytes. -/
def encode (cs : List Char) : Bytes := cs.flatMap String.utf8EncodeChar

/-- Whether a byte continues a character. -/
def continues (b : UInt8) : Bool := 0x80 ≤ b && b ≤ 0xBF

/-- The six bits that a continuing byte holds. -/
def bits (b : UInt8) : Nat := b.toNat % 64

/-- The bytes that may follow the first byte of a longer character.  Short
forms written long, surrogates and numbers beyond the last code point are
excluded here. -/
def followers (first : UInt8) : UInt8 × UInt8 :=
  if first = 0xE0 then (0xA0, 0xBF)
  else if first = 0xED then (0x80, 0x9F)
  else if first = 0xF0 then (0x90, 0xBF)
  else if first = 0xF4 then (0x80, 0x8F)
  else (0x80, 0xBF)

/-- Whether a byte may follow the first byte. -/
def follows (first b : UInt8) : Bool :=
  (followers first).1 ≤ b && b ≤ (followers first).2

/-- Reads the character that begins with a byte, or `none` for a mistake, and
what comes after it. -/
def next (b : UInt8) (rest : Bytes) : Option Char × Bytes :=
  if b < 0x80 then (some (Char.ofNat b.toNat), rest)
  else if 0xC2 ≤ b && b ≤ 0xDF then
    match rest with
    | b₁ :: r₁ =>
      if continues b₁ then
        (some (Char.ofNat (b.toNat % 32 * 64 + bits b₁)), r₁)
      else (none, rest)
    | [] => (none, [])
  else if 0xE0 ≤ b && b ≤ 0xEF then
    match rest with
    | b₁ :: r₁ =>
      if follows b b₁ then
        match r₁ with
        | b₂ :: r₂ =>
          if continues b₂ then
            (some (Char.ofNat ((b.toNat % 16 * 64 + bits b₁) * 64 + bits b₂)), r₂)
          else (none, r₁)
        | [] => (none, [])
      else (none, rest)
    | [] => (none, [])
  else if 0xF0 ≤ b && b ≤ 0xF4 then
    match rest with
    | b₁ :: r₁ =>
      if follows b b₁ then
        match r₁ with
        | b₂ :: r₂ =>
          if continues b₂ then
            match r₂ with
            | b₃ :: r₃ =>
              if continues b₃ then
                (some (Char.ofNat
                  (((b.toNat % 8 * 64 + bits b₁) * 64 + bits b₂) * 64 + bits b₃)), r₃)
              else (none, r₂)
            | [] => (none, [])
          else (none, r₁)
        | [] => (none, [])
      else (none, rest)
    | [] => (none, [])
  else (none, rest)

/-- What comes after a character is a part of what came after its first byte. -/
theorem length_next_le (b : UInt8) (rest : Bytes) :
    (next b rest).2.length ≤ rest.length := by
  unfold next
  repeat' split
  all_goals simp_all
  all_goals omega

/-- Reads bytes to the end and adds what it finds to `found`. -/
def scanFrom (found : Array (Option Char)) : Bytes → Array (Option Char)
  | [] => found
  | b :: rest => scanFrom (found.push (next b rest).1) (next b rest).2
  termination_by bs => bs.length
  decreasing_by simp only [List.length_cons]; have := length_next_le b rest; omega

/-- The characters in some bytes, with `none` for each mistake. -/
def scan (bs : Bytes) : List (Option Char) := (scanFrom #[] bs).toList

/-- The text that some bytes are, if they are text. -/
def decode? (bs : Bytes) : Option (List Char) :=
  let found := scan bs
  if found.all Option.isSome then some (found.filterMap id) else none

/-- The text in some bytes, with a replacement character for each mistake. -/
def decodeLossy (bs : Bytes) : List Char :=
  (scan bs).map fun c => c.getD (Char.ofNat 0xFFFD)

end Utf8

/-- The bytes of a text. -/
def bytesOf (s : String) : Bytes := Utf8.encode s.toList

/-!
## Lines

Bytes are divided into lines after each line break.  The last line may lack
its break, and where the bytes end with a break no empty line follows.
-/

namespace Lines

/-- Divides bytes after each line break.  `line` is what has been read of the
current line, and `found` the lines before it. -/
def splitFrom (line : Array UInt8) (found : Array Bytes) : Bytes → Array Bytes
  | [] => if line.isEmpty then found else found.push line.toList
  | b :: rest =>
    if b = 10 then splitFrom #[] (found.push (line.push b).toList) rest
    else splitFrom (line.push b) found rest

/-- The lines in some bytes, each with its line break. -/
def split (bs : Bytes) : List Bytes := (splitFrom #[] #[] bs).toList

/-- The first line in some bytes, with its line break, and what comes after
it. -/
def first (bs : Bytes) : Bytes × Bytes :=
  match bs.dropWhile (· ≠ 10) with
  | [] => (bs, [])
  | b :: rest => (bs.takeWhile (· ≠ 10) ++ [b], rest)

theorem first_append (bs : Bytes) : (first bs).1 ++ (first bs).2 = bs := by
  have h := List.takeWhile_append_dropWhile (p := (· ≠ 10)) (l := bs)
  unfold first
  split
  · simp
  · next e => rw [e] at h; simpa using h

/-- Whether a line is complete. -/
def hasBreak (line : Bytes) : Bool := line.getLast? == some 10

/-- The characters of a line without its line break. -/
def text? (line : Bytes) : Option (List Char) :=
  Utf8.decode? (if hasBreak line then line.dropLast else line)

end Lines

end LineShell
