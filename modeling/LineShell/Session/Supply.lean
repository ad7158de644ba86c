import LineShell.Stream.Basic
import LineShell.Text.Basic
import LineShell.Text.Cluster

/-!
# Fetching lines

A session reads its own input line by line, but fetches it in blocks.  What
it has fetched belongs to it; what it has not, any child may read first.  So
it keeps the two apart, and fetches no more than the line at hand needs.
-/

namespace LineShell

/-- What a session can read. -/
structure Supply where
  /-- What it has fetched and not yet read. -/
  ahead : Bytes
  /-- What nobody has fetched. -/
  unread : Bytes

namespace Supply

/-- How many bytes there are. -/
def size (s : Supply) : Nat := s.ahead.length + s.unread.length

/-- The next line, with its line break, and what is left after it.  Only the
last line can lack its break. -/
def next? (s : Supply) : Option (Bytes × Supply) :=
  let (line, ahead) := Lines.first s.ahead
  if Lines.hasBreak line then some (line, { s with ahead })
  else
    let more := (Lines.first s.unread).1
    let n := fetched more.length
    if line.isEmpty && more.isEmpty then none
    else some (line ++ more, ⟨(s.unread.take n).drop more.length, s.unread.drop n⟩)

theorem size_next_lt {s s' : Supply} {line : Bytes} (h : s.next? = some (line, s')) :
    s'.size < s.size := by
  have hAhead := congrArg List.length (Lines.first_append s.ahead)
  have hUnread := congrArg List.length (Lines.first_append s.unread)
  simp only [List.length_append] at hAhead hUnread
  simp only [next?] at h
  split at h
  · next hBreak =>
    have : (Lines.first s.ahead).1 ≠ [] := by
      intro e
      simp [e, Lines.hasBreak] at hBreak
    have := List.length_pos_iff.2 this
    simp only [Option.some.injEq, Prod.mk.injEq] at h
    simp only [size, ← h.2]
    omega
  · split at h
    · cases h
    · next hEmpty =>
      have hFetched := le_fetched (Lines.first s.unread).1.length
      have : 0 < (Lines.first s.ahead).1.length + (Lines.first s.unread).1.length := by
        simp only [Bool.and_eq_true, List.isEmpty_iff, not_and] at hEmpty
        by_cases e : (Lines.first s.ahead).1 = []
        · have := List.length_pos_iff.2 (hEmpty e)
          omega
        · have := List.length_pos_iff.2 e
          omega
      simp only [Option.some.injEq, Prod.mk.injEq] at h
      simp only [size, ← h.2, List.length_drop, List.length_take]
      omega

end Supply

/-!
## Lines as they are typed

A line comes without its line break, of whichever kind.  A backspace in it
takes back the cluster before it, so what is left is what whoever typed the
line has seen.  The size of a cluster is kept in one byte, so of a cluster of
256 bytes or more only the remainder is taken back.  Bytes that are not text
are no line.
-/

namespace Typed

def backspace : List Char := ['\x08']

/-- A line that is being typed. -/
structure Draft where
  /-- Its characters, last one first. -/
  text : List Char
  /-- The sizes of its clusters in bytes, last one first. -/
  sizes : List Nat

namespace Draft

/-- The empty line. -/
def empty : Draft := ⟨[], []⟩

/-- Drops the first characters of a list, as many as take up some bytes. -/
def dropBytes : Nat → List Char → List Char
  | _, [] => []
  | 0, cs => cs
  | n + 1, c :: rest => dropBytes (n + 1 - c.utf8Size) rest

/-- The line after one more cluster. -/
def type (d : Draft) (cluster : List Char) : Draft :=
  if cluster = backspace then
    match d.sizes with
    | [] => d
    | n :: sizes => ⟨dropBytes n d.text, sizes⟩
  else
    ⟨cluster.reverse ++ d.text, (String.ofList cluster).utf8ByteSize % 256 :: d.sizes⟩

end Draft

/-- What is left of a text after its backspaces. -/
def applyBackspaces (cs : List Char) : List Char :=
  if cs.contains '\x08' then ((Cluster.split cs).foldl Draft.type .empty).text.reverse
  else cs

/-- The text of a line. -/
def line? (bs : Bytes) : Option String :=
  match Lines.text? bs with
  | none => none
  | some cs =>
    let cs := if Lines.hasBreak bs && cs.getLast? = some '\r' then cs.dropLast else cs
    some (String.ofList (applyBackspaces cs))

end Typed

end LineShell
