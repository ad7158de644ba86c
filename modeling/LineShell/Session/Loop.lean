import LineShell.Pipeline
import LineShell.Pipeline.Run
import LineShell.Session.Supply
import LineShell.Text.Basic
import LineShell.Token.Words

/-!
# Sessions

A session runs lines, one at a time or as many as its input holds.
-/

namespace LineShell

/-!
## One line

A session runs lines.  The references of a whole line are expanded before any
of its commands runs, so no command sees what an earlier one on the same line
has assigned.  A session remembers the status of the last line that came to
one.
-/

/-- A shell between two lines. -/
structure Session where
  world : World
  lastStatus : Status

namespace Session

/-- The pipeline of a complete line. -/
def pipeline (s : Session) (line : String) : Except Failure Pipeline :=
  match Words.read line with
  | .error m => .error (.reader m)
  | .ok (.waiting, _) => .error .incomplete
  | .ok (.done, tokens) =>
    .ok (.ofTokens (tokens.map (Token.expand s.world.vars)))

/-- Runs a line. -/
def runLine (host : Host) (line : String) (input : Input) (out : Sink)
    (s : Session) : Except Failure Status × Session × Sink :=
  match s.pipeline line with
  | .error e => (.error e, s, out)
  | .ok p =>
    match p.run host ⟨s.world, input, out⟩ with
    | (.ok status, left) => (.ok status, ⟨left.world, status⟩, left.output)
    | (.error e, left) => (.error e, { s with world := left.world }, left.output)

theorem unread_runLine_suffix (host : Host) (line : String) (input : Input)
    (out : Sink) (s : Session) :
    (s.runLine host line input out).2.1.world.unread <:+ s.world.unread := by
  unfold runLine
  split
  · exact List.suffix_refl _
  · next p _ =>
    have := p.unread_run_suffix host ⟨s.world, input, out⟩
    split <;> next h => rwa [h] at this

end Session

/-!
## Sessions over many lines

Lines are gathered until they make a complete text, which is then run as one.
Text that is blank is passed over.  A failure is reported and counts as status
one; only leaving the shell, or a fault of the input or of the output, ends the
session before its lines do.  Lines at the end that never make a complete text are
dropped.

What a command reads of the input that has not been fetched is gone when the
next line is looked for.
-/

namespace Session

/-- What is shown before a line is read, on a terminal where lines cannot be edited. -/
structure Prompts where
  /-- Before the first line of a text. -/
  command : String
  /-- Before a line that goes on with a text. -/
  continuation : String
  deriving DecidableEq, Repr

namespace Prompts

/-- What is shown when so much of a text has been gathered. -/
def before (p : Prompts) (text : String) : String :=
  if text.isEmpty then p.command else p.continuation

/-- Asks for a line.  Without prompts nothing is written. -/
def ask (prompts : Option Prompts) (text : String) (out : Sink) : Except Fault Unit × Sink :=
  match prompts with
  | none => (.ok (), out)
  | some p =>
    match out.write (bytesOf (p.before text)) with
    | (.ok (), out) => (out.flush, out)
    | (.error f, out) => (.error f, out)

end Prompts

/-- What comes next on some lines. -/
inductive Next where
  /-- A complete text, and what is left after it. -/
  | command (text : String) (rest : Supply)
  | unfinished
  /-- A line cannot be asked for, or cannot be read. -/
  | fault (f : Fault)
  | misuse (m : Misuse)

/-- Gathers lines until they are complete, and asks for each.  `reader` and
`text` hold what has been gathered. -/
def gatherAsking (prompts : Option Prompts) (reader : Words.Reader) (text : String)
    (supply : Supply) (out : Sink) : Next × Sink :=
  match Prompts.ask prompts text out with
  | (.error f, out) => (.fault f, out)
  | (.ok (), out) =>
    match h : supply.next? with
    | none => (.unfinished, out)
    | some (bs, supply') =>
      have := Supply.size_next_lt h
      match Typed.line? bs with
      | none => (.fault .notUtf8, out)
      | some line =>
        match reader.feed (line ++ "\n").toList with
        | (.error m, _) => (.misuse m, out)
        | (.ok (), reader) =>
          let text := text ++ line ++ "\n"
          match reader.status with
          | .done => (.command text supply', out)
          | .waiting => gatherAsking prompts reader text supply' out
  termination_by supply.size

theorem size_gatherAsking_lt {prompts : Option Prompts} {reader : Words.Reader}
    {text text' : String} {supply rest : Supply} {out : Sink}
    (h : (gatherAsking prompts reader text supply out).1 = .command text' rest) :
    rest.size < supply.size := by
  fun_induction gatherAsking prompts reader text supply out with
  | case1 | case2 | case3 | case4 => cases h
  | case5 reader text supply out _ _ bs supply' hNext hLess line _ reader' _ text'' _ =>
    injection h with _ h
    rw [← h]
    exact hLess
  | case6 reader text supply out _ _ bs supply' hNext hLess line _ reader' _ text'' _ ih =>
    exact Nat.lt_trans (ih h) hLess

/-- What is gathered of lines that are not asked for. -/
def gather (reader : Words.Reader) (text : String) (supply : Supply) : Next :=
  (gatherAsking none reader text supply .memory).1

/-- Makes sure that what has been written has arrived.  If it has not, the shell
is to be left. -/
def settle (s : Session) (out : Sink) : Option Status × Session × Sink :=
  match out.flush with
  | .ok () => (none, s, out)
  | .error f =>
    (some 1, { s with world := s.world.complain ("Error: " ++ f.message ++ "\n") }, out)

/-- Runs a text that is complete.  The answer is a status if the shell is to
be left. -/
def runGroup (host : Host) (text : String) (s : Session) (out : Sink) :
    Option Status × Session × Sink :=
  if text.toList.all isBlank then (none, s, out)
  else
    match s.runLine host text .inherited out with
    | (.ok _, s, out) => s.settle out
    | (.error (.exit code), s, out) => (some code, s, out)
    | (.error e, s, out) =>
      settle ⟨s.world.complain (e.message ++ "\n"), 1⟩ out

theorem unread_settle (s : Session) (out : Sink) :
    (s.settle out).2.1.world.unread = s.world.unread := by
  unfold settle
  cases out.flush <;> rfl

theorem unread_runGroup_suffix (host : Host) (text : String) (s : Session) (out : Sink) :
    (s.runGroup host text out).2.1.world.unread <:+ s.world.unread := by
  unfold runGroup
  split
  · exact List.suffix_refl _
  · have := s.unread_runLine_suffix host text .inherited out
    split
    · next h =>
      rw [h] at this
      rwa [unread_settle]
    · next h =>
      rw [h] at this
      exact this
    · next h =>
      rw [h] at this
      rw [unread_settle]
      exact this

/-- The report with which a session ends that cannot go on reading. -/
def report (f : Fault) : String :=
  "Error: " ++ f.message ++ "\n\nCaused by:\n    " ++ f.message ++ "\n"

/-- The session when so much of its input has not been fetched. -/
def withUnread (s : Session) (unread : Bytes) : Session :=
  { s with world := { s.world with unread } }

/-- Runs lines to their end, or to the first that leaves the shell, and asks for
each.  `ahead` is what has been fetched of them. -/
def loopAsking (host : Host) (prompts : Option Prompts) (ahead : Bytes) (s : Session)
    (out : Sink) : Status × Session × Sink :=
  match h : gatherAsking prompts .start "" ⟨ahead, s.world.unread⟩ out with
  | (.unfinished, out) => (s.lastStatus, s, out)
  | (.fault f, out) => (1, { s with world := s.world.complain (report f) }, out)
  | (.misuse m, out) =>
    (1, { s with world := s.world.complain ("Error: " ++ m.message ++ "\n") }, out)
  | (.command text rest, out) =>
    have hLess := size_gatherAsking_lt (congrArg Prod.fst h)
    match hRun : (s.withUnread rest.unread).runGroup host text out with
    | (some code, s, out) => (code, s, out)
    | (none, s', out') =>
      have hLeft : s'.world.unread.length ≤ rest.unread.length := by
        have := unread_runGroup_suffix host text (s.withUnread rest.unread) out
        rw [hRun] at this
        exact this.length_le
      loopAsking host prompts rest.ahead s' out'
  termination_by ahead.length + s.world.unread.length
  decreasing_by
    simp only [Supply.size] at hLess
    omega

/-- Runs lines that are not asked for. -/
def loop (host : Host) (ahead : Bytes) (s : Session) (out : Sink) : Status × Session × Sink :=
  s.loopAsking host none ahead out

end Session

end LineShell
