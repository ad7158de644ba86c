import LineShell.CommandLine
import LineShell.Proofs.Session.Asking
import LineShell.Proofs.Text.Basic
import LineShell.Proofs.Token.Spelling

/-!
# One line, as an argument or as the whole input

A line in which nothing is taken back, and that only its break ends (`Plain`),
is found again in the bytes of an input that holds nothing else
(`next?_line`, `line?_line`).  So both ways in gather the same text, and as
there is no input behind it, each runs it once (`loopAsking_line`).

Main statement: `run_single_line`.  A complete line gives the same result both
ways, apart from prompts where lines are asked for and from one event where there
is a log.  A line that ends inside a quotation or right after a backslash
(`complete_iff_unquoted`) does not: as an argument it is refused, and as an
input it is dropped without a word.
-/

namespace LineShell

/-! ## The line in its bytes -/

theorem bytesOf_newline : bytesOf "\n" = [10] := by decide

namespace Lines

/-- What has no break in it is passed over on the way to the first. -/
theorem dropWhile_unbroken {bs : Bytes} (h : 10 ∉ bs) (more : Bytes) :
    (bs ++ more).dropWhile (· ≠ 10) = more.dropWhile (· ≠ 10) :=
  List.dropWhile_append_of_pos fun _ hb => decide_eq_true (ne_of_mem_of_not_mem hb h)

theorem takeWhile_unbroken {bs : Bytes} (h : 10 ∉ bs) (more : Bytes) :
    (bs ++ more).takeWhile (· ≠ 10) = bs ++ more.takeWhile (· ≠ 10) :=
  List.takeWhile_append_of_pos fun _ hb => decide_eq_true (ne_of_mem_of_not_mem hb h)

theorem first_unbroken {bs : Bytes} (h : 10 ∉ bs) : first bs = (bs, []) := by
  have hdrop := dropWhile_unbroken h []
  rw [List.append_nil, List.dropWhile_nil] at hdrop
  rw [first, hdrop]

/-- The first of some lines, if they have breaks. -/
theorem first_line {bs : Bytes} (h : 10 ∉ bs) (rest : Bytes) :
    first (bs ++ 10 :: rest) = (bs ++ [10], rest) := by
  have hdrop : (bs ++ 10 :: rest).dropWhile (· ≠ 10) = 10 :: rest := dropWhile_unbroken h _
  have htake : (bs ++ 10 :: rest).takeWhile (· ≠ 10) = bs :=
    (takeWhile_unbroken h _).trans (List.append_nil bs)
  unfold first
  rw [hdrop, htake]

theorem text?_line (s : String) : text? (bytesOf (s ++ "\n")) = some s.toList := by
  have hbreak : hasBreak (bytesOf s ++ [10]) = true := by simp [hasBreak]
  rw [bytesOf_append, bytesOf_newline, text?, if_pos hbreak, List.dropLast_concat]
  exact Utf8.decode?_encode s.toList

end Lines

/-- Whether a line is read as it stands: nothing takes back a part of it, and nothing
but its break ends it. -/
structure Plain (line : String) : Prop where
  newline : '\n' ∉ line.toList
  backspace : '\x08' ∉ line.toList
  carriage : line.toList.getLast? ≠ some '\r'

namespace Plain

variable {line : String}

theorem not_mem_newline (h : Plain line) : 10 ∉ bytesOf line :=
  fun hmem => h.newline (Utf8.mem_of_mem_encode (by decide) hmem)

theorem next?_line (h : Plain line) :
    Supply.next? ⟨[], bytesOf (line ++ "\n")⟩ = some (bytesOf (line ++ "\n"), ⟨[], []⟩) := by
  have hbytes : bytesOf (line ++ "\n") = bytesOf line ++ [10] := by
    rw [bytesOf_append, bytesOf_newline]
  have hfirst := Lines.first_line h.not_mem_newline []
  have hfetched := le_fetched (bytesOf line ++ [10]).length
  have htake := List.take_of_length_le hfetched
  have hdrop := List.drop_of_length_le hfetched
  have hne : (bytesOf line ++ [10]).isEmpty = false := by simp
  simp only [Supply.next?, hbytes, hfirst, htake, hdrop, hne, List.drop_length]
  rfl

theorem line?_line (h : Plain line) : Typed.line? (bytesOf (line ++ "\n")) = some line := by
  have hkeep : Typed.applyBackspaces line.toList = line.toList := by
    rw [Typed.applyBackspaces, if_neg (by simpa using h.backspace)]
  have hreturn := h.carriage
  simp [Typed.line?, Lines.text?_line, hreturn, hkeep]

end Plain

/-! ## Complete lines -/

/-- Whether a line is complete by itself, with its break. -/
def Complete (line : String) : Prop :=
  ∃ tokens, Words.read (line ++ "\n") = .ok (.done, tokens)

theorem complete_iff {line : String} :
    Complete line ↔
      (Words.Progress.start.readAll (line ++ "\n").toList).reader.status = .done := by
  rw [Complete, Words.read_eq]
  constructor
  · rintro ⟨tokens, h⟩
    injection h with h
    exact congrArg Prod.fst h
  · intro h
    rw [h]
    exact ⟨_, rfl⟩

instance (line : String) : Decidable (Complete line) :=
  decidable_of_iff _ complete_iff.symm

/-- What keeps a line from being complete is a quotation or a backslash. -/
theorem complete_iff_unquoted {line : String} :
    Complete line ↔ (Words.Progress.start.readAll line.toList).Unquoted := by
  have hread : Words.Progress.start.readAll (line ++ "\n").toList =
      (Words.Progress.start.readAll line.toList).read '\n' := by
    rw [String.toList_append, Words.Progress.readAll_append]
    rfl
  rw [complete_iff, hread, Words.Progress.status_reader]
  generalize Words.Progress.start.readAll line.toList = p
  constructor
  · intro h w hw
    obtain ⟨word, finished⟩ := p
    obtain rfl : word = some w := hw
    obtain ⟨mode, glyphs⟩ := w
    cases mode with
    | word => rfl
    | single | double | escape | doubleEscape => cases h
  · intro h
    rw [Words.Progress.read_blank h (by decide)]
    rfl

theorem waiting_of_not_complete {line : String} (h : ¬ Complete line) :
    (Words.Progress.start.readAll (line ++ "\n").toList).reader.status = .waiting := by
  rw [complete_iff] at h
  generalize Words.Reader.status _ = status at h
  cases status with
  | done => exact absurd rfl h
  | waiting => rfl

/-! ## Gathering it -/

namespace Session

variable {prompts : Option Prompts} {reader : Words.Reader} {text line : String}
  {out out' out'' : Sink}

theorem next?_nothing : Supply.next? ⟨[], []⟩ = none := by decide

theorem gatherAsking_complete (hplain : Plain line) (h : Complete line)
    (hask : Prompts.ask prompts "" out = (.ok (), out')) :
    gatherAsking prompts .start "" ⟨[], bytesOf (line ++ "\n")⟩ out =
      (.command (line ++ "\n") ⟨[], []⟩, out') := by
  rw [gatherAsking_line hask hplain.next?_line hplain.line?_line (Words.Reader.feed_start _),
    complete_iff.1 h, String.empty_append]

/-- The gathering goes on behind a line that is not complete, and finds nothing. -/
theorem gatherAsking_incomplete (hplain : Plain line) (h : ¬ Complete line)
    (hask : Prompts.ask prompts "" out = (.ok (), out'))
    (hagain : Prompts.ask prompts (line ++ "\n") out' = (.ok (), out'')) :
    gatherAsking prompts .start "" ⟨[], bytesOf (line ++ "\n")⟩ out = (.unfinished, out'') := by
  rw [gatherAsking_line hask hplain.next?_line hplain.line?_line (Words.Reader.feed_start _),
    waiting_of_not_complete h, String.empty_append]
  exact gatherAsking_ended hagain next?_nothing

/-! ## Running it -/

section

variable (host : Host) {s : Session}

/-- Without input a session is over, but it has asked once more. -/
theorem loopAsking_spent (h : s.world.unread = [])
    (hask : Prompts.ask prompts "" out = (.ok (), out')) :
    s.loopAsking host prompts [] out = (s.lastStatus, s, out') := by
  apply loopAsking_unfinished
  rw [h]
  exact gatherAsking_ended hask next?_nothing

/-- A plain line that is all the input is run once. -/
theorem loopAsking_line (hplain : Plain line) (hcomplete : Complete line)
    (hunread : s.world.unread = bytesOf (line ++ "\n"))
    (hask : Prompts.ask prompts "" out = (.ok (), out')) :
    s.loopAsking host prompts [] out =
      match (s.withUnread []).runGroup host (line ++ "\n") out' with
      | (some code, s, out) => (code, s, out)
      | (none, s, out) => s.loopAsking host prompts [] out := by
  have hgather := gatherAsking_complete hplain hcomplete hask
  rw [← hunread] at hgather
  exact loopAsking_command host hgather

end

theorem runLine_blank (host : Host) {line : String} (hne : line ≠ "")
    (h : line.toList.all isBlank) (input : Input) (out : Sink) (s : Session) :
    s.runLine host line input out = (.ok 0, ⟨s.world, 0⟩, out) := by
  have hgap := Words.Progress.readAll_gap (Words.Progress.unquoted_none [])
    (by simpa using hne) (List.all_eq_true.1 h)
  have hpipeline : s.pipeline line = .ok [] := by
    rw [pipeline, Words.read_eq, Words.Progress.start, hgap]
    rfl
  rw [runLine, hpipeline]
  rfl

/-- Whether a line leaves the shell. -/
def leaves (host : Host) (line : String) (s : Session) : Bool :=
  match (s.runLine host line .inherited .memory).1 with
  | .error (.exit _) => true
  | _ => false

/-- A text that leaves the shell ends the session, and no other does. -/
theorem runGroup_leaves (host : Host) {text : String} (hne : text ≠ "") (s : Session) :
    (s.runGroup host text .memory).1.isSome = s.leaves host text := by
  unfold runGroup leaves
  by_cases hblank : text.toList.all isBlank
  · rw [if_pos hblank, runLine_blank host hne hblank]
    rfl
  · have hboundless : Sink.memory.Boundless := ⟨rfl, rfl⟩
    have hflush := (boundless_runLine (s := s) host text hboundless).flush
    rw [if_neg hblank]
    rcases hrun : s.runLine host text .inherited .memory with ⟨result, s', out⟩
    rw [hrun] at hflush
    cases result with
    | ok status => simp only [settle_eq hflush, Option.isSome_none]
    | error e =>
      cases e with
      | exit code => rfl
      | _ => simp only [settle_eq hflush, Option.isSome_none]

end Session

/-! ## Both ways in -/

/-- The value of the first variable is read as it has been written. -/
theorem Process.value?_cons (shell : String) (args : List String) (name value : String)
    (entries : List Bytes) :
    value? ⟨shell, args, bytesOf (name ++ "=" ++ value) :: entries⟩ name = some value := by
  have hentry : bytesOf (name ++ "=" ++ value) = bytesOf (name ++ "=") ++ bytesOf value :=
    bytesOf_append _ _
  have hstart : (bytesOf (name ++ "=")).isPrefixOf (bytesOf (name ++ "=" ++ value)) = true := by
    rw [hentry]
    exact List.isPrefixOf_iff_prefix.2 (List.prefix_append _ _)
  have hdecode : Utf8.decode? (bytesOf value) = some value.toList := Utf8.decode?_encode _
  unfold value?
  dsimp only
  rw [List.find?_cons_of_pos hstart]
  simp only [hentry, List.drop_left, hdecode, Option.map_some, String.ofList_toList]

open Options in
/-- What follows the letter is taken as it is, even if it looks like an option. -/
theorem Settings.parse_command (line : String) :
    parse ["-c", line] = .ok (some { standard with command := some line }) := by
  have hhyphen : "-c".startsWith "-" = true := String.startsWith_string_iff.2 (by decide)
  have hflag : form.flags.find? (·.matches "-c") = form.flags.getLast? := rfl
  have hread : form.read ["-c", line] Reading.start =
      .ok { Reading.start with values := [("command", line)] } := by
    rw [Form.read, hhyphen, hflag]
    rfl
  rw [parse, Form.parse, hread]
  rfl

namespace CommandLine

open Session

section

variable (host : Host) (level : Log.Level) {line : String} {s : Session}

theorem runOne_eq_runGroup (line : String) (h : s.lastStatus = 0) :
    runOne host level line s =
      match s.runGroup host (line ++ "\n") .memory with
      | (some code, s, out) => finish (Log.Event.ofLine.filter level.shows) code s out
      | (none, s, out) => finish (Log.Event.ofLine.filter level.shows) s.lastStatus s out := by
  unfold runOne runGroup
  by_cases hblank : (line ++ "\n").toList.all isBlank
  · rw [if_pos hblank, runLine_blank host (by simp) hblank]
    simp only [h, finish]
  · have hboundless : Sink.memory.Boundless := ⟨rfl, rfl⟩
    have hflush := (boundless_runLine (s := s) host (line ++ "\n") hboundless).flush
    rw [if_neg hblank]
    rcases hrun : s.runLine host (line ++ "\n") .inherited .memory with ⟨result, s', out⟩
    rw [hrun] at hflush
    cases result with
    | ok status =>
      have hstatus : s'.lastStatus = status := lastStatus_runLine hrun
      simp only [hstatus, settle_eq hflush]
    | error e =>
      cases e <;> simp only [settle_eq hflush] <;> rfl

theorem runOne_log (line : String) (s : Session) :
    (runOne host level line s).log = Log.Event.ofLine.filter level.shows := by
  unfold runOne
  split <;> rfl

theorem runOne_incomplete (h : ¬ Complete line) :
    runOne host level line s =
      ⟨1, [], s.world.errors.bytes ++ bytesOf "unexpected end of input\n",
        Log.Event.ofLine.filter level.shows⟩ := by
  have hpipeline : s.pipeline (line ++ "\n") = .error .incomplete := by
    rw [pipeline, Words.read_eq, waiting_of_not_complete h]
  have hrun : s.runLine host (line ++ "\n") .inherited .memory =
      (.error .incomplete, s, .memory) := by
    rw [runLine, hpipeline]
  rw [runOne, hrun]
  simp only [finish, World.complain, Record.bytes_add]
  rfl

variable (prompts : Option Prompts)

theorem runLines_incomplete (hplain : Plain line) (h : ¬ Complete line)
    (hunread : s.world.unread = bytesOf (line ++ "\n")) (hstatus : s.lastStatus = 0) :
    runLines host level prompts s =
      ⟨0, Prompts.shown prompts "" ++ Prompts.shown prompts (line ++ "\n"),
        s.world.errors.bytes, Log.Event.ofSession.filter level.shows⟩ := by
  have hmemory : Sink.memory.Boundless := ⟨rfl, rfl⟩
  obtain ⟨asked, hask, hasked, hfirst⟩ := Prompts.ask_boundless prompts "" hmemory
  obtain ⟨again, hagain, -, hsecond⟩ := Prompts.ask_boundless prompts (line ++ "\n") hasked
  have hgather := gatherAsking_incomplete hplain h hask hagain
  rw [← hunread] at hgather
  rw [runLines, loopAsking_unfinished host hgather, hstatus]
  simp only [finish, hsecond, hfirst]
  rfl

/-- A complete line is run alike, whether it is given or found as all the input.  Where
lines are asked for, it is asked for, and so is the next line unless this one leaves the
shell. -/
theorem runLines_complete (hplain : Plain line) (h : Complete line)
    (hunread : s.world.unread = bytesOf (line ++ "\n")) (hstatus : s.lastStatus = 0) :
    runLines host level prompts s =
      { runOne host level line (s.withUnread []) with
        output := Prompts.shown prompts "" ++ (runOne host level line (s.withUnread [])).output ++
          if (s.withUnread []).leaves host (line ++ "\n") then [] else Prompts.shown prompts ""
        log := Log.Event.ofSession.filter level.shows } := by
  have hmemory : Sink.memory.Boundless := ⟨rfl, rfl⟩
  obtain ⟨asked, hask, hasked, hfirst⟩ := Prompts.ask_boundless prompts "" hmemory
  obtain ⟨code, t, p, t', p', more, hrun, hrun', hsame, hp, hp', hwritten, hwritten'⟩ :=
    runGroup_same (Same.refl (s.withUnread [])) hasked hmemory host (line ++ "\n")
  have hne : line ++ "\n" ≠ "" := by simp
  have hleaves := runGroup_leaves host hne (s.withUnread [])
  have hleft := unread_runGroup_suffix host (line ++ "\n") (s.withUnread []) asked
  rw [hrun'] at hleaves
  rw [hrun] at hleft
  have hlast : (s.withUnread []).lastStatus = 0 := hstatus
  rw [runLines, loopAsking_line host hplain h hunread hask, hrun,
    runOne_eq_runGroup host level line hlast, hrun', ← hleaves]
  cases code with
  | some code => simp [finish, hsame.errors, hwritten, hwritten', hfirst]
  | none =>
    obtain ⟨again, hagain, -, hsecond⟩ := Prompts.ask_boundless prompts "" hp
    simp [loopAsking_spent host (List.suffix_nil.1 hleft) hagain, finish, hsame.errors,
      hsame.lastStatus, hsecond, hwritten, hwritten', hfirst]

end

/-! ### Whole runs -/

section

variable (host : Host) (filters : Log.Filters) (name : String) (entries : List Bytes)
  (world : World)

theorem run_nothing :
    let p : Process := ⟨name, [], entries⟩
    let start := Log.start filters p Settings.standard
    run host filters p world =
      runLines host start.1 (p.prompts Settings.standard) ⟨world.complain start.2, 0⟩ := rfl

theorem run_command (line : String) :
    let start := Log.start filters ⟨name, [], entries⟩ Settings.standard
    run host filters ⟨name, ["-c", line], entries⟩ world =
      runOne host start.1 line ⟨world.complain start.2, 0⟩ := by
  intro start
  rw [run, Settings.parse_command]
  rfl

/-- **One line as an argument and the same line as the whole input.**  If it is complete,
status and outputs are the same, whatever the variables, the files and the programs are,
as long as lines are not asked for and nothing is logged.  Otherwise there are also the
prompts, and an event of the session in the log.  If the line is not complete, the
argument is refused with a report, but the input passes for one without any command. -/
theorem run_single_line (line : String) (h : Plain line) :
    let p : Process := ⟨name, [], entries⟩
    let start := Log.start filters p Settings.standard
    let shown := Prompts.shown (p.prompts Settings.standard)
    let once := run host filters { p with args := ["-c", line] } { world with unread := [] }
    let looped := run host filters p { world with unread := bytesOf (line ++ "\n") }
    (Complete line →
      (p.asks = false → start.1.rank < Log.Level.debug.rank → looped = once) ∧
      looped = { once with
        output := shown "" ++ once.output ++
          if Session.leaves host (line ++ "\n")
              ⟨{ world.complain start.2 with unread := [] }, 0⟩ then []
          else shown ""
        log := Log.Event.ofSession.filter start.1.shows }) ∧
    (¬ Complete line →
      once = ⟨1, [], (world.complain start.2).errors.bytes ++ bytesOf "unexpected end of input\n",
        Log.Event.ofLine.filter start.1.shows⟩ ∧
      looped = ⟨0, shown "" ++ shown (line ++ "\n"), (world.complain start.2).errors.bytes,
        Log.Event.ofSession.filter start.1.shows⟩) := by
  intro p start shown once looped
  have honce : once = runOne host start.1 line
      ⟨{ world.complain start.2 with unread := [] }, 0⟩ := run_command ..
  -- What holds in every environment comes first; the quiet ones are a case of it.
  have hcomplete (hcomplete : Complete line) : looped = { once with
      output := shown "" ++ once.output ++
        if Session.leaves host (line ++ "\n")
            ⟨{ world.complain start.2 with unread := [] }, 0⟩ then []
        else shown ""
      log := Log.Event.ofSession.filter start.1.shows } := by
    rw [honce]
    exact runLines_complete host start.1 (p.prompts Settings.standard) h hcomplete rfl rfl
  refine ⟨fun hcomplete' => ⟨fun hasks hquiet => ?_, hcomplete hcomplete'⟩, fun hnot => ⟨?_, ?_⟩⟩
  · have hshown (text : String) : shown text = [] := by
      simp only [shown, Process.prompts, hasks]
      rfl
    have hlog : once.log = [] := by
      rw [honce, runOne_log]
      exact List.filter_eq_nil_iff.2 fun e _ => by simp [Log.Level.shows_of_lt hquiet e]
    have hsilent : Log.Event.ofSession.filter start.1.shows = [] :=
      List.filter_eq_nil_iff.2 fun e _ => by simp [Log.Level.shows_of_lt hquiet e]
    rw [hcomplete hcomplete', hshown, hsilent, ← hlog, List.nil_append, ite_self,
      List.append_nil]
  · rw [honce]
    exact runOne_incomplete host start.1 hnot
  · exact runLines_incomplete host start.1 (p.prompts Settings.standard) h hnot rfl rfl

end

/-- A line that leaves the shell and one that ends right after a backslash, with a
terminal on which lines can be edited and with one on which they cannot. -/
theorem run_single_line_exit :
    let host : Host := fun _ _ _ _ => .error .noEntry
    let world (unread : Bytes) : World := ⟨.empty, [], ⟨.directory []⟩, unread, .empty⟩
    let p (terminal : String) (args : List String) : Process :=
      ⟨"shell", args, [bytesOf ("TERM" ++ "=" ++ terminal)]⟩
    run host .levels (p "xterm" []) (world (bytesOf ("exit 3" ++ "\n"))) =
      run host .levels (p "xterm" ["-c", "exit 3"]) (world []) ∧
    run host .levels (p "xterm" []) (world (bytesOf ("a\\" ++ "\n"))) = ⟨0, [], [], []⟩ ∧
    run host .levels (p "Dumb" []) (world (bytesOf ("a\\" ++ "\n"))) =
      ⟨0, bytesOf "cli > > ", [], []⟩ := by
  intro host world p
  have hexit := run_single_line host .levels "shell" [bytesOf ("TERM" ++ "=" ++ "xterm")]
    (world []) "exit 3" ⟨by decide, by decide, by decide⟩
  have hescape (terminal : String) := run_single_line host .levels "shell"
    [bytesOf ("TERM" ++ "=" ++ terminal)] (world []) "a\\" ⟨by decide, by decide, by decide⟩
  have hterminal (terminal : String) : (p terminal []).value? "TERM" = some terminal :=
    Process.value?_cons ..
  have hxterm : (p "xterm" []).asks = false := by
    rw [Process.asks, hterminal]
    decide
  have hdumb : (p "Dumb" []).asks = true := by
    rw [Process.asks, hterminal]
    decide
  refine ⟨(hexit.1 (by decide)).1 hxterm (by decide), ?_, ?_⟩
  · refine ((hescape "xterm").2 (by decide)).2.trans ?_
    rw [Process.prompts, hxterm]
    decide
  · refine ((hescape "Dumb").2 (by decide)).2.trans ?_
    rw [Process.prompts, hdumb]
    decide

/-- A quotation that is left open is refused as an argument only. -/
theorem open_quote_is_dropped :
    let host : Host := fun _ _ _ _ => .error .noEntry
    let world (unread : Bytes) : World := ⟨.empty, [], ⟨.directory []⟩, unread, .empty⟩
    run host .levels ⟨"shell", [], []⟩ (world (bytesOf ("'" ++ "\n"))) ≠
      run host .levels ⟨"shell", ["-c", "'"], []⟩ (world []) := by
  intro host world
  have hopen : ¬ Complete "'" := by decide
  rw [run_command, runOne_incomplete host _ hopen, run_nothing,
    runLines_incomplete host _ _ ⟨by decide, by decide, by decide⟩ hopen rfl rfl]
  decide

end CommandLine

end LineShell
