import LineShell.Proofs.Session.Group

/-!
# The lines of a session are run as they come

A session that looks for its next lines is a `Point`.  `Runs` says what one group of
lines does there: the group is the shortest complete run of the lines that are
delivered, a blank one does nothing, and any other is run as one line.  `Executes`
puts groups one behind the other, up to the end of the session (`Stop`).

For every session there are groups that it executes (`exists_executes`), no others
(`Executes.unique`), and these decide how the session ends and with what status
(`Executes.loop_eq`).  The first of
them that leaves the shell is the last (`Executes.exits`).  They cover all lines of
the input that their commands leave to the session (`Executes.covers`), and they
depend on nothing but what a line reads (`Executes.alike`).

Main statement: `loop_executes`.
-/

namespace LineShell

/-! ## Complete lines do not end too soon -/

theorem Child.run_ne_incomplete (host : Host) (t : Task) (c : Command) (s : Surroundings) :
    (Child.run host t c s).1 ≠ .error .incomplete := by
  unfold Child.run
  generalize perform host t c s s.source.bytes = done
  unfold collect
  dsimp only
  cases done.ending.status with
  | error f => nofun
  | ok status =>
    cases feed s.source done.taken with
    | error f => nofun
    | ok _ =>
      rcases s.output.write done.output with ⟨_ | _, out⟩
      · nofun
      · dsimp only
        cases out.flush <;> nofun

theorem Program.resolve_ne_incomplete {c : Command} {s : Scope} {fs : Files} {process : Location}
    {e : Failure} (h : Program.resolve c s fs process = .error e) : e ≠ .incomplete := by
  rintro rfl
  unfold Program.resolve at h
  split at h
  · cases h
  · cases h
  · split at h <;> cases h

theorem Command.run_ne_incomplete (host : Host) (c : Command) (s : Surroundings) :
    (c.run host s).1 ≠ .error .incomplete := by
  unfold run
  cases Handler.ofName c.name with
  | assignment => nofun
  | exit =>
    dsimp only
    cases exitStatus c.args <;> nofun
  | utility k =>
    dsimp only
    cases k.placement with
    | inProcess =>
      dsimp only [runInProcess]
      cases (k.run c.words (s.stage c.bindings)).1 <;> nofun
    | detached => exact Child.run_ne_incomplete host _ c s
  | program =>
    dsimp only
    split
    · next h =>
      intro heq
      exact Program.resolve_ne_incomplete h (Except.error.inj heq)
    · exact Child.run_ne_incomplete host _ c s

theorem Pipeline.run_ne_incomplete (host : Host) (p : Pipeline) (s : Surroundings) :
    (p.run host s).1 ≠ .error .incomplete := by
  fun_induction run host p s with
  | case1 =>
    intro h
    cases h
  | case2 c s => exact c.run_ne_incomplete host s
  | case3 c rest s _ e s' h =>
    have hne := c.run_ne_incomplete host { s with output := .memory }
    rwa [h] at hne
  | case4 c rest s _ n s' h ih => exact ih

namespace Session

/-- Lines that are complete are not taken for lines that are not. -/
theorem runLine_ne_incomplete {lines : List String} (h : Closed lines) (host : Host)
    (input : Input) (out : Sink) (s : Session) :
    (s.runLine host (textOf lines) input out).1 ≠ .error .incomplete := by
  obtain ⟨tokens, htokens⟩ := h
  unfold runLine pipeline
  simp only [htokens]
  have hne := Pipeline.run_ne_incomplete host
    (.ofTokens (tokens.map (Token.expand s.world.vars))) ⟨s.world, input, out⟩
  generalize Pipeline.run host _ _ = result at hne
  obtain ⟨_ | _, left⟩ := result
  · exact hne
  · nofun

/-! ## Groups -/

/-- A session that looks for its next lines. -/
structure Point where
  /-- What it has fetched of them. -/
  ahead : Bytes
  session : Session
  out : Sink

namespace Point

/-- What the session can read. -/
def supply (p : Point) : Supply := ⟨p.ahead, p.session.world.unread⟩

/-- The session with one more complaint. -/
def complain (p : Point) (text : String) : Point :=
  { p with session := { p.session with world := p.session.world.complain text } }

/-- Two points that agree in everything a line reads, and whose sinks take everything. -/
structure Agrees (p p' : Point) : Prop where
  ahead : p'.ahead = p.ahead
  vars : p'.session.world.vars = p.session.world.vars
  directory : p'.session.world.directory = p.session.world.directory
  files : p'.session.world.files = p.session.world.files
  unread : p'.session.world.unread = p.session.world.unread
  boundless : p.out.Boundless
  boundless' : p'.out.Boundless

/-- Two points that agree in everything a line reads, and in what they have written
behind what their streams held before. -/
structure Alike (out err out' err' : Bytes) (p p' : Point) : Prop where
  ahead : p'.ahead = p.ahead
  session : Session.Alike out err out' err' p.session p.out p'.session p'.out

/-- Runs the session from here. -/
def loop (host : Host) (p : Point) : Status × Session × Sink :=
  p.session.loop host p.ahead p.out

end Point

/-- Lines that are run as one, and what has become of them. -/
structure Group where
  lines : List String
  /-- What running them has come to.  Blank lines are not run. -/
  outcome : Option (Except Failure Status)
  /-- What their commands have read of the input. -/
  taken : Bytes

/-- The status that a group leaves, if it has been run: that of its last command, or
that with which it leaves the shell, or one where it has failed. -/
def Group.status? (g : Group) : Option Status :=
  g.outcome.map fun result =>
    match result with
    | .ok status => status
    | .error (.exit code) => code
    | .error _ => 1

/-- The session behind a line that has come to this.  A failure is reported, and
counts as status one. -/
def heed (result : Except Failure Status) (s : Session) : Session :=
  match result with
  | .ok _ | .error (.exit _) => s
  | .error e => ⟨s.world.complain (e.message ++ "\n"), 1⟩

@[simp] theorem unread_heed (result : Except Failure Status) (s : Session) :
    (s.heed result).world.unread = s.world.unread := by
  unfold heed
  split <;> rfl

/-- What the next group of lines does at a point, and the point behind it. -/
inductive Runs (host : Host) (p : Point) : Group → Point → Prop where
  /-- A blank group only uses up its lines. -/
  | blank {lines : List String} {rest : Supply} (hdelivers : p.supply.Delivers lines rest)
      (hshortest : Shortest Closed lines) (hblank : (textOf lines).toList.all isBlank) :
      Runs host p ⟨lines, none, []⟩
        ⟨rest.ahead, p.session.withUnread rest.unread, p.out⟩
  /-- Any other group is run once, as one line. -/
  | line {lines : List String} {rest : Supply} {result : Except Failure Status} {s : Session}
      {out : Sink} {taken : Bytes} (hdelivers : p.supply.Delivers lines rest)
      (hshortest : Shortest Closed lines) (hblank : ¬ (textOf lines).toList.all isBlank)
      (hrun : (p.session.withUnread rest.unread).runLine host (textOf lines) .inherited p.out =
        (result, s, out))
      (htaken : rest.unread = taken ++ s.world.unread) :
      Runs host p ⟨lines, some result, taken⟩ ⟨rest.ahead, s.heed result, out⟩

/-- Why a session ends. -/
inductive Stop where
  /-- A line leaves the shell. -/
  | exit (code : Status)
  /-- There are no more lines.  The last ones have not made a complete text. -/
  | spent (unfinished : List String)
  /-- Behind these lines comes one that is no text. -/
  | garbled (unfinished : List String)
  /-- What has been written does not arrive. -/
  | unflushed (f : Fault)

/-- The status of a session that ends, if its last group has left some status. -/
def Stop.status (stop : Stop) (last : Status) : Status :=
  match stop with
  | .exit code => code
  | .spent _ => last
  | .garbled _ | .unflushed _ => 1

/-- Whether lines, and those at a stop behind them, are all lines of a script.  One that
leaves the shell, or whose output does not arrive, leaves the rest of them. -/
def Stop.Covers (stop : Stop) (lines script : List String) : Prop :=
  match stop with
  | .spent unfinished => lines ++ unfinished = script
  | .garbled _ => False
  | .exit _ | .unflushed _ => lines <+: script

/-- Whether the session goes on behind a group. -/
inductive Group.Continues (g : Group) (q : Point) : Prop where
  | blank (hblank : g.outcome = none)
  | line {result : Except Failure Status} (hresult : g.outcome = some result)
      (hstays : ∀ code, result ≠ .error (.exit code)) (hflush : q.out.flush = .ok ())

theorem Group.Continues.stays {g : Group} {q : Point} (h : g.Continues q) (code : Status) :
    g.outcome ≠ some (.error (.exit code)) := by
  intro hexit
  cases h with
  | blank hblank => cases hexit.symm.trans hblank
  | line hresult hstays hflush =>
    cases hexit.symm.trans hresult
    exact hstays code rfl

theorem Group.Continues.flush {g : Group} {q : Point} (h : g.Continues q)
    {result : Except Failure Status} (hresult : g.outcome = some result) :
    q.out.flush = .ok () := by
  cases h with
  | blank hblank => cases hresult.symm.trans hblank
  | line _ _ hflush => exact hflush

theorem Group.Continues.of_boundless {g : Group} {q q' : Point} (h : g.Continues q)
    (hboundless : q'.out.Boundless) : g.Continues q' := by
  cases h with
  | blank hblank => exact .blank hblank
  | line hresult hstays hflush => exact .line hresult hstays hboundless.flush

/-- The groups that a session executes, why it ends and how it is left. -/
inductive Executes (host : Host) : Point → List Group → Stop → Point → Prop where
  | spent {p : Point} {lines : List String} {rest : Supply}
      (hdelivers : p.supply.Delivers lines rest) (hnever : Never Closed lines)
      (hend : rest.next? = none) : Executes host p [] (.spent lines) p
  | garbled {p : Point} {lines : List String} {rest : Supply}
      (hdelivers : p.supply.Delivers lines rest) (hnever : Never Closed lines)
      (hgarbled : rest.Garbled) :
      Executes host p [] (.garbled lines) (p.complain (report .notUtf8))
  | exit {p q : Point} {g : Group} {code : Status} (hruns : Runs host p g q)
      (hexit : g.outcome = some (.error (.exit code))) : Executes host p [g] (.exit code) q
  | unflushed {p q : Point} {g : Group} {result : Except Failure Status} {f : Fault}
      (hruns : Runs host p g q) (hresult : g.outcome = some result)
      (hstays : ∀ code, result ≠ .error (.exit code)) (hflush : q.out.flush = .error f) :
      Executes host p [g] (.unflushed f) (q.complain ("Error: " ++ f.message ++ "\n"))
  | more {p q t : Point} {g : Group} {groups : List Group} {stop : Stop}
      (hruns : Runs host p g q) (hcontinues : g.Continues q)
      (hmore : Executes host q groups stop t) : Executes host p (g :: groups) stop t

variable {host : Host} {p q t : Point} {g : Group} {groups : List Group} {stop : Stop}

/-! ## Points that agree -/

theorem Point.Agrees.alike {p p' : Point} (h : p.Agrees p') :
    Point.Alike p.out.written p.session.world.errors.bytes p'.out.written
      p'.session.world.errors.bytes p p' where
  ahead := h.ahead
  session := .start h.vars h.directory h.files h.unread h.boundless h.boundless'

theorem Point.Alike.agrees {out err out' err' : Bytes} {p p' : Point}
    (h : Point.Alike out err out' err' p p') : p.Agrees p' where
  ahead := h.ahead
  vars := h.session.vars
  directory := h.session.directory
  files := h.session.files
  unread := h.session.unread
  boundless := h.session.boundless.1
  boundless' := h.session.boundless.2

theorem Point.Alike.complain {out err out' err' : Bytes} {p p' : Point}
    (h : Point.Alike out err out' err' p p') (text : String) :
    Point.Alike out err out' err' (p.complain text) (p'.complain text) where
  ahead := h.ahead
  session := h.session.complain text _ _

theorem Point.Alike.supply {out err out' err' : Bytes} {p p' : Point}
    (h : Point.Alike out err out' err' p p') : p'.supply = p.supply := by
  rw [Point.supply, h.ahead, h.session.unread, Point.supply]

theorem Alike.heed {out err out' err' : Bytes} {s s' : Session} {o o' : Sink}
    (h : Alike out err out' err' s o s' o') (result : Except Failure Status) :
    Alike out err out' err' (s.heed result) o (s'.heed result) o' := by
  cases result with
  | ok status => exact h
  | error e =>
    cases e with
    | exit code => exact h
    | _ => exact h.complain _ 1 1

/-! ## One group -/

namespace Runs

/-- The lines of a group are delivered, and they are the shortest complete ones.  What
is left is the input of the next group, but for what the commands have read. -/
theorem delivers (h : Runs host p g q) : ∃ rest, p.supply.Delivers g.lines rest ∧
    Shortest Closed g.lines ∧ q.ahead = rest.ahead ∧
      rest.unread = g.taken ++ q.session.world.unread := by
  cases h with
  | @blank lines rest hdelivers hshortest hblank =>
    exact ⟨rest, hdelivers, hshortest, rfl, rfl⟩
  | @line lines rest result s out taken hdelivers hshortest hblank hrun htaken =>
    exact ⟨rest, hdelivers, hshortest, rfl, by rw [unread_heed, htaken]⟩

/-- If the commands of a group leave the input to the session, the next group has the
next lines. -/
theorem resume (h : Runs host p g q) {script : List String} {last : Supply}
    (hscript : p.supply.Delivers script last) (hlast : last.next? = none) :
    g.lines <+: script ∧
      (g.taken = [] → ∃ more, script = g.lines ++ more ∧ q.supply.Delivers more last) := by
  obtain ⟨⟨ahead, unread⟩, hdelivers, -, rfl, hunread⟩ := h.delivers
  obtain ⟨more, rfl, hmore⟩ := hdelivers.resume hscript hlast
  refine ⟨List.prefix_append g.lines more, fun htaken => ⟨more, rfl, ?_⟩⟩
  rw [htaken, List.nil_append] at hunread
  obtain rfl : unread = q.session.world.unread := hunread
  exact hmore

/-- There is one next group at most. -/
theorem unique (h : Runs host p g q) {g' : Group} {q' : Point} (h' : Runs host p g' q') :
    g = g' ∧ q = q' := by
  cases h with
  | blank hdelivers hshortest hblank =>
    cases h' with
    | blank hdelivers' hshortest' =>
      obtain ⟨rfl, rfl⟩ := hdelivers.shortest_unique hshortest hdelivers' hshortest'
      exact ⟨rfl, rfl⟩
    | line hdelivers' hshortest' hblank' =>
      obtain ⟨rfl, rfl⟩ := hdelivers.shortest_unique hshortest hdelivers' hshortest'
      exact absurd hblank hblank'
  | line hdelivers hshortest hblank hrun htaken =>
    cases h' with
    | blank hdelivers' hshortest' hblank' =>
      obtain ⟨rfl, rfl⟩ := hdelivers.shortest_unique hshortest hdelivers' hshortest'
      exact absurd hblank' hblank
    | line hdelivers' hshortest' hblank' hrun' htaken' =>
      obtain ⟨rfl, rfl⟩ := hdelivers.shortest_unique hshortest hdelivers' hshortest'
      cases hrun.symm.trans hrun'
      obtain rfl := List.append_cancel_right (htaken.symm.trans htaken')
      exact ⟨rfl, rfl⟩

/-- Where a group is run, lines before its end are not the last. -/
theorem goes_on (h : Runs host p g q) {lines : List String} {rest : Supply}
    (hdelivers : p.supply.Delivers lines rest) (hnever : Never Closed lines) :
    rest.next? ≠ none ∧ ¬ rest.Garbled := by
  obtain ⟨_, hdelivers', hshortest, -⟩ := h.delivers
  exact hdelivers'.shortest_goes_on hshortest hdelivers hnever

theorem fetched (h : Runs host p g q) (hfetched : p.session.world.unread = []) :
    g.taken = [] ∧ q.session.world.unread = [] := by
  obtain ⟨rest, hdelivers, -, -, hunread⟩ := h.delivers
  have hsuffix : rest.unread <:+ p.session.world.unread := hdelivers.unread_suffix
  rw [hfetched, List.suffix_nil, hunread] at hsuffix
  exact List.append_eq_nil_iff.1 hsuffix

theorem boundless (h : Runs host p g q) (hboundless : p.out.Boundless) : q.out.Boundless := by
  cases h with
  | blank => exact hboundless
  | @line lines rest result s out taken hdelivers hshortest hblank hrun htaken =>
    have hout := boundless_runLine (s := p.session.withUnread rest.unread) host (textOf lines)
      hboundless
    rwa [hrun] at hout

theorem size_lt (h : Runs host p g q) : q.supply.size < p.supply.size := by
  obtain ⟨rest, hdelivers, hshortest, hahead, hunread⟩ := h.delivers
  have hless := hdelivers.size_lt hshortest.nonempty
  have hlength := congrArg List.length hunread
  rw [List.length_append] at hlength
  simp only [Supply.size, Point.supply, hahead] at hless ⊢
  omega

theorem exists_runs (host : Host) {lines : List String} {rest : Supply}
    (hdelivers : p.supply.Delivers lines rest) (hshortest : Shortest Closed lines) :
    ∃ g q, Runs host p g q := by
  by_cases hblank : (textOf lines).toList.all isBlank
  · exact ⟨_, _, .blank hdelivers hshortest hblank⟩
  · have hsuffix := unread_runLine_suffix host (textOf lines) .inherited p.out
      (p.session.withUnread rest.unread)
    rcases hrun : (p.session.withUnread rest.unread).runLine host (textOf lines) .inherited p.out
      with ⟨result, s, out⟩
    rw [hrun] at hsuffix
    obtain ⟨taken, htaken⟩ := hsuffix
    exact ⟨_, _, .line hdelivers hshortest hblank hrun htaken.symm⟩

/-- What the session makes of a group. -/
theorem loop_eq (h : Runs host p g q) :
    p.loop host =
      match g.outcome with
      | none => q.loop host
      | some (.error (.exit code)) => (code, q.session, q.out)
      | some _ =>
        match q.out.flush with
        | .ok () => q.loop host
        | .error f => (1, (q.complain ("Error: " ++ f.message ++ "\n")).session, q.out) := by
  obtain ⟨ahead, session, out₀⟩ := p
  have hgather {lines : List String} {rest : Supply}
      (hdelivers : Supply.Delivers ⟨ahead, session.world.unread⟩ lines rest)
      (hshortest : Shortest Closed lines) :
      gather .start "" ⟨ahead, session.world.unread⟩ = .command (textOf lines) rest := by
    rw [closed_eq] at hshortest
    rw [← Words.Progress.reader_start, gather_shortest hdelivers hshortest, String.empty_append]
  cases h with
  | @blank lines rest hdelivers hshortest hblank =>
    rw [Point.loop, loop_command host (hgather hdelivers hshortest), runGroup, if_pos hblank]
    rfl
  | @line lines rest result s out taken hdelivers hshortest hblank hrun htaken =>
    rw [Point.loop, loop_command host (hgather hdelivers hshortest), runGroup, if_neg hblank]
    simp only [hrun, settle]
    cases result with
    | ok status =>
      dsimp only
      cases out.flush <;> rfl
    | error e =>
      cases e with
      | exit code => rfl
      | _ =>
        dsimp only
        cases out.flush <;> rfl

/-- Behind a group that does not leave the shell, all depends on whether its output
has arrived. -/
theorem loop_stays (h : Runs host p g q) {result : Except Failure Status}
    (hresult : g.outcome = some result) (hstays : ∀ code, result ≠ .error (.exit code)) :
    p.loop host =
      match q.out.flush with
      | .ok () => q.loop host
      | .error f => (1, (q.complain ("Error: " ++ f.message ++ "\n")).session, q.out) := by
  rw [h.loop_eq, hresult]
  cases result with
  | ok status => rfl
  | error e =>
    cases e with
    | exit code => exact absurd rfl (hstays code)
    | _ => rfl

theorem loop_continues (h : Runs host p g q) (hcontinues : g.Continues q) :
    p.loop host = q.loop host := by
  cases hcontinues with
  | blank hblank => rw [h.loop_eq, hblank]
  | line hresult hstays hflush => rw [h.loop_stays hresult hstays, hflush]

theorem ne_incomplete (h : Runs host p g q) : g.outcome ≠ some (.error .incomplete) := by
  cases h with
  | blank => nofun
  | @line lines rest result s out taken hdelivers hshortest hblank hrun htaken =>
    have hne := runLine_ne_incomplete hshortest.holds host .inherited p.out
      (p.session.withUnread rest.unread)
    rw [hrun] at hne
    exact fun h => hne (Option.some.inj h)

theorem lastStatus_eq (h : Runs host p g q)
    (hstays : ∀ code, g.outcome ≠ some (.error (.exit code))) :
    q.session.lastStatus = g.status?.getD p.session.lastStatus := by
  cases h with
  | blank => rfl
  | @line lines rest result s out taken hdelivers hshortest hblank hrun htaken =>
    cases result with
    | ok status => exact lastStatus_runLine hrun
    | error e =>
      cases e with
      | exit code => exact absurd rfl (hstays code)
      | _ => rfl

/-- **A group depends on nothing but what a line reads.** -/
theorem alike (h : Runs host p g q) {p' : Point} {out err out' err' : Bytes}
    (halike : Point.Alike out err out' err' p p') :
    ∃ q', Runs host p' g q' ∧ Point.Alike out err out' err' q q' := by
  cases h with
  | @blank lines rest hdelivers hshortest hblank =>
    rw [← halike.supply] at hdelivers
    exact ⟨_, .blank hdelivers hshortest hblank, rfl, halike.session.withUnread rest.unread⟩
  | @line lines rest result s out taken hdelivers hshortest hblank hrun htaken =>
    obtain ⟨r, u, o, u', o', hrun₁, hrun', hleft⟩ :=
      runLine_alike (halike.session.withUnread rest.unread) host (textOf lines)
    cases hrun.symm.trans hrun₁
    rw [← hleft.unread] at htaken
    rw [← halike.supply] at hdelivers
    exact ⟨_, .line hdelivers hshortest hblank hrun' htaken, rfl, hleft.heed result⟩

end Runs

/-! ## All groups -/

/-- Every session executes some groups. -/
theorem exists_executes (host : Host) (p : Point) :
    ∃ groups stop t, Executes host p groups stop t := by
  induction hsize : p.supply.size using Nat.strongRecOn generalizing p with
  | _ size ih =>
    have hcases := Supply.delivers_cases .start p.supply
    rw [← closed_eq] at hcases
    rcases hcases with ⟨lines, rest, hdelivers, hshortest⟩ | ⟨lines, rest, hdelivers, hnever, hend⟩
    · -- The group has lines of its own, so the input behind it is shorter.
      obtain ⟨g, q, hruns⟩ := Runs.exists_runs host hdelivers hshortest
      have hless : q.supply.size < size := hsize ▸ hruns.size_lt
      obtain ⟨groups, stop, t, hmore⟩ := ih _ hless q rfl
      rcases houtcome : g.outcome with _ | result
      · exact ⟨_, _, _, .more hruns (.blank houtcome) hmore⟩
      · by_cases hexit : ∃ code, result = .error (.exit code)
        · obtain ⟨code, rfl⟩ := hexit
          exact ⟨_, _, _, .exit hruns houtcome⟩
        · have hstays := not_exists.1 hexit
          rcases hflush : q.out.flush with f | _
          · exact ⟨_, _, _, .unflushed hruns houtcome hstays hflush⟩
          · exact ⟨_, _, _, .more hruns (.line houtcome hstays hflush) hmore⟩
    · rcases hend with hend | hgarbled
      · exact ⟨_, _, _, .spent hdelivers hnever hend⟩
      · exact ⟨_, _, _, .garbled hdelivers hnever hgarbled⟩

namespace Executes

/-! ### How the groups begin -/

/-- A session without a complete run of lines executes no group. -/
theorem of_ended (h : Executes host p groups stop t) {lines : List String} {rest : Supply}
    (hdelivers : p.supply.Delivers lines rest) (hnever : Never Closed lines)
    (hend : rest.next? = none) : groups = [] ∧ stop = .spent lines ∧ t = p := by
  cases h with
  | @spent _ lines' rest' hdelivers' hnever' hend' =>
    obtain ⟨more, rfl, hmore⟩ := hdelivers'.resume hdelivers hend
    obtain rfl := hmore.eq_nil hend'
    exact ⟨rfl, by rw [List.append_nil], rfl⟩
  | garbled hdelivers' hnever' hgarbled =>
    obtain ⟨more, rfl, hmore⟩ := hdelivers'.resume hdelivers hend
    exact absurd hend (hgarbled.next?_ne_none hmore)
  | exit hruns | unflushed hruns | more hruns =>
    exact absurd hend (hruns.goes_on hdelivers hnever).1

theorem of_garbled (h : Executes host p groups stop t) {lines : List String} {rest : Supply}
    (hdelivers : p.supply.Delivers lines rest) (hnever : Never Closed lines)
    (hgarbled : rest.Garbled) :
    groups = [] ∧ stop = .garbled lines ∧ t = p.complain (report .notUtf8) := by
  cases h with
  | spent hdelivers' hnever' hend =>
    obtain ⟨more, rfl, hmore⟩ := hdelivers.resume hdelivers' hend
    exact absurd hend (hgarbled.next?_ne_none hmore)
  | garbled hdelivers' hnever' hgarbled' =>
    obtain rfl := hdelivers'.garbled_unique hgarbled' hdelivers hgarbled
    exact ⟨rfl, rfl, rfl⟩
  | exit hruns | unflushed hruns | more hruns =>
    exact absurd hgarbled (hruns.goes_on hdelivers hnever).2

/-- Where a next group is run, it is the first: it leaves the shell, or its output does
not arrive, or the session goes on behind it. -/
theorem of_runs (h : Executes host p groups stop t) (hruns : Runs host p g q) :
    (∃ code, g.outcome = some (.error (.exit code)) ∧ groups = [g] ∧ stop = .exit code ∧ t = q) ∨
    (∃ result f, g.outcome = some result ∧ (∀ code, result ≠ .error (.exit code)) ∧
      q.out.flush = .error f ∧ groups = [g] ∧ stop = .unflushed f ∧
      t = q.complain ("Error: " ++ f.message ++ "\n")) ∨
    (g.Continues q ∧ ∃ more, groups = g :: more ∧ Executes host q more stop t) := by
  cases h with
  | spent hdelivers hnever hend => exact absurd hend (hruns.goes_on hdelivers hnever).1
  | garbled hdelivers hnever hgarbled => exact absurd hgarbled (hruns.goes_on hdelivers hnever).2
  | exit hruns' hexit =>
    obtain ⟨rfl, rfl⟩ := hruns.unique hruns'
    exact .inl ⟨_, hexit, rfl, rfl, rfl⟩
  | unflushed hruns' hresult hstays hflush =>
    obtain ⟨rfl, rfl⟩ := hruns.unique hruns'
    exact .inr (.inl ⟨_, _, hresult, hstays, hflush, rfl, rfl, rfl⟩)
  | more hruns' hcontinues hmore =>
    obtain ⟨rfl, rfl⟩ := hruns.unique hruns'
    exact .inr (.inr ⟨hcontinues, _, rfl, hmore⟩)

/-- **What a session executes is determined.** -/
theorem unique (h : Executes host p groups stop t) {groups' : List Group} {stop' : Stop}
    {t' : Point} (h' : Executes host p groups' stop' t') :
    groups' = groups ∧ stop' = stop ∧ t' = t := by
  -- The other run begins with the same group, and what follows that group is one of three.
  induction h generalizing groups' with
  | spent hdelivers hnever hend => exact h'.of_ended hdelivers hnever hend
  | garbled hdelivers hnever hgarbled => exact h'.of_garbled hdelivers hnever hgarbled
  | exit hruns hexit =>
    obtain ⟨code, hexit', rfl, rfl, rfl⟩ | ⟨result, f, hresult, hstays, -⟩ | ⟨hcontinues, -⟩ :=
      h'.of_runs hruns
    · cases hexit.symm.trans hexit'
      exact ⟨rfl, rfl, rfl⟩
    · cases hexit.symm.trans hresult
      exact absurd rfl (hstays _)
    · exact absurd hexit (hcontinues.stays _)
  | unflushed hruns hresult hstays hflush =>
    obtain ⟨code, hexit, -⟩ | ⟨result, f, -, -, hflush', rfl, rfl, rfl⟩ | ⟨hcontinues, -⟩ :=
      h'.of_runs hruns
    · cases hresult.symm.trans hexit
      exact absurd rfl (hstays code)
    · cases hflush.symm.trans hflush'
      exact ⟨rfl, rfl, rfl⟩
    · cases hflush.symm.trans (hcontinues.flush hresult)
  | more hruns hcontinues hmore ih =>
    obtain ⟨code, hexit, -⟩ | ⟨result, f, hresult, -, hflush, -⟩ | ⟨-, more, rfl, hmore'⟩ :=
      h'.of_runs hruns
    · exact absurd hexit (hcontinues.stays code)
    · cases hflush.symm.trans (hcontinues.flush hresult)
    · obtain ⟨rfl, hsame⟩ := ih hmore'
      exact ⟨rfl, hsame⟩

/-! ### What follows from the groups -/

/-- **The groups that a session executes decide how it ends.** -/
theorem loop_eq (h : Executes host p groups stop t) :
    p.loop host =
      (stop.status ((groups.filterMap Group.status?).getLastD p.session.lastStatus),
        t.session, t.out) := by
  induction h with
  | @spent p lines rest hdelivers hnever hend =>
    rw [closed_eq] at hnever
    exact loop_unfinished host (gather_ended hdelivers hnever hend "")
  | @garbled p lines rest hdelivers hnever hgarbled =>
    rw [closed_eq] at hnever
    have hgather := gather_garbled hdelivers hnever hgarbled ""
    rw [Point.loop, loop_fault host hgather, Stop.status, Point.complain]
  | exit hruns hexit =>
    rw [hruns.loop_eq, hexit]
    rfl
  | unflushed hruns hresult hstays hflush =>
    rw [hruns.loop_stays hresult hstays, hflush]
    rfl
  | @more p q t g groups stop hruns hcontinues hmore ih =>
    have hstatus := hruns.lastStatus_eq hcontinues.stays
    rw [hruns.loop_continues hcontinues, ih, hstatus, List.filterMap_cons]
    cases g.status? with
    | none => rfl
    | some status => rw [List.getLastD_cons]; rfl

theorem ne_incomplete (h : Executes host p groups stop t) :
    ∀ g ∈ groups, g.outcome ≠ some (.error .incomplete) := by
  induction h with
  | spent | garbled => nofun
  | exit hruns | unflushed hruns => exact List.forall_mem_singleton.2 hruns.ne_incomplete
  | more hruns hcontinues hmore ih => exact List.forall_mem_cons.2 ⟨hruns.ne_incomplete, ih⟩

/-- **Every line belongs to one group**, or is unfinished at the end, if the commands
leave the input to the session. -/
theorem covers (h : Executes host p groups stop t) {script : List String} {last : Supply}
    (hscript : p.supply.Delivers script last) (hlast : last.next? = none)
    (htaken : ∀ g ∈ groups, g.taken = []) : stop.Covers (groups.flatMap Group.lines) script := by
  induction h generalizing script with
  | spent hdelivers hnever hend =>
    obtain ⟨more, rfl, hmore⟩ := hdelivers.resume hscript hlast
    rw [hmore.eq_nil hend, List.append_nil]
    rfl
  | garbled hdelivers hnever hgarbled =>
    obtain ⟨more, rfl, hmore⟩ := hdelivers.resume hscript hlast
    exact absurd hlast (hgarbled.next?_ne_none hmore)
  | exit hruns | unflushed hruns =>
    rw [List.flatMap_singleton]
    exact (hruns.resume hscript hlast).1
  | @more p q t g groups stop hruns hcontinues hmore ih =>
    -- Nothing has been taken, so the next group finds the rest of the script.
    rw [List.forall_mem_cons] at htaken
    obtain ⟨more, rfl, hrest⟩ := (hruns.resume hscript hlast).2 htaken.1
    have hcovers := ih hrest htaken.2
    rw [List.flatMap_cons]
    cases stop with
    | spent unfinished => exact (List.append_assoc ..).trans (congrArg (g.lines ++ ·) hcovers)
    | garbled unfinished => exact hcovers
    | exit | unflushed => exact (List.prefix_append_right_inj g.lines).2 hcovers

/-- **The groups that a session executes depend on nothing but what a line reads.** -/
theorem alike (h : Executes host p groups stop t) {p' : Point} {out err out' err' : Bytes}
    (halike : Point.Alike out err out' err' p p') :
    ∃ t', Executes host p' groups stop t' ∧ Point.Alike out err out' err' t t' := by
  induction h generalizing p' with
  | spent hdelivers hnever hend =>
    rw [← halike.supply] at hdelivers
    exact ⟨p', .spent hdelivers hnever hend, halike⟩
  | garbled hdelivers hnever hgarbled =>
    rw [← halike.supply] at hdelivers
    exact ⟨_, .garbled hdelivers hnever hgarbled, halike.complain _⟩
  | exit hruns hexit =>
    obtain ⟨q', hruns', halike'⟩ := hruns.alike halike
    exact ⟨q', .exit hruns' hexit, halike'⟩
  | unflushed hruns hresult hstays hflush =>
    obtain ⟨q', hruns', halike'⟩ := hruns.alike halike
    cases hflush.symm.trans halike'.session.boundless.1.flush
  | more hruns hcontinues hmore ih =>
    obtain ⟨q', hruns', halike'⟩ := hruns.alike halike
    obtain ⟨t', hmore', hleft⟩ := ih halike'
    exact ⟨t', .more hruns' (hcontinues.of_boundless halike'.session.boundless.2) hmore', hleft⟩

/-- A session without more input to read from leaves nothing to commands. -/
theorem taken_eq_nil (h : Executes host p groups stop t) (hfetched : p.session.world.unread = []) :
    ∀ g ∈ groups, g.taken = [] := by
  induction h with
  | spent | garbled => nofun
  | exit hruns | unflushed hruns => exact List.forall_mem_singleton.2 (hruns.fetched hfetched).1
  | more hruns hcontinues hmore ih =>
    obtain ⟨htaken, hleft⟩ := hruns.fetched hfetched
    exact List.forall_mem_cons.2 ⟨htaken, ih hleft⟩

theorem eq_of_singleton_eq {g' : Group} {before after : List Group}
    (h : [g'] = before ++ g :: after) : g' = g ∧ after = [] := by
  obtain ⟨-, hcons⟩ | ⟨-, hcons⟩ := List.singleton_eq_append_iff.1 h
  · obtain ⟨rfl, rfl⟩ := List.cons.inj hcons
    exact ⟨rfl, rfl⟩
  · cases hcons

/-- No group comes behind one that leaves the shell. -/
theorem exits (h : Executes host p groups stop t) {before after : List Group} {code : Status}
    (hsplit : groups = before ++ g :: after) (hexit : g.outcome = some (.error (.exit code))) :
    after = [] ∧ stop = .exit code := by
  induction h generalizing before with
  | spent | garbled =>
    have hne := List.append_ne_nil_of_right_ne_nil before (List.cons_ne_nil g after)
    exact absurd hsplit.symm hne
  | exit hruns hlast =>
    obtain ⟨rfl, rfl⟩ := eq_of_singleton_eq hsplit
    cases hexit.symm.trans hlast
    exact ⟨rfl, rfl⟩
  | unflushed hruns hresult hstays hflush =>
    obtain ⟨rfl, rfl⟩ := eq_of_singleton_eq hsplit
    cases hexit.symm.trans hresult
    exact absurd rfl (hstays code)
  | more hruns hcontinues hmore ih =>
    cases before with
    | nil =>
      obtain ⟨rfl, rfl⟩ := List.cons.inj hsplit
      exact absurd hexit (hcontinues.stays code)
    | cons first before => exact ih (List.cons.inj hsplit).2

/-- A session that leaves the shell does so with its last group. -/
theorem exited {code : Status} (h : Executes host p groups (.exit code) t) :
    ∃ before g, groups = before ++ [g] ∧ g.outcome = some (.error (.exit code)) := by
  generalize hstop : Stop.exit code = stop at h
  induction h with
  | spent | garbled | unflushed => cases hstop
  | exit hruns hexit =>
    cases hstop
    exact ⟨[], _, rfl, hexit⟩
  | more hruns hcontinues hmore ih =>
    obtain ⟨before, g, rfl, hexit⟩ := ih hstop
    exact ⟨_ :: before, g, rfl, hexit⟩

theorem arrives (h : Executes host p groups stop t) (hboundless : p.out.Boundless) (f : Fault) :
    stop ≠ .unflushed f := by
  induction h with
  | spent | garbled | exit => nofun
  | unflushed hruns hresult hstays hflush =>
    cases hflush.symm.trans (hruns.boundless hboundless).flush
  | more hruns hcontinues hmore ih => exact ih (hruns.boundless hboundless)

end Executes

/-- **A session executes its lines.**  There are groups of lines that it executes one
behind the other, and no others: each is the shortest complete run of the lines that
come next; a blank one does nothing, and each of the others is run once.  How the
session ends follows from them: with the status of the last one that was run, unless a
line is no text or the output does not arrive.  None is taken for incomplete, the first
that leaves the shell is the last of all, and where the sink takes everything no output
is missed.

If the commands leave the input alone, the groups are all lines of the script, in
their order.  Failures only matter through what a line reads: behind any point that
agrees in variables, directory, files and input, the same groups come to the same
outcomes and write the same. -/
theorem loop_executes (host : Host) (p : Point) :
    ∃ groups stop t, Executes host p groups stop t ∧
      (∀ groups' stop' t', Executes host p groups' stop' t' →
        groups' = groups ∧ stop' = stop ∧ t' = t) ∧
      p.session.loop host p.ahead p.out =
        (stop.status ((groups.filterMap Group.status?).getLastD p.session.lastStatus),
          t.session, t.out) ∧
      (∀ g ∈ groups, g.outcome ≠ some (.error .incomplete)) ∧
      (∀ before g after code, groups = before ++ g :: after →
        g.outcome = some (.error (.exit code)) → after = [] ∧ stop = .exit code) ∧
      (∀ code, stop = .exit code →
        ∃ before g, groups = before ++ [g] ∧ g.outcome = some (.error (.exit code))) ∧
      (p.out.Boundless → ∀ f, stop ≠ .unflushed f) ∧
      (∀ script last, p.supply.Delivers script last → last.next? = none →
        (∀ g ∈ groups, g.taken = []) → stop.Covers (groups.flatMap Group.lines) script) ∧
      (∀ p', p.Agrees p' → ∃ t', Executes host p' groups stop t' ∧ t.Agrees t' ∧
        ∃ more complaints,
          t.out.written = p.out.written ++ more ∧ t'.out.written = p'.out.written ++ more ∧
          t.session.world.errors.bytes = p.session.world.errors.bytes ++ complaints ∧
          t'.session.world.errors.bytes = p'.session.world.errors.bytes ++ complaints) := by
  obtain ⟨groups, stop, t, h⟩ := exists_executes host p
  refine ⟨groups, stop, t, h, fun _ _ _ => h.unique, h.loop_eq, h.ne_incomplete,
    fun _ _ _ _ => h.exits, ?_, h.arrives, fun _ _ => h.covers, fun p' hagrees => ?_⟩
  · rintro code rfl
    exact h.exited
  · obtain ⟨t', h', halike⟩ := h.alike hagrees.alike
    exact ⟨t', h', halike.agrees, halike.session.written⟩

/-- A quotation over two lines that is no status, a blank line, and then two lines that leave
the shell.  The first of these ends the session, the second is not reached, and an earlier
failure makes no difference. -/
theorem loop_executes_failing :
    let host : Host := fun _ _ _ _ => .error .noEntry
    let script := ["exit 'no", "status'", " ", "exit 3", "exit 4"]
    let world : World := ⟨.empty, [], ⟨.directory []⟩, [], .empty⟩
    let p : Point := ⟨bytesOf (textOf script), ⟨world, 0⟩, .memory⟩
    let p' : Point := ⟨bytesOf (textOf script), ⟨world.complain "failed", 1⟩, .memory⟩
    let groups : List Group :=
      [⟨["exit 'no", "status'"], some (.error (.argument (.status "no\nstatus"))), []⟩,
        ⟨[" "], none, []⟩, ⟨["exit 3"], some (.error (.exit 3)), []⟩]
    ∃ t t', Executes host p groups (.exit 3) t ∧ Executes host p' groups (.exit 3) t' ∧
      (p.session.loop host p.ahead p.out).1 = 3 ∧
      (Stop.exit 3).Covers (groups.flatMap Group.lines) script ∧
      "exit 4" ∉ groups.flatMap Group.lines ∧ t.ahead = bytesOf "exit 4\n" ∧
      t.session.world.errors.bytes =
        bytesOf "invalid argument: exit: no\nstatus: numeric argument required\n" := by
  -- What the two lines come to is evaluated, so nothing may be left open in it.
  have hresults :
      let host : Host := fun _ _ _ _ => .error .noEntry
      let failure : Except Failure Status := .error (.argument (.status "no\nstatus"))
      let s : Session := ⟨⟨.empty, [], ⟨.directory []⟩, [], .empty⟩, 0⟩
      s.runLine host (textOf ["exit 'no", "status'"]) .inherited .memory = (failure, s, .memory) ∧
      (s.heed failure).runLine host (textOf ["exit 3"]) .inherited .memory =
        (.error (.exit 3), s.heed failure, .memory) :=
    ⟨rfl, rfl⟩
  have hopen : ¬ Closed ["exit 'no"] := by
    rw [closed_eq]
    nofun
  have hclosed : Closed ["exit 'no", "status'"] ∧ Closed [" "] ∧ Closed ["exit 3"] := by
    rw [closed_eq]
    exact ⟨rfl, rfl, rfl⟩
  intro host script world p p' groups
  have hplain : ∀ line ∈ script, Plain line := by
    simp only [script, List.forall_mem_cons, List.not_mem_nil, false_implies, implies_true,
      and_true]
    refine ⟨?_, ?_, ?_, ?_, ?_⟩ <;> exact ⟨by decide, by decide, by decide⟩
  have hdelivers (q : Point) (lines more : List String) (hlines : lines ⊆ script)
      (hahead : q.ahead = bytesOf (textOf (lines ++ more)))
      (hunread : q.session.world.unread = []) :
      q.supply.Delivers lines ⟨bytesOf (textOf more), []⟩ := by
    rw [Point.supply, hahead, hunread]
    exact Supply.delivers_fetched (fun line hline => hplain line (hlines hline)) more []
  let failure : Except Failure Status := .error (.argument (.status "no\nstatus"))
  let s : Session := heed failure ⟨world, 0⟩
  let q₁ : Point := ⟨bytesOf (textOf [" ", "exit 3", "exit 4"]), s, .memory⟩
  let q₂ : Point := ⟨bytesOf (textOf ["exit 3", "exit 4"]), s, .memory⟩
  let q₃ : Point := ⟨bytesOf (textOf ["exit 4"]), s, .memory⟩
  have hscript : script = ["exit 'no", "status'"] ++ [" ", "exit 3", "exit 4"] := rfl
  have hfirst : Runs host p ⟨["exit 'no", "status'"], some failure, []⟩ q₁ :=
    .line (hdelivers p _ _ (by decide) (congrArg (bytesOf ∘ textOf) hscript) rfl)
      (.cons (shortest_singleton hclosed.1) hopen) (by decide +kernel) hresults.1 rfl
  have hblank : Runs host q₁ ⟨[" "], none, []⟩ q₂ :=
    .blank (hdelivers q₁ [" "] ["exit 3", "exit 4"] (by decide) rfl rfl)
      (shortest_singleton hclosed.2.1) (by decide +kernel)
  have hlast : Runs host q₂ ⟨["exit 3"], some (.error (.exit 3)), []⟩ q₃ :=
    .line (hdelivers q₂ ["exit 3"] ["exit 4"] (by decide) rfl rfl)
      (shortest_singleton hclosed.2.2) (by decide +kernel) hresults.2 rfl
  have h : Executes host p groups (.exit 3) q₃ :=
    .more hfirst (.line rfl nofun rfl) (.more hblank (.blank rfl) (.exit hlast rfl))
  obtain ⟨groups', stop, t, -, hunique, hloop, -, -, -, -, hcovers, hagrees⟩ :=
    loop_executes host p
  obtain ⟨rfl, rfl, rfl⟩ := hunique _ _ _ h
  obtain ⟨t', hother, -⟩ := hagrees p' ⟨rfl, rfl, rfl, rfl, rfl, ⟨rfl, rfl⟩, ⟨rfl, rfl⟩⟩
  obtain ⟨last, hall, hend⟩ :=
    @Supply.delivers_plain p.supply script hplain (List.append_nil _)
  refine ⟨q₃, t', h, hother, congrArg Prod.fst hloop,
    hcovers script last hall hend (h.taken_eq_nil rfl), by decide, ?_, ?_⟩
  · decide +kernel
  · decide +kernel

end Session

end LineShell
