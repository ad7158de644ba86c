import LineShell.Proofs.Command.Variables
import LineShell.Proofs.Files.Canonical
import LineShell.Proofs.Pipeline.Composition
import LineShell.Session.Loop

/-!
# The directory of a session and its record

`cd` goes to the location that its arguments lead to (`Cd.Leads`) and records it, or else
complains and leaves everything as it was (`Cd.run_cases`).  It resolves its target first
and then goes to the path that it has rendered.  That both lead to the same place
is `Files.directoryAt_render`.

No other command moves the shell, and besides `cd` only a command without a name writes
the variable of the working directory.  So the variable stays the path of the directory
(`World.Recorded`) through every command (`Command.run_recorded`), every pipeline and
every line, however it ends.  Main statement: `Session.moves_are_recorded`.
-/

namespace LineShell

/-- A process can go to the location: a directory with a path that the system takes. -/
structure Files.Admits (fs : Files) (l : Location) : Prop where
  isDirectory : fs.isDirectoryAt l
  short : l.render.utf8ByteSize < pathLimit
  noNul : l.render.contains '\x00' = false

namespace Utility.Cd

variable {argv : List String} {c : Options.Choice} {st : Stage} {l : Location}

/-! ## Where the arguments lead -/

/-- What is asked for: the operand, or the home directory where there is none or it is
empty. -/
def Asks (c : Options.Choice) (st : Stage) (target : String) : Prop :=
  target ≠ "" ∧ (c.operands.headD "" = target ∨
    c.operands.headD "" = "" ∧ st.scope.get? "HOME" = some target)

/-- Where relative targets start: the recorded directory, or that of the process where none
is recorded or it is empty. -/
def StartsFrom (st : Stage) (base : String) : Prop :=
  base ≠ "" ∧ st.scope.get? workingDirectoryName = some base ∨
  (∀ dir, st.scope.get? workingDirectoryName = some dir → dir = "") ∧ base = st.directory.render

/-- The arguments lead to the location. -/
def Leads (argv : List String) (st : Stage) (l : Location) : Prop :=
  ∃ c target base, Kind.cd.parse argv.tail = .ok (.run c) ∧ Asks c st target ∧
    StartsFrom st base ∧
    st.files.resolve st.directory
      (if Path.isAbsolute target then target else Path.join base target) = .ok l

theorem asks_iff {target : String} : Asks c st target ↔ target? c st = some target := by
  constructor
  · rintro ⟨hne, rfl | ⟨hnone, hhome⟩⟩
    · have hgiven : (c.operands.headD "").isEmpty = false := by simpa using hne
      simp only [target?, hgiven, Bool.false_eq_true, if_false]
    · have hempty : target.isEmpty = false := by simpa using hne
      simp only [target?, hnone, hhome, hempty]
      rfl
  · intro h
    unfold target? at h
    dsimp only at h
    split at h
    · next hnone =>
      split at h
      · next home hhome =>
        split at h
        · cases h
        · next hne =>
          obtain rfl := Option.some.inj h
          exact ⟨by simpa using hne, .inr ⟨by simpa using hnone, hhome⟩⟩
      · cases h
    · next hgiven =>
      obtain rfl := Option.some.inj h
      exact ⟨by simpa using hgiven, .inl rfl⟩

theorem startsFrom_iff {base : String} : StartsFrom st base ↔ base = st.workingDirectory := by
  unfold StartsFrom Stage.workingDirectory Scope.workingDirectory
  cases st.scope.get? workingDirectoryName with
  | none => simp
  | some dir =>
    by_cases hempty : dir = ""
    · simp +contextual [hempty]
    · have hrecorded : base ≠ "" ∧ dir = base ↔ base = dir := by
        constructor
        · exact fun h => h.2.symm
        · rintro rfl
          exact ⟨hempty, rfl⟩
      simpa [hempty] using hrecorded

/-- The declarative reading and the path that `cd` resolves agree. -/
theorem leads_iff (hparse : Kind.cd.parse argv.tail = .ok (.run c)) :
    Leads argv st l ↔ ∃ target, target? c st = some target ∧
      st.files.resolve st.directory (st.path target) = .ok l := by
  have hpath : ∀ target, (if Path.isAbsolute target then target
      else Path.join st.workingDirectory target) = st.path target := by
    intro target
    unfold Stage.path Path.join
    by_cases habs : Path.isAbsolute target
    · simp [habs]
    · simp [habs]
  constructor
  · rintro ⟨c', target, base, hparse', hasks, hfrom, hresolve⟩
    cases hparse.symm.trans hparse'
    rw [startsFrom_iff] at hfrom
    rw [hfrom, hpath] at hresolve
    exact ⟨target, asks_iff.1 hasks, hresolve⟩
  · rintro ⟨target, htarget, hresolve⟩
    rw [← hpath] at hresolve
    exact ⟨c, target, _, hparse, asks_iff.2 htarget, startsFrom_iff.2 rfl, hresolve⟩

theorem Leads.unique {l' : Location} (h : Leads argv st l) (h' : Leads argv st l') : l = l' := by
  have hrun := h
  obtain ⟨c, -, -, hparse, -⟩ := hrun
  obtain ⟨target, htarget, hl⟩ := (leads_iff hparse).1 h
  obtain ⟨target', htarget', hl'⟩ := (leads_iff hparse).1 h'
  cases htarget.symm.trans htarget'
  exact Except.ok.inj (hl.symm.trans hl')

/-! ## What `cd` does -/

/-- What is resolved from a process that is somewhere can be gone to just if the location
admits it. -/
theorem directoryAt_resolved {fs : Files} {dir : Location} {p : String} (hdir : dir.Proper)
    (h : fs.resolve dir p = .ok l) :
    (fs.Admits l ∧ fs.directoryAt dir l.render = .ok l) ∨
    (¬ fs.Admits l ∧ ∃ f, fs.directoryAt dir l.render = .error f) := by
  have hrender := Files.directoryAt_render (Files.resolve_canonical hdir h) dir
  rw [hrender]
  by_cases hnul : l.render.contains '\x00'
  · rw [if_pos hnul]
    refine .inr ⟨fun hadmits => ?_, _, rfl⟩
    rw [hadmits.noNul] at hnul
    cases hnul
  · rw [if_neg hnul]
    by_cases hsize : Files.pathLimit ≤ l.render.utf8ByteSize
    · rw [if_pos hsize]
      exact .inr ⟨fun hadmits => Nat.not_lt.2 hsize hadmits.short, _, rfl⟩
    · rw [if_neg hsize]
      by_cases hdirectory : fs.isDirectoryAt l
      · rw [if_pos hdirectory]
        exact .inl ⟨⟨hdirectory, Nat.not_le.1 hsize, by simpa using hnul⟩, rfl⟩
      · rw [if_neg hdirectory]
        exact .inr ⟨fun hadmits => hdirectory hadmits.isDirectory, _, rfl⟩

theorem body_of_leads (hdir : st.directory.Proper)
    (hparse : Kind.cd.parse argv.tail = .ok (.run c)) :
    (∃ l, Leads argv st l ∧ st.files.Admits l ∧ body c st =
      (.ok 0, { st with directory := l, scope := st.scope.changeDirectory l.render })) ∨
    ((∀ l, Leads argv st l → ¬ st.files.Admits l) ∧ ∃ e, body c st = (.error e, st)) := by
  simp only [leads_iff hparse]
  unfold body
  cases htarget : target? c st with
  | none =>
    right
    refine ⟨?_, _, rfl⟩
    rintro l ⟨target, hnone, -⟩
    cases hnone
  | some target =>
    dsimp only
    cases hresolve : st.files.resolve st.directory (st.path target) with
    | error f =>
      right
      refine ⟨?_, _, rfl⟩
      rintro l ⟨target', hsame, hl⟩
      obtain rfl := Option.some.inj hsame
      rw [hresolve] at hl
      cases hl
    | ok l =>
      dsimp only
      rcases directoryAt_resolved hdir hresolve with ⟨hadmits, hhere⟩ | ⟨hadmits, f, hhere⟩
      · left
        rw [hhere]
        exact ⟨l, ⟨target, rfl, hresolve⟩, hadmits, rfl⟩
      · right
        rw [hhere]
        refine ⟨?_, _, rfl⟩
        rintro l' ⟨target', hsame, hl⟩
        obtain rfl := Option.some.inj hsame
        rw [hresolve] at hl
        exact Except.ok.inj hl ▸ hadmits

/-- `cd` goes where its arguments lead and records it, or complains and does nothing else. -/
theorem run_cases (hflush : st.output.flush = .ok ()) (hhelp : Kind.cd.parse argv.tail ≠ .ok .help)
    (hdir : st.directory.Proper) :
    (∃ l, Leads argv st l ∧ st.files.Admits l ∧ Kind.cd.run argv st =
      (.ok 0, { st with directory := l, scope := st.scope.changeDirectory l.render })) ∨
    ((∀ l, Leads argv st l → ¬ st.files.Admits l) ∧
      ∃ status text, status ≠ 0 ∧ Kind.cd.run argv st = (.ok status, st.complain text)) := by
  unfold Kind.run
  cases hparse : Kind.cd.parse argv.tail with
  | error e =>
    right
    refine ⟨?_, 2, _, by decide, rfl⟩
    rintro l ⟨c, target, base, hrun, -⟩
    rw [hparse] at hrun
    cases hrun
  | ok request =>
    cases request with
    | help => exact absurd hparse hhelp
    | run c =>
      rcases body_of_leads hdir hparse with ⟨l, hleads, hadmits, hbody⟩ | ⟨hnowhere, e, hbody⟩
      · left
        refine ⟨l, hleads, hadmits, ?_⟩
        simp only [Kind.body, hbody, hflush]
      · right
        refine ⟨hnowhere, 1, e.message ++ "\n", by decide, ?_⟩
        simp only [Kind.body, hbody, Stage.complain, hflush]

end Utility.Cd

/-! ## The record of a session -/

/-- The variable of the working directory holds the path of the directory. -/
structure World.Recorded (w : World) : Prop where
  record : w.vars.get? workingDirectoryName = some w.directory.render
  names : w.directory.Proper

/-- No command without a name that is come to gives the working directory another value. -/
def Pipeline.Spares (host : Host) (p : Pipeline) (s : Surroundings) : Prop :=
  ∀ before c after found, p = before ++ c :: after → Passes host before s found →
    c.name = "" → ∀ b ∈ c.bindings, b.name ≠ workingDirectoryName

variable {host : Host} {s : Surroundings}

theorem Command.run_recorded {c : Command} (h : s.world.Recorded)
    (hspare : c.name = "" → ∀ b ∈ c.bindings, b.name ≠ workingDirectoryName) :
    (c.run host s).2.world.Recorded := by
  rcases c.run_cases host s with ⟨hname, hrun⟩ | ⟨-, hvars, hdirectory⟩ |
    ⟨-, p, l, here, hresolve, hhere, hdirectory, hvars⟩
  · have hnone : c.bindings.reverse.find? (fun b => b.name = workingDirectoryName) = none := by
      rw [List.find?_eq_none]
      intro b hb heq
      exact hspare hname b (List.mem_reverse.1 hb) (of_decide_eq_true heq)
    rw [hrun]
    refine ⟨?_, h.names⟩
    have hget := s.world.vars.get?_bindAll c.bindings workingDirectoryName
    rw [hnone, Option.map_none, Option.none_or] at hget
    exact hget.trans h.record
  · exact ⟨by rw [hvars, hdirectory, h.record], hdirectory ▸ h.names⟩
  · have hcanonical := Files.resolve_canonical h.names hresolve
    rcases Utility.Cd.directoryAt_resolved h.names hresolve with ⟨-, hthere⟩ | ⟨-, f, hthere⟩
    · obtain rfl := Except.ok.inj (hhere.symm.trans hthere)
      refine ⟨?_, hdirectory ▸ hcanonical.names⟩
      rw [hvars, hdirectory, Variables.get?_set, if_pos rfl]
    · cases hhere.symm.trans hthere

theorem Pipeline.run_recorded {p : Pipeline} (h : s.world.Recorded) (hspare : p.Spares host s) :
    (p.run host s).2.world.Recorded := by
  induction p generalizing s with
  | nil => exact h
  | cons c rest ih =>
    have hfirst : ∀ out, (c.run host { s with output := out }).2.world.Recorded := by
      intro out
      exact Command.run_recorded h (hspare [] c rest s rfl (.nil s))
    by_cases hrest : rest = []
    · subst hrest
      exact hfirst s.output
    · rw [run_cons host c hrest]
      have hleft := hfirst .memory
      rcases hrun : c.run host { s with output := .memory } with ⟨r, t⟩
      rw [hrun] at hleft
      cases r with
      | error e => exact hleft
      | ok status =>
        refine ih hleft ?_
        intro before d after found hsplit hpasses
        exact hspare (c :: before) d after found (congrArg (c :: ·) hsplit) (.cons hrun hpasses)

namespace Session

/-- The line assigns no working directory to the shell. -/
def Spares (host : Host) (line : String) (input : Input) (out : Sink) (s : Session) : Prop :=
  ∀ p, s.pipeline line = .ok p → p.Spares host ⟨s.world, input, out⟩

theorem runLine_recorded {line : String} {input : Input} {out : Sink} {s : Session}
    (h : s.world.Recorded) (hspare : s.Spares host line input out) :
    (s.runLine host line input out).2.1.world.Recorded := by
  unfold runLine
  cases hline : s.pipeline line with
  | error e => exact h
  | ok p =>
    have hrun := Pipeline.run_recorded (s := ⟨s.world, input, out⟩) h (hspare p hline)
    dsimp only
    split <;> next heq => rwa [heq] at hrun

/-- What a session comes to by lines that assign no working directory.  Between two lines the
shell may complain and read, and others may change files; nobody else writes variables
or moves the shell. -/
inductive History (host : Host) (start : Session) : Session → Prop where
  | start : History host start start
  | line {s : Session} (line : String) (input : Input) (out : Sink) (h : History host start s)
      (hspare : s.Spares host line input out) :
      History host start (s.runLine host line input out).2.1
  | between {s t : Session} (h : History host start s) (hvars : t.world.vars = s.world.vars)
      (hdirectory : t.world.directory = s.world.directory) : History host start t

theorem History.recorded {start s : Session} (hstart : start.world.Recorded)
    (h : History host start s) : s.world.Recorded := by
  induction h with
  | start => exact hstart
  | line line input out _ hspare ih => exact runLine_recorded ih hspare
  | between _ hvars hdirectory ih =>
    exact ⟨by rw [hvars, hdirectory, ih.record], hdirectory ▸ ih.names⟩

/-- A complete text is a line, and what the shell reports of it comes between two lines. -/
theorem History.runGroup {start s : Session} (h : History host start s) {text : String}
    {out : Sink} (hspare : s.Spares host text .inherited out) :
    History host start (s.runGroup host text out).2.1 := by
  have hsettle : ∀ {t : Session} (o : Sink), History host start t →
      History host start (t.settle o).2.1 := by
    intro t o ht
    unfold settle
    cases o.flush with
    | ok => exact ht
    | error f => exact .between ht rfl rfl
  have hline := History.line text .inherited out h hspare
  unfold Session.runGroup
  split
  · exact h
  · rcases hrun : s.runLine host text .inherited out with ⟨r, t, o⟩
    rw [hrun] at hline
    split
    · next heq =>
      cases heq
      exact hsettle _ hline
    · next heq =>
      cases heq
      exact hline
    · next heq =>
      cases heq
      exact hsettle _ (.between hline rfl rfl)

/-- **`cd` is all or nothing, and the record of the directory is true.**  Unless it is asked
for help, and with an output that can be flushed, `cd` either succeeds, and then the
process is at the location that its arguments lead to and the shell's record is the path of
this location, or it returns another status and leaves the directory and the scope alone.
It writes no other variable.  So a session that begins with a true record has one after
every line, as long as no line assigns the working directory itself. -/
theorem moves_are_recorded :
    (∀ argv (st : Stage), st.output.flush = .ok () →
      Utility.Kind.cd.parse argv.tail ≠ .ok .help → st.directory.Proper →
      (∃ u l, Utility.Kind.cd.run argv st = (.ok 0, u) ∧ Utility.Cd.Leads argv st l ∧
        st.files.Admits l ∧ u.directory = l ∧
        u.scope.shared.get? workingDirectoryName = some l.render ∧
        u.scope.get? workingDirectoryName = some l.render ∧
        ∀ n, n ≠ workingDirectoryName → u.scope.shared.get? n = st.scope.shared.get? n ∧
          u.scope.own.get? n = st.scope.own.get? n) ∨
      ((∀ l, Utility.Cd.Leads argv st l → ¬ st.files.Admits l) ∧
        ∃ status u, Utility.Kind.cd.run argv st = (.ok status, u) ∧ status ≠ 0 ∧
          u.directory = st.directory ∧ u.scope = st.scope)) ∧
    (∀ (host : Host) (start : Session), start.world.Recorded → ∀ s, History host start s →
      s.world.vars.get? workingDirectoryName = some s.world.directory.render) := by
  refine ⟨?_, fun host start hstart s hs => (hs.recorded hstart).record⟩
  intro argv st hflush hhelp hdir
  rcases Utility.Cd.run_cases hflush hhelp hdir with
    ⟨l, hleads, hadmits, hrun⟩ | ⟨hnowhere, status, text, hstatus, hrun⟩
  · refine .inl ⟨_, l, hrun, hleads, hadmits, rfl, ?_, ?_, ?_⟩
    · simp only [Scope.changeDirectory, Variables.get?_set, if_true]
    · simp only [Scope.get?, Scope.changeDirectory, Variables.get?_erase, Variables.get?_set,
        if_true, Option.none_or]
    · intro n hn
      simp only [Scope.changeDirectory, Variables.get?_erase, Variables.get?_set, if_neg hn.symm,
        and_self]
  · exact .inr ⟨hnowhere, status, _, hrun, hstatus, rfl, rfl⟩

/-- `cd` without an operand, on a stage and on a line of a session. -/
theorem moves_are_recorded_home :
    let vars := Variables.ofEntries ["HOME=/home", "PWD=/"]
    let files : Files := ⟨.directory [("home", .directory [])]⟩
    let st : Stage := ⟨.ofShared vars, files, [], .ofBytes [], 0, .memory, .empty⟩
    let start : Session := ⟨⟨vars, [], files, [], .empty⟩, 0⟩
    let left := (start.runLine (fun _ _ _ _ => .error .noEntry) "cd\n" .inherited .memory).2.1
    (∃ u, Utility.Kind.cd.run ["cd"] st = (.ok 0, u) ∧ u.directory = ["home"] ∧
      u.scope.shared.get? "PWD" = some "/home" ∧ u.scope.shared.get? "HOME" = some "/home") ∧
    left.world.vars.get? "PWD" = some left.world.directory.render := by
  intro vars files st start left
  obtain ⟨hcd, hsession⟩ := moves_are_recorded
  constructor
  · have hnul : (Location.render ["home"]).contains '\x00' = false := by
      simp [Location.render]
    have hcanonical : files.Canonical ["home"] :=
      ⟨List.forall_mem_singleton.2 ⟨by decide, by decide, by decide, by decide, by decide⟩,
        .directory [], rfl, fun _ => Node.noConfusion⟩
    have hleads : Utility.Cd.Leads ["cd"] st ["home"] := by
      refine ⟨⟨[], [], []⟩, "/home", "/", rfl, ⟨by decide, .inr ⟨rfl, by decide⟩⟩,
        .inl ⟨by decide, by decide⟩, ?_⟩
      have habsolute : Path.isAbsolute "/home" := Files.isAbsolute_render ["home"]
      rw [if_pos habsolute]
      exact Files.resolve_render hcanonical (List.cons_ne_nil _ _) hnul
    have hadmits : files.Admits ["home"] := ⟨by decide, by decide, hnul⟩
    have hhelp : Utility.Kind.cd.parse ["cd"].tail ≠ .ok .help := by
      intro h
      cases h
    rcases hcd ["cd"] st rfl hhelp (List.forall_mem_nil _) with
      ⟨u, l, hrun, hl, -, hdirectory, hrecord, -, hframe⟩ | ⟨hnowhere, -⟩
    · obtain rfl := hl.unique hleads
      exact ⟨u, hrun, hdirectory, hrecord, (hframe "HOME" (by decide)).1⟩
    · exact absurd hadmits (hnowhere _ hleads)
  · refine hsession _ start ⟨by decide, List.forall_mem_nil _⟩ left (.line _ _ _ .start ?_)
    intro p hp before c after found hsplit _ hname
    have hline : start.pipeline "cd\n" = .ok [.ofWords ["cd"]] := rfl
    cases hline.symm.trans hp
    have hmem : c ∈ [Command.ofWords ["cd"]] := by
      rw [hsplit]
      exact List.mem_append_right _ List.mem_cons_self
    rw [List.mem_singleton.1 hmem] at hname
    exact absurd hname (by decide)

end Session

end LineShell
