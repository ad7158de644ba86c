import LineShell.Pipeline.Run

/-!
# Who writes the variables of the shell

A command gets the variables of the shell through its scope, and what it leaves
in them is `Scope.shared`.  Utilities never touch that part of their stage, nor the
directory (`Stage.Stays`), but for `cd`, which goes somewhere and records where
(`Kind.run_moves`); a child has a copy of its own.  What is left is the command without
a name, which is not run at all.

`Command.run_cases` says once what a command can do to the variables and to the
directory.  Main statement: `run_vars`, with the frame of every command that has a name, and the
whole effect of one that has none.  A command is nameless where it has no words,
but also where its first word is empty (`empty_word_assigns`).
-/

namespace LineShell

/-! ## Stages -/

namespace Stage

/-- Two stages of a utility that has not moved: they differ at most in their streams. -/
structure Stays (st u : Stage) : Prop where
  scope : u.scope = st.scope
  directory : u.directory = st.directory

theorem Stays.refl (st : Stage) : st.Stays st := ⟨rfl, rfl⟩

theorem Stays.trans {st u v : Stage} (h : st.Stays u) (h' : u.Stays v) : st.Stays v :=
  ⟨h'.scope.trans h.scope, h'.directory.trans h.directory⟩

theorem stays_write (st : Stage) (bs : Bytes) : st.Stays (st.write bs).2 := ⟨rfl, rfl⟩

theorem stays_complain (st : Stage) (text : String) : st.Stays (st.complain text) := ⟨rfl, rfl⟩

end Stage

namespace Utility

theorem Echo.stays_body (c : Options.Choice) (st : Stage) : st.Stays (Echo.body c st).2 := by
  have hwrite := st.stays_write (bytesOf (Echo.text c.operands (!c.has "no-newline")))
  unfold Echo.body
  split <;> next h => rwa [h] at hwrite

theorem Pwd.stays_body (c : Options.Choice) (st : Stage) : st.Stays (Pwd.body c st).2 := by
  have hwrite := st.stays_write (bytesOf st.workingDirectory ++ bytesOf "\n")
  unfold Pwd.body Stage.writeLine
  split <;> next h => rwa [h] at hwrite

namespace Ls

theorem stays_one (all : Bool) (path : String) (st : Stage) : st.Stays (one all path st).2 := by
  unfold one
  split
  · exact .refl st
  · next names _ =>
    have hwrite := st.stays_write
      (bytesOf (String.join ((visible all names).map (· ++ "\n"))))
    split <;> next h => rwa [h] at hwrite

theorem stays_several (all : Bool) (lead : String) (dirs : List String) (st : Stage) :
    st.Stays (several all lead dirs st).2 := by
  induction dirs generalizing lead st with
  | nil => exact .refl st
  | cons dir rest ih =>
    have hwrite := st.stays_write (bytesOf (lead ++ dir ++ ":\n"))
    unfold several
    split
    · next h => rwa [h] at hwrite
    · next u h =>
      rw [h] at hwrite
      have hone := stays_one all (u.path dir) u
      split
      · next h' =>
        rw [h'] at hone
        exact hwrite.trans hone
      · next v h' =>
        rw [h'] at hone
        exact (hwrite.trans hone).trans (ih "\n" v)

theorem stays_body (c : Options.Choice) (st : Stage) : st.Stays (body c st).2 := by
  unfold body
  dsimp only
  split
  · have hone := stays_one (c.has "all") st.workingDirectory st
    split <;> next h => rwa [h] at hone
  · next dir _ =>
    have hone := stays_one (c.has "all") (st.path dir) st
    split <;> next h => rwa [h] at hone
  · exact stays_several (c.has "all") "" _ st

end Ls

/-- Where `cd` goes, it goes for good and records the path that it has found. -/
theorem Cd.body_cases (c : Options.Choice) (st : Stage) :
    (∃ e, Cd.body c st = (.error e, st)) ∨
    ∃ target l here, target? c st = some target ∧
      st.files.resolve st.directory (st.path target) = .ok l ∧
      st.files.directoryAt st.directory l.render = .ok here ∧
      Cd.body c st = (.ok 0, { st with
        directory := here, scope := st.scope.changeDirectory l.render }) := by
  unfold Cd.body
  split
  · exact .inl ⟨_, rfl⟩
  · next target htarget =>
    dsimp only
    split
    · exact .inl ⟨_, rfl⟩
    · next l hresolve =>
      split
      · exact .inl ⟨_, rfl⟩
      · next here hhere => exact .inr ⟨target, l, here, htarget, hresolve, hhere, rfl⟩

namespace Kind

/-- Only the body of a utility can move it. -/
theorem stays_run (k : Kind) (argv : List String) (st : Stage) :
    st.Stays (k.run argv st).2 ∨ ∃ c, (k.body c st).2.Stays (k.run argv st).2 := by
  unfold run
  cases k.parse argv.tail with
  | error e => exact .inl (st.stays_complain _)
  | ok request =>
    cases request with
    | help =>
      have hwrite := st.stays_write (bytesOf (k.form.help k.name))
      left
      dsimp only
      split <;> next h => rwa [h] at hwrite
    | run c =>
      refine .inr ⟨c, ?_⟩
      rcases hbody : k.body c st with ⟨r, u⟩
      simp only [hbody]
      cases r with
      | ok status =>
        dsimp only
        split <;> exact .refl u
      | error e =>
        dsimp only
        split <;> exact u.stays_complain _

/-- Of the utilities that run in the shell itself, only `cd` moves. -/
theorem run_moves {k : Kind} (hk : k.placement = .inProcess) (argv : List String) (st : Stage) :
    st.Stays (k.run argv st).2 ∨
    k = .cd ∧ ∃ p l here, st.files.resolve st.directory p = .ok l ∧
      st.files.directoryAt st.directory l.render = .ok here ∧
      (k.run argv st).2.directory = here ∧
      (k.run argv st).2.scope = st.scope.changeDirectory l.render := by
  rcases k.stays_run argv st with h | ⟨c, h⟩
  · exact .inl h
  · cases k with
    | echo => exact .inl ((Echo.stays_body c st).trans h)
    | pwd => exact .inl ((Pwd.stays_body c st).trans h)
    | ls => exact .inl ((Ls.stays_body c st).trans h)
    | cd =>
      rcases Cd.body_cases c st with ⟨e, hbody⟩ | ⟨target, l, here, -, hresolve, hhere, hbody⟩
      · left
        rwa [body, hbody] at h
      · rw [body, hbody] at h
        exact .inr ⟨rfl, _, l, here, hresolve, hhere, h.directory, h.scope⟩
    | cat => cases hk
    | wc => cases hk
    | grep => cases hk

end Kind

end Utility

/-! ## What is left of a command -/

namespace Surroundings

theorem vars_leave (s : Surroundings) (st : Stage) :
    (s.leave st).world.vars = st.scope.shared := by
  unfold leave
  split <;> rfl

theorem directory_leave (s : Surroundings) (st : Stage) :
    (s.leave st).world.directory = st.directory := by
  unfold leave
  split <;> rfl

theorem vars_handOver (s : Surroundings) (taken : Nat) :
    (s.handOver taken).world.vars = s.world.vars := by
  unfold handOver
  split <;> rfl

theorem directory_handOver (s : Surroundings) (taken : Nat) :
    (s.handOver taken).world.directory = s.world.directory := by
  unfold handOver
  split <;> rfl

end Surroundings

theorem Child.vars_run (host : Host) (t : Task) (c : Command) (s : Surroundings) :
    (Child.run host t c s).2.world.vars = s.world.vars :=
  s.vars_handOver _

theorem Child.directory_run (host : Host) (t : Task) (c : Command) (s : Surroundings) :
    (Child.run host t c s).2.world.directory = s.world.directory :=
  s.directory_handOver _

theorem Handler.ofName_assignment {name : String} (h : ofName name = .assignment) : name = "" := by
  unfold ofName at h
  split at h
  · assumption
  · split at h
    · cases h
    · split at h <;> cases h

theorem Handler.ofName_utility {name : String} {k : Utility.Kind} (h : ofName name = .utility k) :
    name = k.name := by
  unfold ofName at h
  split at h
  · cases h
  · split at h
    · cases h
    · split at h
      · next k' hk =>
        obtain rfl : k' = k := Handler.utility.inj h
        unfold Utility.Kind.ofName? at hk
        have hfound := List.find?_some hk
        exact (beq_iff_eq.1 hfound).symm
      · cases h

namespace Command

variable (host : Host) (c : Command) (s : Surroundings)

/-- What a command can do to the variables and to the directory. -/
theorem run_cases :
    (c.name = "" ∧ c.run host s = (.ok 0, c.assign s)) ∨
    (c.name ≠ "" ∧ (c.run host s).2.world.vars = s.world.vars ∧
      (c.run host s).2.world.directory = s.world.directory) ∨
    (c.name = "cd" ∧ ∃ p l here, s.world.files.resolve s.world.directory p = .ok l ∧
      s.world.files.directoryAt s.world.directory l.render = .ok here ∧
      (c.run host s).2.world.directory = here ∧
      (c.run host s).2.world.vars = s.world.vars.set workingDirectoryName l.render) := by
  by_cases hname : c.name = ""
  · refine .inl ⟨hname, ?_⟩
    have hhandler : Handler.ofName c.name = .assignment := by rw [hname]; rfl
    unfold run
    rw [hhandler]
  · refine .inr ?_
    unfold run
    split
    · next h => exact absurd (Handler.ofName_assignment h) hname
    · left
      split <;> exact ⟨hname, rfl, rfl⟩
    · next k h =>
      split
      · next hk =>
        unfold runInProcess
        dsimp only
        rw [s.vars_leave, s.directory_leave]
        rcases Utility.Kind.run_moves hk c.words (s.stage c.bindings) with
          hstays | ⟨rfl, p, l, here, hresolve, hhere, hdirectory, hscope⟩
        · exact .inl ⟨hname, congrArg Scope.shared hstays.scope, hstays.directory⟩
        · exact .inr ⟨Handler.ofName_utility h, p, l, here, hresolve, hhere, hdirectory,
            congrArg Scope.shared hscope⟩
      · exact .inl ⟨hname, Child.vars_run host _ c s, Child.directory_run host _ c s⟩
    · left
      split
      · exact ⟨hname, rfl, rfl⟩
      · exact ⟨hname, Child.vars_run host _ c s, Child.directory_run host _ c s⟩

/-- **Only nameless commands and `cd` write variables.**  Whatever comes of a
command that has a name, the variables of the shell stay as they are; if it is
`cd`, the one that records the working directory may change.  A command without
a name succeeds and does nothing but give its bindings to the shell, of which
the last one for a name counts. -/
theorem run_vars :
    (c.name ≠ "" →
      (c.name ≠ "cd" → (c.run host s).2.world.vars = s.world.vars) ∧
      ∀ n, n ≠ workingDirectoryName →
        (c.run host s).2.world.vars.get? n = s.world.vars.get? n) ∧
    (c.name = "" →
      c.run host s = (.ok 0, { s with
        world := { s.world with vars := (c.run host s).2.world.vars } }) ∧
      ∀ n, (c.run host s).2.world.vars.get? n =
        ((c.bindings.reverse.find? fun b => b.name = n).map Binding.value).or
          (s.world.vars.get? n)) := by
  rcases run_cases host c s with
    ⟨hname, hrun⟩ | ⟨hname, hvars, -⟩ | ⟨hname, -, l, -, -, -, -, hvars⟩
  · refine ⟨fun h => absurd hname h, fun _ => ?_⟩
    rw [hrun]
    exact ⟨rfl, s.world.vars.get?_bindAll c.bindings⟩
  · refine ⟨fun _ => ⟨fun _ => hvars, fun n _ => ?_⟩, fun h => absurd h hname⟩
    rw [hvars]
  · refine ⟨fun _ => ⟨fun h => absurd hname h, fun n hn => ?_⟩, fun h => ?_⟩
    · rw [hvars, Variables.get?_set, if_neg (Ne.symm hn)]
    · rw [hname] at h
      exact absurd h (by decide)

/-- A binding before a word, and two bindings without one. -/
theorem run_vars_echo :
    (Command.run (fun _ _ _ _ => .error .noEntry) (.ofWords ["A=1", "echo", "B=2"])
      ⟨⟨.empty, [], ⟨.directory []⟩, [], .empty⟩, .inherited, .memory⟩).2.world.vars = .empty ∧
    (Command.run (fun _ _ _ _ => .error .noEntry) (.ofWords ["A=1", "A=2"])
      ⟨⟨.empty, [], ⟨.directory []⟩, [], .empty⟩, .inherited, .memory⟩).2.world.vars.get? "A" =
        some "2" :=
  ⟨((run_vars _ _ _).1 (by decide)).1 (by decide), ((run_vars _ _ _).2 (by decide)).2 "A"⟩

/-- A command whose first word is empty gives its bindings to the shell, although it
has words. -/
theorem empty_word_assigns :
    (Command.ofWords ["A=1", ""]).words = [""] ∧
    Variables.empty.get? "A" = none ∧
    (Command.run (fun _ _ _ _ => .error .noEntry) (.ofWords ["A=1", ""])
      ⟨⟨.empty, [], ⟨.directory []⟩, [], .empty⟩, .inherited, .memory⟩).2.world.vars.get? "A" =
        some "1" := by
  decide

end Command

end LineShell
