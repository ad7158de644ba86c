import LineShell.Proofs.Command.Shifted
import LineShell.Session.Loop

/-!
# Lines do not see what has been written

A line of a session reads the variables, the directory, the files and the input, and
nothing of what earlier lines have written or of the status they have left.
`Session.Alike` relates two sessions that agree in what a line reads, and keeps
account of what their streams held before.  It is kept by every line
(`runLine_alike`), by a complaint and by a status.
-/

namespace LineShell.Session

/-- Two sessions, each with its output, that agree in everything a line reads, and
have written the same behind what their streams held before: behind `out` and `err`
the one, and behind `out'` and `err'` the other. -/
def Alike (out err out' err' : Bytes) (s : Session) (o : Sink) (s' : Session) (o' : Sink) :
    Prop :=
  ∃ base : Surroundings, base.Shifted out err ⟨s.world, .inherited, o⟩ ∧
    base.Shifted out' err' ⟨s'.world, .inherited, o'⟩

variable {out err out' err' : Bytes} {s s' : Session} {o o' : Sink}

/-- Sessions that agree in what a line reads have written nothing yet. -/
theorem Alike.start (hvars : s'.world.vars = s.world.vars)
    (hdirectory : s'.world.directory = s.world.directory)
    (hfiles : s'.world.files = s.world.files) (hunread : s'.world.unread = s.world.unread)
    (ho : o.Boundless) (ho' : o'.Boundless) :
    Alike o.written s.world.errors.bytes o'.written s'.world.errors.bytes s o s' o' := by
  refine ⟨⟨{ s.world with errors := .empty }, .inherited, .memory⟩, ?_, ?_⟩
  · exact ⟨rfl, rfl, rfl, rfl, rfl, ⟨rfl, rfl⟩, ho, (List.append_nil _).symm,
      (List.append_nil _).symm⟩
  · exact ⟨hvars, hdirectory, hfiles, hunread, rfl, ⟨rfl, rfl⟩, ho', (List.append_nil _).symm,
      (List.append_nil _).symm⟩

namespace Alike

theorem vars (h : Alike out err out' err' s o s' o') : s'.world.vars = s.world.vars := by
  obtain ⟨base, hs, hs'⟩ := h
  exact hs'.vars.trans hs.vars.symm

theorem directory (h : Alike out err out' err' s o s' o') :
    s'.world.directory = s.world.directory := by
  obtain ⟨base, hs, hs'⟩ := h
  exact hs'.directory.trans hs.directory.symm

theorem files (h : Alike out err out' err' s o s' o') : s'.world.files = s.world.files := by
  obtain ⟨base, hs, hs'⟩ := h
  exact hs'.files.trans hs.files.symm

theorem unread (h : Alike out err out' err' s o s' o') : s'.world.unread = s.world.unread := by
  obtain ⟨base, hs, hs'⟩ := h
  exact hs'.unread.trans hs.unread.symm

theorem boundless (h : Alike out err out' err' s o s' o') : o.Boundless ∧ o'.Boundless := by
  obtain ⟨base, hs, hs'⟩ := h
  exact ⟨hs.boundless', hs'.boundless'⟩

/-- What has been written since is the same. -/
theorem written (h : Alike out err out' err' s o s' o') :
    ∃ more complaints, o.written = out ++ more ∧ o'.written = out' ++ more ∧
      s.world.errors.bytes = err ++ complaints ∧ s'.world.errors.bytes = err' ++ complaints := by
  obtain ⟨base, hs, hs'⟩ := h
  exact ⟨_, _, hs.written, hs'.written, hs.errors, hs'.errors⟩

theorem withUnread (h : Alike out err out' err' s o s' o') (unread : Bytes) :
    Alike out err out' err' (s.withUnread unread) o (s'.withUnread unread) o' := by
  obtain ⟨base, hs, hs'⟩ := h
  refine ⟨{ base with world := { base.world with unread } }, ?_, ?_⟩
  · exact { hs with unread := rfl }
  · exact { hs' with unread := rfl }

theorem complain (h : Alike out err out' err' s o s' o') (text : String) (n n' : Status) :
    Alike out err out' err' ⟨s.world.complain text, n⟩ o ⟨s'.world.complain text, n'⟩ o' := by
  obtain ⟨base, hs, hs'⟩ := h
  refine ⟨{ base with world := base.world.complain text }, ?_, ?_⟩
  · exact { hs with errors := by simp [World.complain, hs.errors] }
  · exact { hs' with errors := by simp [World.complain, hs'.errors] }

theorem pipeline (h : Alike out err out' err' s o s' o') (line : String) :
    s'.pipeline line = s.pipeline line := by
  unfold Session.pipeline
  rw [h.vars]

end Alike

/-- **A line does not see what has been written.** -/
theorem runLine_alike (h : Alike out err out' err' s o s' o') (host : Host) (line : String) :
    ∃ r t p t' p', s.runLine host line .inherited o = (r, t, p) ∧
      s'.runLine host line .inherited o' = (r, t', p') ∧
      Alike out err out' err' t p t' p' := by
  unfold runLine
  rw [h.pipeline]
  cases s.pipeline line with
  | error e => exact ⟨_, _, _, _, _, rfl, rfl, h⟩
  | ok p =>
    obtain ⟨base, hs, hs'⟩ := h
    obtain ⟨r, u, v, hu, hv, hshift⟩ := Pipeline.run_same hs host p
    obtain ⟨r', u', v', hu', hv', hshift'⟩ := Pipeline.run_same hs' host p
    cases hu.symm.trans hu'
    have hboth : Alike out err out' err' ⟨v.world, 0⟩ v.output ⟨v'.world, 0⟩ v'.output := by
      refine ⟨{ u with input := .inherited }, ?_, ?_⟩
      · exact { hshift with input := rfl }
      · exact { hshift' with input := rfl }
    dsimp only
    rw [hv, hv']
    cases r with
    | ok status => exact ⟨_, _, _, _, _, rfl, rfl, hboth⟩
    | error e => exact ⟨_, _, _, _, _, rfl, rfl, hboth⟩

/-- Lines leave a sink that takes everything as such. -/
theorem boundless_runLine (host : Host) (line : String) (ho : o.Boundless) :
    (s.runLine host line .inherited o).2.2.Boundless := by
  have hsame := Alike.start (s := s) rfl rfl rfl rfl ho ho
  obtain ⟨r, t, p, t', p', hrun, -, halike⟩ := runLine_alike hsame host line
  rw [hrun]
  exact halike.boundless.1

end LineShell.Session
