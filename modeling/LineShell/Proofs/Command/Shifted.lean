import LineShell.Pipeline.Run
import LineShell.Proofs.Utility.Shifted

/-!
# Commands do not see what has been written

What the streams of a shell held before makes no difference to a command: it reads
variables, files and its input, and what it writes goes behind all the rest.
`Surroundings.Shifted` says of surroundings what `Stage.Shifted` says of stages.
It is kept by utilities in the shell, by children and so by every command
(`Command.run_same`) and every pipeline (`Pipeline.run_same`).
-/

namespace LineShell

namespace Surroundings

/-- Two surroundings that differ only in what their streams held before. -/
structure Shifted (out err : Bytes) (s s' : Surroundings) : Prop where
  vars : s'.world.vars = s.world.vars
  directory : s'.world.directory = s.world.directory
  files : s'.world.files = s.world.files
  unread : s'.world.unread = s.world.unread
  input : s'.input = s.input
  boundless : s.output.Boundless
  boundless' : s'.output.Boundless
  written : s'.output.written = out ++ s.output.written
  errors : s'.world.errors.bytes = err ++ s.world.errors.bytes

namespace Shifted

/-- Two outcomes that agree but for what the streams held before. -/
def Same {α : Type} (out err : Bytes) (p p' : α × Surroundings) : Prop :=
  ∃ (a : α) (s s' : Surroundings), p = (a, s) ∧ p' = (a, s') ∧ Shifted out err s s'

variable {out err : Bytes} {s s' : Surroundings}

theorem same {α : Type} (h : Shifted out err s s') (a : α) : Same out err (a, s) (a, s') :=
  ⟨a, s, s', rfl, rfl, h⟩

theorem source (h : Shifted out err s s') : s'.source = s.source := by
  unfold Surroundings.source
  rw [h.input, h.unread]

theorem scope (h : Shifted out err s s') (bindings : List Binding) :
    s'.scope bindings = s.scope bindings := by
  unfold Surroundings.scope
  rw [h.vars]

theorem stage (h : Shifted out err s s') (bindings : List Binding) :
    Stage.Shifted out err (s.stage bindings) (s'.stage bindings) where
  scope := h.scope bindings
  files := h.files
  directory := h.directory
  input := h.source
  taken := rfl
  boundless := h.boundless
  boundless' := h.boundless'
  written := h.written
  errors := h.errors

/-- What utilities leave differs no more than their stages do. -/
theorem leave (h : Shifted out err s s') {st st' : Stage} (hst : Stage.Shifted out err st st') :
    Shifted out err (s.leave st) (s'.leave st') := by
  have hunread : s'.world.unread.drop st'.taken = s.world.unread.drop st.taken := by
    rw [h.unread, hst.taken]
  unfold Surroundings.leave
  rw [h.input]
  cases s.input with
  | inherited =>
    exact ⟨congrArg Scope.shared hst.scope, hst.directory, h.files, hunread, rfl,
      hst.boundless, hst.boundless', hst.written, hst.errors⟩
  | buffered source =>
    exact ⟨congrArg Scope.shared hst.scope, hst.directory, h.files, h.unread,
      congrArg Input.buffered hst.input, hst.boundless, hst.boundless', hst.written, hst.errors⟩

theorem handOver (h : Shifted out err s s') (taken : Nat) :
    Shifted out err (s.handOver taken) (s'.handOver taken) := by
  unfold Surroundings.handOver
  rw [h.input]
  cases s.input with
  | inherited =>
    exact { h with
      unread := congrArg (List.drop taken) h.unread
      input := rfl }
  | buffered source => exact { h with input := rfl }

end Shifted

end Surroundings

open Surroundings (Shifted)
open Surroundings.Shifted (Same)

variable {out err : Bytes} {s s' : Surroundings}

/-! ## Children -/

namespace Child

/-- A child sees nothing of what has been written. -/
theorem perform_eq (h : Shifted out err s s') (host : Host) (t : Task) (c : Command)
    (bytes : Bytes) : perform host t c s' bytes = perform host t c s bytes := by
  have hutility : ∀ k, runUtility k c s' bytes = runUtility k c s bytes := by
    intro k
    have hst := h.stage c.bindings
    simp only [runUtility, hst.scope, hst.files, hst.directory, hst.taken, h.files]
  unfold perform
  rw [h.input, h.directory, h.files]
  simp only [hutility]

theorem collect_same (h : Shifted out err s s') (done : Completion) :
    Same out err (collect s done) (collect s' done) := by
  obtain ⟨hok, hboundless, hwritten⟩ := h.boundless.write done.output
  obtain ⟨hok', hboundless', hwritten'⟩ := h.boundless'.write done.output
  have hflush := hboundless.flush
  have hflush' := hboundless'.flush
  have hafter := h.handOver done.taken
  rcases hw : s.output.write done.output with ⟨r, o⟩
  rcases hw' : s'.output.write done.output with ⟨r', o'⟩
  rw [hw] at hok hboundless hwritten hflush
  rw [hw'] at hok' hboundless' hwritten' hflush'
  obtain rfl : r = .ok () := hok
  obtain rfl : r' = .ok () := hok'
  unfold collect
  simp only [hw, hw', hflush, hflush', h.source]
  refine Shifted.same ?_ _
  exact { hafter with
    files := rfl
    boundless := hboundless
    boundless' := hboundless'
    written := by rw [hwritten, hwritten', h.written, List.append_assoc]
    errors := by rw [Record.bytes_add, Record.bytes_add, h.errors, List.append_assoc] }

theorem run_same (h : Shifted out err s s') (host : Host) (t : Task) (c : Command) :
    Same out err (Child.run host t c s) (Child.run host t c s') := by
  unfold Child.run
  rw [perform_eq h, h.source]
  exact collect_same h _

end Child

/-! ## Commands -/

namespace Command

theorem runInProcess_same (h : Shifted out err s s') (k : Utility.Kind) (c : Command) :
    Same out err (runInProcess k c s) (runInProcess k c s') := by
  obtain ⟨status, u, u', hu, hu', hshift⟩ :=
    Utility.Kind.run_same k (h.stage c.bindings) c.words
  unfold runInProcess
  rw [hu, hu']
  exact (h.leave hshift).same _

/-- **A command does not see what has been written.** -/
theorem run_same (h : Shifted out err s s') (host : Host) (c : Command) :
    Same out err (c.run host s) (c.run host s') := by
  unfold run
  cases Handler.ofName c.name with
  | assignment =>
    refine Shifted.same ?_ _
    exact { h with vars := congrArg (fun vs => Variables.bindAll vs c.bindings) h.vars }
  | exit =>
    cases exitStatus c.args with
    | ok code => exact h.same _
    | error a => exact h.same _
  | utility k =>
    dsimp only
    cases k.placement with
    | inProcess => exact runInProcess_same h k c
    | detached => exact Child.run_same h host _ c
  | program =>
    rw [h.scope, h.files, h.directory]
    cases Program.resolve c (s.scope c.bindings) s.world.files s.world.directory with
    | error e => exact h.same _
    | ok p => exact Child.run_same h host _ c

end Command

/-! ## Pipelines -/

/-- **A pipeline does not see what has been written.** -/
theorem Pipeline.run_same (h : Shifted out err s s') (host : Host) (p : Pipeline) :
    Same out err (p.run host s) (p.run host s') := by
  induction p generalizing s s' with
  | nil => exact h.same _
  | cons c rest ih =>
    cases rest with
    | nil => exact Command.run_same h host c
    | cons d rest =>
      have hmemory : Shifted [] err { s with output := .memory } { s' with output := .memory } :=
        { h with
          boundless := ⟨rfl, rfl⟩
          boundless' := ⟨rfl, rfl⟩
          written := rfl }
      obtain ⟨r, u, u', hu, hu', hshift⟩ := Command.run_same hmemory host c
      unfold Pipeline.run
      rw [hu, hu']
      cases r with
      | error e =>
        refine Shifted.same ?_ _
        exact { hshift with
          boundless := h.boundless
          boundless' := h.boundless'
          written := h.written }
      | ok status =>
        refine ih ?_
        exact { hshift with
          input := congrArg Input.ofBytes hshift.written
          boundless := h.boundless
          boundless' := h.boundless'
          written := h.written }

end LineShell
