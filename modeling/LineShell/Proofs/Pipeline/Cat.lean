import LineShell.Proofs.Command.Detached
import LineShell.Proofs.Command.Shifted
import LineShell.Proofs.Pipeline.Composition
import LineShell.Proofs.Utility.Content

/-!
# A copy makes no difference to a pipeline

`cat` without a file copies its input and leaves nothing else behind
(`Command.run_copying`).  So what follows it in a pipeline finds the same
surroundings as without it (`Pipeline.run_copying_cons`), wherever the input is a
stream that lies ready and does not fail.  That is the case behind every command
of a pipeline, whatever the command is.

Only behind the last command a copy can be seen: its status is that of the
pipeline, and a status other than zero is lost.  Main statement: `run_with_copy`.
-/

namespace LineShell

/-- The commands that copy their input. -/
def Command.copying : List Command := [.ofWords ["cat"], .ofWords ["cat", "-"]]

theorem Command.exists_of_mem_copying {c : Command} (h : c ∈ copying) :
    ∃ args, (args = [] ∨ args = ["-"]) ∧ c = ⟨[], "cat" :: args⟩ := by
  simp only [copying, List.mem_cons, List.not_mem_nil, or_false] at h
  rcases h with rfl | rfl
  · exact ⟨[], .inl rfl, by decide⟩
  · exact ⟨["-"], .inr rfl, by decide⟩

section

variable (host : Host) {c : Command} (hc : c ∈ Command.copying)
include hc

/-- A copy is all that the command does. -/
theorem Command.run_copying (w : World) (bytes : Bytes) {out : Sink} (hout : out.Boundless) :
    c.run host ⟨w, .ofBytes bytes, out⟩ = (.ok 0, ⟨w, .ofBytes [], (out.write bytes).2⟩) := by
  obtain ⟨args, hargs, rfl⟩ := Command.exists_of_mem_copying hc
  have hrun := Command.run_of_mem (k := .cat) List.mem_cons_self [] args host w bytes out
  have hchild := Child.runUtility_cat hargs ⟨w, .ofBytes bytes, out⟩ bytes
  have hstatus : (Ending.ofStatus 0).status = .ok 0 := rfl
  refine hrun.trans ?_
  rw [Utility.Kind.name, hchild]
  exact Child.collect_eq hout hstatus

namespace Pipeline

/-- **In front of a pipeline a copy cannot be seen**, if the input lies ready. -/
theorem run_copying_cons {p : Pipeline} (hp : p ≠ []) (w : World) (bytes : Bytes) (out : Sink) :
    Pipeline.run host (c :: p) ⟨w, .ofBytes bytes, out⟩ =
      p.run host ⟨w, .ofBytes bytes, out⟩ := by
  have hout : Sink.memory.Boundless := ⟨rfl, rfl⟩
  have hwritten : (Sink.memory.write bytes).2.written = bytes := (hout.write bytes).2.2
  have hcopy := Command.run_copying host hc w bytes hout
  rw [run_cons host c hp]
  simp only [hcopy, Surroundings.pipe, hwritten]

/-- **Between two commands a copy cannot be seen.** -/
theorem run_copying_between {p q : Pipeline} (hp : p ≠ []) (hq : q ≠ []) (s : Surroundings) :
    Pipeline.run host (p ++ c :: q) s = Pipeline.run host (p ++ q) s := by
  rw [run_append host hp (List.cons_ne_nil c q), run_append host hp hq]
  rcases p.run host { s with output := .memory } with ⟨_ | _, t⟩
  · rfl
  · exact run_copying_cons host hc hq t.world t.output.written s.output

/-- Behind a pipeline that succeeds a copy keeps everything but the status. -/
theorem run_copying_behind {p : Pipeline} (hp : p ≠ []) {s t : Surroundings}
    (hout : s.output.Boundless) {status : Status} (h : p.run host s = (.ok status, t)) :
    ∃ t', Pipeline.run host (p ++ [c]) s = (.ok 0, t') ∧
      t'.output.written = t.output.written ∧ t'.world.vars = t.world.vars ∧
      t'.world.directory = t.world.directory ∧ t'.world.files = t.world.files := by
  have hshift : Surroundings.Shifted s.output.written [] { s with output := .memory } s :=
    ⟨rfl, rfl, rfl, rfl, rfl, ⟨rfl, rfl⟩, hout, (List.append_nil _).symm, rfl⟩
  obtain ⟨r, u, u', hu, hu', hsame⟩ := run_same hshift host p
  obtain ⟨rfl, rfl⟩ : r = .ok status ∧ u' = t := Prod.mk.inj (hu'.symm.trans h)
  have hcopy := Command.run_copying host hc u.world u.output.written hout
  refine ⟨⟨u.world, .ofBytes [], (s.output.write u.output.written).2⟩, ?_, ?_,
    hsame.vars.symm, hsame.directory.symm, hsame.files.symm⟩
  · rw [run_append host hp (List.cons_ne_nil c [])]
    simp only [hu]
    exact hcopy
  · rw [hsame.written]
    exact (hout.write u.output.written).2.2

end Pipeline

end

namespace Pipeline

variable (host : Host)

/-- A row of copies is one copy. -/
theorem run_copies {p : Pipeline} (hp : p ≠ []) (hcopies : ∀ c ∈ p, c ∈ Command.copying) (w : World)
    (bytes : Bytes) {out : Sink} (hout : out.Boundless) :
    p.run host ⟨w, .ofBytes bytes, out⟩ = (.ok 0, ⟨w, .ofBytes [], (out.write bytes).2⟩) := by
  induction p with
  | nil => exact absurd rfl hp
  | cons c rest ih =>
    obtain ⟨hc, hrest⟩ := List.forall_mem_cons.1 hcopies
    by_cases hne : rest = []
    · subst hne
      exact Command.run_copying host hc w bytes hout
    · rw [run_copying_cons host hc hne]
      exact ih hne hrest

/-- **A copy is neutral in a pipeline.**  Between two commands it changes nothing, and
neither does it before the first one, if that reads a stream that lies ready and
does not fail.  Behind the last one, which has come to a status, it keeps what has
been written and makes the status zero, if the output takes everything.  So a
row of copies passes its input on as it is. -/
theorem run_with_copy {c : Command} (hc : c ∈ Command.copying) :
    (∀ {p q : Pipeline} (s : Surroundings), p ≠ [] → q ≠ [] →
      Pipeline.run host (p ++ c :: q) s = Pipeline.run host (p ++ q) s) ∧
    (∀ {p : Pipeline} {s t : Surroundings} {status : Status}, p ≠ [] →
      (∀ bs, (s.output.write bs).1 = .ok ()) → s.output.flush = .ok () →
      p.run host s = (.ok status, t) →
      ∃ t', Pipeline.run host (p ++ [c]) s = (.ok 0, t') ∧
        t'.output.written = t.output.written ∧ t'.world.vars = t.world.vars ∧
        t'.world.directory = t.world.directory ∧ t'.world.files = t.world.files) ∧
    (∀ {p : Pipeline} {source : Source} (w : World) (out : Sink), p ≠ [] → source.fault = none →
      Pipeline.run host (c :: p) ⟨w, .buffered source, out⟩ =
        p.run host ⟨w, .buffered source, out⟩) ∧
    ∀ {p : Pipeline} {out : Sink} (w : World) (bytes : Bytes), p ≠ [] →
      (∀ d ∈ p, d ∈ Command.copying) → (∀ bs, (out.write bs).1 = .ok ()) → out.flush = .ok () →
      ∃ t, p.run host ⟨w, .ofBytes bytes, out⟩ = (.ok 0, t) ∧ t.world = w ∧
        t.output.written = out.written ++ bytes := by
  refine ⟨fun s hp hq => run_copying_between host hc hp hq s,
    fun hp hwrite hflush h => ?_, fun {p source} w out hp hfault => ?_,
    fun w bytes hp hcopies hwrite hflush => ?_⟩
  · exact run_copying_behind host hc hp (Sink.boundless_of_never_fails hwrite hflush) h
  · obtain ⟨bytes, fault⟩ := source
    obtain rfl : fault = none := hfault
    exact run_copying_cons host hc hp w bytes out
  · have hout := Sink.boundless_of_never_fails hwrite hflush
    exact ⟨_, run_copies host hp hcopies w bytes hout, rfl, (hout.write bytes).2.2⟩

/-- A copy behind a command that writes, before one that leaves the shell, and alone. -/
theorem run_with_copy_echo :
    let host : Host := fun _ _ _ _ => .error .noEntry
    let w : World := ⟨.empty, [], ⟨.directory []⟩, [], .empty⟩
    let echo : Pipeline := [.ofWords ["echo"]]
    let leave : Pipeline := [.ofWords ["exit", "3"]]
    let cat : Command := .ofWords ["cat", "-"]
    Pipeline.run host (echo ++ cat :: leave) ⟨w, .inherited, .memory⟩ =
      Pipeline.run host (echo ++ leave) ⟨w, .inherited, .memory⟩ ∧
    (∃ t, Pipeline.run host (echo ++ [cat]) ⟨w, .inherited, .memory⟩ = (.ok 0, t) ∧
      t.output.written = [10] ∧ t.world.vars = .empty ∧
      t.world.directory = [] ∧ t.world.files = ⟨.directory []⟩) ∧
    Pipeline.run host (cat :: leave) ⟨w, .ofBytes [255], .memory⟩ =
      leave.run host ⟨w, .ofBytes [255], .memory⟩ ∧
    ∃ t, Pipeline.run host [cat, cat] ⟨w, .ofBytes [255], .memory⟩ = (.ok 0, t) ∧ t.world = w ∧
      t.output.written = [255] := by
  intro host w echo leave cat
  have hcat : cat ∈ Command.copying := List.mem_cons_of_mem _ List.mem_cons_self
  have hecho : echo.run host ⟨w, .inherited, .memory⟩ =
      (.ok 0, ⟨w, .inherited, (Sink.memory.write ([10])).2⟩) := by
    rfl
  obtain ⟨hbetween, hbehind, hbefore, hchain⟩ := run_with_copy host hcat
  refine ⟨hbetween _ (List.cons_ne_nil _ _) (List.cons_ne_nil _ _),
    hbehind (List.cons_ne_nil _ _) (fun _ => rfl) rfl hecho,
    hbefore w .memory (List.cons_ne_nil _ _) rfl,
    hchain w [255] (List.cons_ne_nil _ _) (fun d hd => ?_) (fun _ => rfl) rfl⟩
  simp only [List.mem_cons, List.not_mem_nil, or_false, or_self] at hd
  exact hd ▸ hcat

end Pipeline

end LineShell
