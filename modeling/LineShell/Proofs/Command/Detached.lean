import LineShell.Pipeline.Run
import LineShell.Proofs.Detached.Alone
import LineShell.Proofs.Utility.Content

/-!
# Utilities in a child

A utility that reads its input runs in a child, which is given a copy of the
stage and an output of its own.  Seen from outside this makes no difference: the
child comes to the status that the utility comes to in the shell itself, and
the same bytes arrive, wherever the utility stops reading.

Main statement: `run_detached_eq`.  It says so of a child that has ended, and of a
parent and a child that go on step by step, in any order of their steps
(`Child.finished_eq_collect`).
-/

namespace LineShell

/-- A status that fits into a byte comes through the end of a child. -/
theorem Ending.status_ofStatus {status : Status} (hpos : 0 ≤ status) (hlt : status < 256) :
    (Ending.ofStatus status).status = .ok status := by
  have hmod : ((status % 256).toNat : Int) = status := by
    rw [Int.emod_eq_of_lt hpos hlt, Int.toNat_of_nonneg hpos]
  exact congrArg Except.ok hmod

/-! ## Copying -/

namespace Utility

theorem Cat.all_input {st : Stage} (hout : st.output.Boundless) (hfault : st.input.fault = none) :
    Cat.all ["-"] st =
      (.ok 0, { st.drain with output := (st.output.write st.input.bytes).2 }) := by
  rw [Cat.all, if_pos (isInputName_iff.2 rfl), Cat.input_eq hout hfault]
  rfl

theorem Kind.run_cat {args : List String} (hargs : args = [] ∨ args = ["-"]) (st : Stage)
    (hout : st.output.Boundless) (hfault : st.input.fault = none) :
    Kind.cat.run ("cat" :: args) st =
      (.ok 0, { st.drain with output := (st.output.write st.input.bytes).2 }) := by
  have hbody : ∀ operands, operands = [] ∨ operands = ["-"] →
      Kind.cat.body ⟨[], [], operands⟩ st =
        (.ok 0, { st.drain with output := (st.output.write st.input.bytes).2 }) := by
    rintro operands (rfl | rfl)
    · exact Cat.all_input hout hfault
    · exact Cat.all_input hout hfault
  have hflush := (hout.write st.input.bytes).2.1.flush
  rw [Kind.run, List.tail_cons, Kind.parse_operandsOnly rfl]
  simp only [hbody args hargs, hflush]

end Utility

/-! ## Seen from the parent -/

namespace Child

/-- The stage of a utility in a child. -/
def stage (c : Command) (s : Surroundings) (bytes : Bytes) : Stage :=
  { s.stage c.bindings with input := .ofBytes bytes, output := .memory, errors := .empty }

/-- The stage in a child is the stage in the shell with nothing written yet. -/
theorem stage_shifted (c : Command) (w : World) (bytes : Bytes) {out : Sink}
    (h : out.Boundless) :
    Stage.Shifted out.written w.errors.bytes (stage c ⟨w, .ofBytes bytes, out⟩ bytes)
      (Surroundings.stage ⟨w, .ofBytes bytes, out⟩ c.bindings) where
  scope := rfl
  files := rfl
  directory := rfl
  input := rfl
  taken := rfl
  boundless := ⟨rfl, rfl⟩
  boundless' := h
  written := (List.append_nil _).symm
  errors := (List.append_nil _).symm

/-- What a child does that carries out a utility to a status. -/
theorem runUtility_eq {k : Utility.Kind} {c : Command} {s : Surroundings} {bytes : Bytes}
    {status : Status} {u : Stage} (h : k.run c.words (stage c s bytes) = (.ok status, u)) :
    runUtility k c s bytes =
      ⟨u.taken, u.output.written, u.errors.bytes, .ofStatus status, s.world.files⟩ := by
  unfold runUtility
  rw [stage] at h
  simp only [h, List.append_nil]

/-- What a source that does not fail and a sink without bound make of a child. -/
theorem collect_eq {w : World} {bytes : Bytes} {out : Sink} (h : out.Boundless)
    {done : Completion} {status : Status} (hstatus : done.ending.status = .ok status) :
    collect ⟨w, .ofBytes bytes, out⟩ done =
      (.ok status,
        ⟨{ w with errors := w.errors.add done.errors, files := done.files }, .ofBytes [],
          (out.write done.output).2⟩) := by
  obtain ⟨hok, hboundless, -⟩ := h.write done.output
  have hfeed := feed_of_fault_eq_none (s := .ofBytes bytes) rfl done.taken
  have hflush := hboundless.flush
  rcases hw : out.write done.output with ⟨r, out'⟩
  rw [hw] at hok hflush
  obtain rfl : r = .ok () := hok
  unfold collect
  simp only [hw, hstatus, hflush]
  simp only [Surroundings.source, Surroundings.handOver, Input.ofBytes, hfeed]
  rfl

/-- What comes of a utility in a child is what comes of it in the shell. -/
theorem collect_runUtility {k : Utility.Kind} (hk : k ∈ [Utility.Kind.cat, .wc, .grep])
    (c : Command) (w : World) (bytes : Bytes) {out : Sink} (h : out.Boundless) :
    ∃ (status : Status) (inShell : Stage) (w' : World) (input : Input) (out' : Sink),
      k.run c.words (Surroundings.stage ⟨w, .ofBytes bytes, out⟩ c.bindings) =
        (.ok status, inShell) ∧
      collect ⟨w, .ofBytes bytes, out⟩ (runUtility k c ⟨w, .ofBytes bytes, out⟩ bytes) =
        (.ok status, ⟨w', input, out'⟩) ∧
      out'.written = inShell.output.written ∧
      w'.errors.bytes = inShell.errors.bytes ∧
      w'.vars = w.vars := by
  obtain ⟨status, u, u', hchild, hshell, hshift, hpos, hlt⟩ :=
    Utility.Kind.run_shifted hk (stage_shifted c w bytes h) c.words
  have hstatus : (Ending.ofStatus status).status = .ok status := Ending.status_ofStatus hpos hlt
  rw [runUtility_eq hchild]
  refine ⟨status, u', _, _, _, hshell, collect_eq h hstatus, ?_, ?_, rfl⟩
  · obtain ⟨-, -, hwritten⟩ := h.write u.output.written
    rw [hwritten, hshift.written]
  · rw [Record.bytes_add, hshift.errors]

/-- However the steps of a child and its parent follow each other, and whatever its channels
hold, they come to what the parent makes of the completion that the child's program carries
out. -/
theorem finished_eq_collect (w : World) (bytes : Bytes) {out : Sink} (hout : out.Boundless)
    {σ : Type} {plan : Detached.Plan σ} (hsource : plan.source = .ofBytes bytes)
    (hsink : plan.sink = out) {done : Completion} (hdone : plan.CarriesOut done)
    {s : Detached.State σ} {fed drained : Except Fault Unit} {ending : Ending}
    (h : Detached.Reachable plan s) (hf : s.Finished fed drained ending) :
    Detached.outcome fed drained ending s.sink = (collect ⟨w, .ofBytes bytes, out⟩ done).1 ∧
      s.sink.written = (collect ⟨w, .ofBytes bytes, out⟩ done).2.output.written := by
  have hfault : plan.source.fault = none := congrArg Source.fault hsource
  have hinput : Input.ofBytes bytes = .buffered plan.source := congrArg Input.buffered hsource.symm
  obtain ⟨htaken, hproduced, hending⟩ := hf.carriesOut h (hsink ▸ hout) hdone
  obtain ⟨hwritten, houtcome⟩ := hf.collect (u := ⟨w, .ofBytes bytes, out⟩) h (.inl hfault) hinput
    hsink.symm htaken hproduced hending
  exact ⟨houtcome.resolve_right fun hfails => hfails.1 hfault, hwritten⟩

/-- What a copy in a child does. -/
theorem runUtility_cat {args : List String} (hargs : args = [] ∨ args = ["-"])
    (s : Surroundings) (bytes : Bytes) :
    runUtility .cat ⟨[], "cat" :: args⟩ s bytes =
      ⟨bytes.length, bytes, [], .ofStatus 0, s.world.files⟩ := by
  have hout : Sink.memory.Boundless := ⟨rfl, rfl⟩
  have hcopy := Utility.Kind.run_cat hargs (stage ⟨[], "cat" :: args⟩ s bytes) hout rfl
  rw [runUtility_eq hcopy]
  congr 1
  · exact Nat.zero_add _
  · exact (hout.write bytes).2.2

end Child

namespace Command

theorem handler_of_kind (k : Utility.Kind) : Handler.ofName k.name = .utility k := by
  cases k <;> decide

theorem placement_of_mem {k : Utility.Kind} (hk : k ∈ [Utility.Kind.cat, .wc, .grep]) :
    k.placement = .detached := by
  simp only [List.mem_cons, List.not_mem_nil, or_false] at hk
  rcases hk with rfl | rfl | rfl <;> rfl

/-- These utilities run in a child. -/
theorem run_of_mem {k : Utility.Kind} (hk : k ∈ [Utility.Kind.cat, .wc, .grep])
    (bindings : List Binding) (args : List String) (host : Host) (w : World) (bytes : Bytes)
    (out : Sink) :
    Command.run host ⟨bindings, k.name :: args⟩ ⟨w, .ofBytes bytes, out⟩ =
      Child.collect ⟨w, .ofBytes bytes, out⟩
        (Child.runUtility k ⟨bindings, k.name :: args⟩ ⟨w, .ofBytes bytes, out⟩ bytes) := by
  have hname : Handler.ofName (Command.name ⟨bindings, k.name :: args⟩) = .utility k :=
    handler_of_kind k
  unfold Command.run
  simp only [hname, placement_of_mem hk]
  rfl

/-- **It makes no difference that a utility runs in a child.**  The command comes to
the status that the utility comes to in the shell itself, the same bytes arrive
in the sink and in the stream of complaints, and the variables of the shell stay
as they are.  The same status and bytes come of a child whose program carries out the
utility step by step, in whatever order it, its feeder and its drainer go on. -/
theorem run_detached_eq {k : Utility.Kind} (hk : k ∈ [Utility.Kind.cat, .wc, .grep])
    (bindings : List Binding) (args : List String) (host : Host) (w : World) (bytes : Bytes)
    {out : Sink} (hwrite : ∀ bs, (out.write bs).1 = .ok ()) (hflush : out.flush = .ok ()) :
    ∃ (status : Status) (inShell : Stage) (w' : World) (input : Input) (out' : Sink),
      k.run (k.name :: args) (Surroundings.stage ⟨w, .ofBytes bytes, out⟩ bindings) =
        (.ok status, inShell) ∧
      Command.run host ⟨bindings, k.name :: args⟩ ⟨w, .ofBytes bytes, out⟩ =
        (.ok status, ⟨w', input, out'⟩) ∧
      out'.written = inShell.output.written ∧
      w'.errors.bytes = inShell.errors.bytes ∧
      w'.vars = w.vars ∧
      ∀ {σ : Type} {plan : Detached.Plan σ} {s : Detached.State σ} {fed drained ending},
        plan.source = .ofBytes bytes → plan.sink = out →
        plan.CarriesOut (Child.runUtility k ⟨bindings, k.name :: args⟩
          ⟨w, .ofBytes bytes, out⟩ bytes) →
        Detached.Reachable plan s → s.Finished fed drained ending →
          Detached.outcome fed drained ending s.sink = .ok status ∧
          s.sink.written = inShell.output.written := by
  have hout := Sink.boundless_of_never_fails hwrite hflush
  obtain ⟨status, inShell, w', input, out', hshell, hcollect, hwritten, herrors, hvars⟩ :=
    Child.collect_runUtility hk ⟨bindings, k.name :: args⟩ w bytes hout
  rw [run_of_mem hk]
  refine ⟨status, inShell, w', input, out', hshell, hcollect, hwritten, herrors, hvars, ?_⟩
  intro σ plan s fed drained ending hsource hsink hdone h hf
  have hsame := Child.finished_eq_collect w bytes hout hsource hsink hdone h hf
  rw [hcollect] at hsame
  exact ⟨hsame.1, hsame.2.trans hwritten⟩

/-- A search that meets bytes that are no text in its second line, and a copy of two bytes
that is carried out byte by byte. -/
theorem run_detached_eq_grep_cat :
    let w : World := ⟨.empty, [], ⟨.directory []⟩, [], .empty⟩
    let host : Host := fun _ _ _ _ => .error .noEntry
    (∃ (status : Status) (inShell : Stage) (w' : World) (input : Input) (out' : Sink),
      Utility.Kind.grep.run ["grep", "a"]
          (Surroundings.stage ⟨w, .ofBytes [97, 10, 255, 10, 97], .memory⟩ [⟨"LANG", "C"⟩]) =
        (.ok status, inShell) ∧
      Command.run host ⟨[⟨"LANG", "C"⟩], ["grep", "a"]⟩
          ⟨w, .ofBytes [97, 10, 255, 10, 97], .memory⟩ =
        (.ok status, ⟨w', input, out'⟩) ∧
      out'.written = inShell.output.written ∧
      w'.errors.bytes = inShell.errors.bytes ∧
      w'.vars = .empty) ∧
    ∃ (w' : World) (input : Input) (out' : Sink) (s : Detached.State (Option Bytes)),
      Command.run host ⟨[], ["cat"]⟩ ⟨w, .ofBytes [1, 2], .memory⟩ =
        (.ok 0, ⟨w', input, out'⟩) ∧
      out'.written = [1, 2] ∧
      Detached.Reachable (.copying (.ofBytes [1, 2]) .memory) s ∧
      s.Finished (.ok ()) (.ok ()) (.exited 0) ∧
      Detached.outcome (.ok ()) (.ok ()) (.exited 0) s.sink = .ok 0 ∧
      s.sink.written = [1, 2] := by
  intro w host
  have hout : Sink.memory.Boundless := ⟨rfl, rfl⟩
  constructor
  · obtain ⟨status, inShell, w', input, out', hshell, hrun, hwritten, herrors, hvars, -⟩ :=
      run_detached_eq (k := .grep) (by decide) [⟨"LANG", "C"⟩] ["a"] host w
        [97, 10, 255, 10, 97] (fun bs => (hout.write bs).1) hout.flush
    exact ⟨status, inShell, w', input, out', hshell, hrun, hwritten, herrors, hvars⟩
  · obtain ⟨status, inShell, w', input, out', hshell, hrun, hwritten, -, -, hsteps⟩ :=
      run_detached_eq (k := .cat) (by decide) [] [] host w [1, 2]
        (fun bs => (hout.write bs).1) hout.flush
    have hcopy := Utility.Kind.run_cat (.inl rfl)
      (Surroundings.stage ⟨w, .ofBytes [1, 2], .memory⟩ []) hout rfl
    obtain ⟨hstatus, rfl⟩ := Prod.mk.inj (hcopy.symm.trans hshell)
    obtain rfl : 0 = status := Except.ok.inj hstatus
    obtain ⟨s, h, hf, -⟩ := Detached.copying_finishes
    have hcarries : (Detached.Plan.copying (.ofBytes [1, 2]) .memory).CarriesOut
        (Child.runUtility .cat ⟨[], ["cat"]⟩ ⟨w, .ofBytes [1, 2], .memory⟩ [1, 2]) := by
      rw [Child.runUtility_cat (.inl rfl)]
      exact Detached.copying_carriesOut _ _ _
    obtain ⟨houtcome, hsink⟩ := hsteps rfl rfl hcarries h hf
    exact ⟨w', input, out', s, hrun, hwritten, h, hf, houtcome, hsink⟩

end Command

end LineShell
