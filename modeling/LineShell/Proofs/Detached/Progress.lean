import LineShell.Proofs.Detached.Invariant

/-!
# A child and its parent never wait for each other

Where the feeder waits, its channel is full and the child can read.  Where the
child waits for its input, the channel is empty and the feeder can write or has
closed it; where it waits for its output, that channel is full and the drainer
can read.  And where the drainer waits, the child has neither written anything
nor ended.  So somebody can always go on, until all three have finished.

Main statement: `Reachable.progress_and_streams`.  `Finished.collect` compares
the end of a run with `Child.collect`, which knows nothing of steps.
-/

namespace LineShell

/-- Feeding a child fails only where the source does. -/
theorem Child.feed_of_fault_eq_none {s : Source} (h : s.fault = none) (taken : Nat) :
    feed s taken = .ok () := by
  unfold feed
  split
  · rfl
  · rw [Source.atEnd, h]
    rfl

namespace Detached

variable {σ : Type} {plan : Plan σ} {s : State σ}

/-! ## One party at a time -/

namespace Kept

/-- A feeder that has bytes to write can write one if its channel is empty, and
fails if nobody reads. -/
theorem feeder_writes (hi : Kept plan s) {held : Nat} (at_ : s.feeder = .writing held)
    (h : s.input.content = [] ∨ ¬ s.input.hasReader) : ∃ t, FeederStep plan s t := by
  have huse : s.input.parent.use .write = .ok () := by
    rw [hi.inputParent, at_]
    exact Channel.writer_use
  by_cases hreader : s.input.hasReader
  · rcases h with hempty | hnone
    · have hheld : 0 < held ∧ held ≤ s.unsent.length := by
        have hfed := hi.fed
        rw [at_] at hfed
        exact hfed
      refine ⟨_, .write held 1 at_ huse hreader Nat.one_pos hheld.1 ?_⟩
      rw [hempty]
      exact plan.inputRoom_pos
    · exact absurd hreader hnone
  · exact ⟨_, .breaks held at_ huse hreader⟩

/-- A feeder that has been started can go on, has bytes to write or has finished. -/
theorem feeder_cases (hstarted : s.feeder.started) (hi : Kept plan s) :
    (∃ t, FeederStep plan s t) ∨ (∃ held, s.feeder = .writing held) ∨ s.feeder.isFinished := by
  cases hf : s.feeder with
  | undeclared | declared =>
    rw [hf] at hstarted
    cases hstarted
  | reading =>
    left
    by_cases hall : s.unsent = []
    · exact ⟨_, .readEnd hf hall⟩
    · exact ⟨_, .read 1 hf Nat.one_pos (List.length_pos_iff.2 hall)⟩
  | writing held => exact .inr (.inl ⟨held, rfl⟩)
  | closing result =>
    left
    cases result with
    | ok =>
      refine ⟨_, .close Channel.writer.dropped hf ?_⟩
      rw [hi.inputParent, hf]
      exact Channel.writer_closeWrite
    | error f => exact ⟨_, .giveUp f hf⟩
  | finished result => exact .inr (.inr rfl)

/-- A drainer that has not begun to read can declare its channels. -/
theorem drainer_declares (hi : Kept plan s) (at_ : s.drainer = .declaring) :
    ∃ t, DrainerStep s t := by
  have hstarted := hi.started
  rw [at_] at hstarted
  cases hf : s.feeder with
  | undeclared =>
    refine ⟨_, .declareInput Channel.writer at_ hf ?_⟩
    rw [hi.inputParent, hf]
    exact Channel.new_register_write
  | declared =>
    refine ⟨_, .declareOutput Channel.reader at_ hf ?_⟩
    rw [hi.outputParent, at_]
    exact Channel.new_register_read
  | _ =>
    rw [hf] at hstarted
    cases hstarted

end Kept

namespace Sound

/-- A child can connect its channels, is running or has ended. -/
theorem child_cases (hi : Sound plan s) :
    (∃ t, ChildStep plan s t) ∨ (∃ m, s.child = .running m) ∨
      ∃ ending, s.child = .exited ending := by
  cases hc : s.child with
  | connectInput =>
    left
    refine ⟨_, .connectInput Channel.reader hc ?_ Channel.reader_use⟩
    rw [hi.inputChild, hc]
    exact Channel.new_register_read
  | connectOutput =>
    left
    refine ⟨_, .connectOutput Channel.writer hc ?_ Channel.writer_use⟩
    rw [hi.outputChild, hc]
    exact Channel.new_register_write
  | running m => exact .inr (.inl ⟨m, rfl⟩)
  | exited ending => exact .inr (.inr ⟨ending, rfl⟩)

/-- A running child can go on, or the feeder can, wherever nothing keeps the
child from writing. -/
theorem child_runs (hi : Sound plan s) {m : σ} (at_ : s.child = .running m)
    (hfeeder : (∃ held, s.feeder = .writing held) ∨ s.feeder.isFinished)
    (h : s.output.content = [] ∨ ¬ s.output.hasReader) : ∃ t, Step plan s t := by
  have hinput : s.input.child.use .read = .ok () := by
    rw [hi.inputChild, at_]
    exact Channel.reader_use
  have houtput : s.output.child.use .write = .ok () := by
    rw [hi.outputChild, at_]
    exact Channel.writer_use
  cases request : plan.program m with
  | read most positive next =>
    by_cases hempty : s.input.content = []
    · rcases hfeeder with ⟨held, hwriting⟩ | hfinished
      · obtain ⟨t, ht⟩ := hi.feeder_writes hwriting (.inl hempty)
        exact ⟨t, .inl ht⟩
      · refine ⟨_, .inr (.inl (.readEnd m most positive next at_ request hinput hempty ?_))⟩
        rw [hi.hasWriter_input (by rw [at_]; rfl), hfinished]
        exact Bool.false_ne_true
    · exact ⟨_, .inr (.inl (.read m most positive next 1 at_ request hinput Nat.one_pos positive
        (List.length_pos_iff.2 hempty)))⟩
  | write bytes next =>
    by_cases hbytes : bytes = []
    · subst hbytes
      exact ⟨_, .inr (.inl (.writeNothing m next at_ request houtput))⟩
    · by_cases hreader : s.output.hasReader
      · have hempty : s.output.content = [] := h.resolve_right fun hnone => hnone hreader
        refine ⟨_, .inr (.inl (.write m bytes next 1 at_ request houtput hreader Nat.one_pos
          (List.length_pos_iff.2 hbytes) ?_))⟩
        rw [hempty]
        exact plan.outputRoom_pos
      · exact ⟨_, .inr (.inl (.writeBroken m bytes next at_ request houtput hbytes hreader))⟩
  | work next => exact ⟨_, .inr (.inl (.work m next at_ request))⟩
  | exit ending => exact ⟨_, .inr (.inl (.exit m ending at_ request))⟩

/-! ## All together -/

/-- **Somebody can go on** as long as not everybody has finished. -/
theorem progress (hi : Sound plan s) (h : ∀ fed drained ending, ¬ s.Finished fed drained ending) :
    ∃ t, Step plan s t := by
  have hstarted := hi.started
  cases hd : s.drainer with
  | declaring =>
    obtain ⟨t, ht⟩ := hi.drainer_declares hd
    exact ⟨t, .inr (.inr ht)⟩
  | writing held =>
    cases hw : (s.sink.write held).1 with
    | ok => exact ⟨_, .inr (.inr (.write held hd hw))⟩
    | error f => exact ⟨_, .inr (.inr (.writeFails held f hd hw))⟩
  | closing result => exact ⟨_, .inr (.inr (.close result hd))⟩
  | reading =>
    rw [hd] at hstarted
    rcases hi.feeder_cases hstarted.symm with ⟨t, ht⟩ | hfeeder
    · exact ⟨t, .inl ht⟩
    have huse : s.output.parent.use .read = .ok () := by
      rw [hi.outputParent, hd]
      exact Channel.reader_use
    by_cases hempty : s.output.content = []
    · rcases hi.child_cases with ⟨t, ht⟩ | ⟨m, hrunning⟩ | ⟨ending, hexited⟩
      · exact ⟨t, .inr (.inl ht)⟩
      · exact hi.child_runs hrunning hfeeder (.inl hempty)
      · refine ⟨_, .inr (.inr (.readEnd hd huse hempty ?_))⟩
        rw [hi.hasWriter_output (by rw [hd]; rfl), hexited]
        exact Bool.false_ne_true
    · exact ⟨_, .inr (.inr (.read 1 hd huse Nat.one_pos (List.length_pos_iff.2 hempty)))⟩
  | finished drained =>
    rw [hd] at hstarted
    rcases hi.feeder_cases hstarted.symm with ⟨t, ht⟩ | hfeeder
    · exact ⟨t, .inl ht⟩
    rcases hi.child_cases with ⟨t, ht⟩ | ⟨m, hrunning⟩ | ⟨ending, hexited⟩
    · exact ⟨t, .inr (.inl ht)⟩
    · refine hi.child_runs hrunning hfeeder (.inr ?_)
      rw [Pipe.hasReader, hi.outputParent, hi.outputChild, hd, hrunning]
      exact Bool.false_ne_true
    · rcases hfeeder with ⟨held, hwriting⟩ | hfinished
      · have hreader : ¬ s.input.hasReader := by
          rw [Pipe.hasReader, hi.inputParent, hi.inputChild, hwriting, hexited]
          exact Bool.false_ne_true
        obtain ⟨t, ht⟩ := hi.feeder_writes hwriting (.inr hreader)
        exact ⟨t, .inl ht⟩
      · cases hf : s.feeder with
        | finished fed => exact absurd ⟨hf, hexited, hd⟩ (h fed drained ending)
        | _ =>
          rw [hf] at hfinished
          cases hfinished

end Sound

/-! ## What comes of it -/

namespace Kept

/-- The sink holds what it took of a part of the child's output. -/
theorem written_prefix (hi : Kept plan s) :
    ∃ taken, taken <+: s.produced ∧ s.sink.written = plan.sink.written ++ taken := by
  obtain ⟨before, hdelivered, -, hsink⟩ := hi.sunk
  have hbefore : before <+: s.produced := by
    refine List.IsPrefix.trans ?_ hi.delivered_prefix
    rw [hdelivered]
    exact List.prefix_append _ _
  refine ⟨plan.sink.accepted before, (plan.sink.accepted_prefix before).trans hbefore, ?_⟩
  rw [hsink.written, Sink.written_write]

/-- A drainer that has finished has written the output of the child to the sink,
as far as the sink took it. -/
theorem finished_output (hi : Kept plan s) {drained : Except Fault Unit}
    (hd : s.drainer = .finished drained) :
    drained = (plan.sink.write s.produced).1 ∧ s.sink.Alike (plan.sink.write s.produced).2 := by
  obtain ⟨before, hdelivered, hresult, hsink⟩ := hi.sunk
  have hmetEnd := hi.drained
  rw [hd] at hdelivered hresult hmetEnd
  have hbefore : s.delivered = before := hdelivered.trans (List.append_nil _)
  cases drained with
  | ok =>
    have hproduced : s.produced = before := by
      rw [← hi.received, (hmetEnd rfl).1, List.append_nil, hbefore]
    rw [hproduced]
    exact ⟨hresult.symm, hsink⟩
  | error f =>
    have hbegin : before <+: s.produced := hbefore ▸ hi.delivered_prefix
    obtain ⟨herror, halike⟩ := Sink.write_of_prefix hresult hbegin
    exact ⟨herror.symm, hsink.trans halike⟩

/-- A feeder that has finished has met the end of the source or left bytes unsent. -/
theorem finished_fed (hi : Kept plan s) {fed : Except Fault Unit} (hf : s.feeder = .finished fed) :
    (s.unsent = [] ∧ fed = Child.ignoreBroken plan.source.atEnd) ∨
      (s.consumed.length < plan.source.bytes.length ∧ fed = .ok ()) := by
  have hfed := hi.fed
  rw [hf] at hfed
  rcases hfed with hall | ⟨hunsent, -, hok⟩
  · exact .inl hall
  · refine .inr ⟨?_, hok⟩
    have hpos := List.length_pos_iff.2 hunsent
    rw [← hi.sent, List.length_append, List.length_append]
    omega

end Kept

/-- **Nobody gets stuck and nothing is lost or invented**, whatever the order of the
steps.  As long as not everybody has finished, somebody can go on.  What the
child has read is a beginning of the source, and all of it once the child has
met the end, which is not before the feeder has finished.  What the sink has
taken is a beginning of what the child has written, and at the end all that the
sink has room for; the drainer then reports what the sink does, and the feeder
what the source does unless the child left bytes of it unread. -/
theorem Reachable.progress_and_streams (h : Reachable plan s) :
    ((∀ fed drained ending, ¬ s.Finished fed drained ending) → ∃ t, Step plan s t) ∧
    (s.consumed <+: plan.source.bytes ∧
      (s.sawEnd → s.feeder.isFinished ∧ s.consumed = plan.source.bytes)) ∧
    (∃ taken, taken <+: s.produced ∧ s.sink.written = plan.sink.written ++ taken) ∧
    (∀ fed drained ending, s.Finished fed drained ending →
      drained = (plan.sink.write s.produced).1 ∧
      s.sink.written = (plan.sink.write s.produced).2.written ∧
      (fed = Child.ignoreBroken plan.source.atEnd ∨
        s.consumed.length < plan.source.bytes.length ∧ fed = .ok ())) := by
  have hi := h.sound
  refine ⟨hi.progress, ⟨hi.consumed_prefix, hi.sawEnd⟩, hi.written_prefix, ?_⟩
  intro fed drained ending hfinished
  obtain ⟨hdrained, halike⟩ := hi.finished_output hfinished.drainer
  refine ⟨hdrained, halike.written, ?_⟩
  rcases hi.finished_fed hfinished.feeder with ⟨-, hfed⟩ | hleft
  · exact .inl hfed
  · exact .inr hleft

/-- A child that ends without having read any of a source that fails. -/
def Plan.idle : Plan Unit where
  source := ⟨[1, 2, 3], some (.stream "source failed")⟩
  sink := .memory
  inputRoom := 1
  outputRoom := 1
  inputRoom_pos := Nat.one_pos
  outputRoom_pos := Nat.one_pos
  program := fun () => .exit (.ofStatus 0)
  start := ()

/-- Writes what has been read, and reads on once it has been written.  At the end of the
input nothing is left to do. -/
def copy : Option Bytes → Request (Option Bytes)
  | none => .exit (.ofStatus 0)
  | some [] => .read blockLength (by decide) fun bytes =>
    if bytes.isEmpty then none else some bytes
  | some held => .write held fun
    | .ok n => some (held.drop n)
    | .error _ => none

/-- A child that copies its input, between channels that hold one byte each. -/
def Plan.copying (source : Source) (sink : Sink) : Plan (Option Bytes) where
  source
  sink
  inputRoom := 1
  outputRoom := 1
  inputRoom_pos := Nat.one_pos
  outputRoom_pos := Nat.one_pos
  program := copy
  start := some []

/-- A run in which two bytes are copied.  Each channel is full at times. -/
theorem copying_finishes : ∃ s : State (Option Bytes),
    Reachable (.copying (.ofBytes [1, 2]) .memory) s ∧
      s.Finished (.ok ()) (.ok ()) (.exited 0) ∧ s.sawEnd ∧ s.produced = [1, 2] := by
  have connected := (Reachable.initial : Reachable (.copying (.ofBytes [1, 2]) .memory) _)
    |>.step (.inr (.inr (.declareInput .writer rfl rfl rfl)))
    |>.step (.inr (.inr (.declareOutput .reader rfl rfl rfl)))
    |>.step (.inr (.inl (.connectInput .reader rfl rfl rfl)))
    |>.step (.inr (.inl (.connectOutput .writer rfl rfl rfl)))
  have sent := connected
    |>.step (.inl (.read 2 rfl (by decide) (by decide)))
    |>.step (.inl (.write 2 1 rfl rfl rfl (by decide) (by decide) (by decide)))
    |>.step (.inr (.inl (.read (some []) _ _ _ 1 rfl rfl rfl (by decide) (by decide) (by decide))))
    |>.step (.inl (.write 1 1 rfl rfl rfl (by decide) (by decide) (by decide)))
    |>.step (.inr (.inl (.write (some [1]) _ _ 1 rfl rfl rfl rfl (by decide) (by decide)
      (by decide))))
    |>.step (.inl (.readEnd rfl rfl))
    |>.step (.inl (.close _ rfl rfl))
  have copied := sent
    |>.step (.inr (.inl (.read (some []) _ _ _ 1 rfl rfl rfl (by decide) (by decide) (by decide))))
    |>.step (.inr (.inr (.read 1 rfl rfl (by decide) (by decide))))
    |>.step (.inr (.inl (.write (some [2]) _ _ 1 rfl rfl rfl rfl (by decide) (by decide)
      (by decide))))
    |>.step (.inr (.inl (.readEnd (some []) _ _ _ rfl rfl rfl rfl (by decide))))
    |>.step (.inr (.inl (.exit none _ rfl rfl)))
  have drained := copied
    |>.step (.inr (.inr (.write [1] rfl rfl)))
    |>.step (.inr (.inr (.read 1 rfl rfl (by decide) (by decide))))
    |>.step (.inr (.inr (.write [2] rfl rfl)))
    |>.step (.inr (.inr (.readEnd rfl rfl rfl (by decide))))
    |>.step (.inr (.inr (.close _ rfl)))
  exact ⟨_, drained, ⟨rfl, rfl, rfl⟩, rfl, rfl⟩

/-- Where the child has ended and the feeder holds bytes that nobody will read, the feeder
can go on; and where two bytes have been copied they have been read, written and taken. -/
theorem progress_and_streams_idle_copying :
    (∃ s : State Unit, Reachable Plan.idle s ∧ s.feeder = .writing 2 ∧
      s.child = .exited (.exited 0) ∧ (∃ t, Step Plan.idle s t) ∧
      s.consumed <+: Plan.idle.source.bytes) ∧
    ∃ s : State (Option Bytes), Reachable (.copying (.ofBytes [1, 2]) .memory) s ∧
      s.Finished (.ok ()) (.ok ()) (.exited 0) ∧ s.consumed = [1, 2] ∧ s.produced = [1, 2] ∧
      s.sink.written = [1, 2] := by
  constructor
  · have h := (Reachable.initial : Reachable Plan.idle _)
      |>.step (.inr (.inr (.declareInput .writer rfl rfl rfl)))
      |>.step (.inr (.inr (.declareOutput .reader rfl rfl rfl)))
      |>.step (.inr (.inl (.connectInput .reader rfl rfl rfl)))
      |>.step (.inr (.inl (.connectOutput .writer rfl rfl rfl)))
      |>.step (.inl (.read 2 rfl (by decide) (by decide)))
      |>.step (.inr (.inl (.exit () _ rfl rfl)))
    obtain ⟨hprogress, ⟨hbegin, -⟩, -⟩ := h.progress_and_streams
    refine ⟨_, h, rfl, rfl, hprogress fun fed drained ending hfinished => ?_, hbegin⟩
    exact Feeder.noConfusion hfinished.feeder
  · obtain ⟨s, h, hfinished, hend, hproduced⟩ := copying_finishes
    obtain ⟨-, ⟨-, hall⟩, -, hcomplete⟩ := h.progress_and_streams
    obtain ⟨-, hwritten, -⟩ := hcomplete _ _ _ hfinished
    refine ⟨s, h, hfinished, (hall hend).2, hproduced, ?_⟩
    rw [hwritten, hproduced]
    rfl

/-! ## The end of a run -/

/-- What the parent makes of its two threads and of how the child has ended. -/
def outcome (fed drained : Except Fault Unit) (ending : Ending) (sink : Sink) :
    Except Failure Status := do
  let status ← ending.status.mapError (Failure.system "waitpid")
  fed.mapError Failure.stream
  drained.mapError Failure.stream
  sink.flush.mapError Failure.stream
  return status

/-- At the end of a run the sink holds what `Child.collect` puts there, and the
parent comes to the same outcome, unless a source fails whose last bytes the
child leaves in its channel: then it depends on the order of the steps whether
the feeder meets the fault.  How many bytes the channel holds matters for
sources that fail only. -/
theorem State.Finished.collect {fed drained : Except Fault Unit} {ending : Ending}
    (hf : s.Finished fed drained ending) (h : Reachable plan s)
    (hroom : plan.source.fault = none ∨ plan.inputRoom = Channel.capacity) {u : Surroundings}
    {done : Completion} (hinput : u.input = .buffered plan.source) (houtput : u.output = plan.sink)
    (htaken : done.taken = s.consumed.length) (hproduced : done.output = s.produced)
    (hending : done.ending = ending) :
    s.sink.written = (Child.collect u done).2.output.written ∧
      (outcome fed drained ending s.sink = (Child.collect u done).1 ∨
        (plan.source.fault ≠ none ∧ fed = .ok () ∧
          s.consumed.length < plan.source.bytes.length ∧
          plan.source.bytes.length ≤ s.consumed.length + Channel.capacity)) := by
  have hi := h.sound
  obtain ⟨hdrained, halike⟩ := hi.finished_output hf.drainer
  have hsource : u.source = plan.source := by rw [Surroundings.source, hinput]
  have hcollect : fed = Child.feed plan.source s.consumed.length →
      outcome fed drained ending s.sink = (Child.collect u done).1 := by
    intro hfed
    rw [Child.collect, hsource, htaken, hproduced, houtput, hending, ← hfed, outcome,
      halike.flush, hdrained]
  constructor
  · rw [halike.written, Child.collect, hproduced, houtput]
  · by_cases hfault : plan.source.fault = none
    · have hend : Child.ignoreBroken plan.source.atEnd = .ok () := by rw [Source.atEnd, hfault]; rfl
      refine .inl (hcollect ?_)
      rw [Child.feed_of_fault_eq_none hfault]
      rcases hi.finished_fed hf.feeder with ⟨-, hfed⟩ | ⟨-, hfed⟩
      · exact hfed.trans hend
      · exact hfed
    · have hcontent := hi.inputRoom
      rw [hroom.resolve_left hfault] at hcontent
      have hsent := congrArg List.length hi.sent
      rw [List.length_append, List.length_append] at hsent
      rcases hi.finished_fed hf.feeder with ⟨hunsent, hfed⟩ | ⟨hleft, hfed⟩
      · refine .inl (hcollect ?_)
        rw [hunsent, List.length_nil] at hsent
        rw [Child.feed, if_neg (by omega), hfed]
      · by_cases hmany : plan.source.bytes.length > s.consumed.length + Channel.capacity
        · refine .inl (hcollect ?_)
          rw [Child.feed, if_pos hmany, hfed]
          rfl
        · exact .inr ⟨hfault, hfed, hleft, Nat.le_of_not_lt hmany⟩

end Detached

end LineShell
