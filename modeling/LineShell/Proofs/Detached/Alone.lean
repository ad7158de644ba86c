import LineShell.Proofs.Detached.Progress

/-!
# What a child does by itself

Channels and threads decide into how many pieces the reads and writes of a child are cut, and
when it has to wait.  What it reads in all, what it writes and how it ends are told from its
program and from the bytes of its input, as long as somebody takes what it writes.

`Doing` says how a program can go on with no channel in sight, and `Plan.CarriesOut` that it
comes to a certain completion in every way it can go on.  Main statement:
`State.Finished.carriesOut`, by the step lemma `Phase.Alone.childStep`.
-/

namespace LineShell

namespace Detached

variable {σ : Type} {plan : Plan σ} {s t : State σ}

/-- Where a program can stand that has read and written these bytes, if its input is the
source of the plan and all that it writes is taken.  A read or a write may come to fewer bytes
than were asked for. -/
inductive Doing (plan : Plan σ) : σ → Bytes → Bytes → Prop where
  | start : Doing plan plan.start [] []
  | read {m : σ} {consumed produced bytes : Bytes} {most : Nat} {positive : 0 < most}
      {next : Bytes → σ} (before : Doing plan m consumed produced)
      (request : plan.program m = .read most positive next) (nonempty : bytes ≠ [])
      (le_most : bytes.length ≤ most) (there : consumed ++ bytes <+: plan.source.bytes) :
    Doing plan (next bytes) (consumed ++ bytes) produced
  | readEnd {m : σ} {produced : Bytes} {most : Nat} {positive : 0 < most} {next : Bytes → σ}
      (before : Doing plan m plan.source.bytes produced)
      (request : plan.program m = .read most positive next) :
    Doing plan (next []) plan.source.bytes produced
  | write {m : σ} {consumed produced bytes : Bytes} {next : Except SystemFault Nat → σ} {n : Nat}
      (before : Doing plan m consumed produced) (request : plan.program m = .write bytes next)
      (pos : 0 < n) (le : n ≤ bytes.length) :
    Doing plan (next (.ok n)) consumed (produced ++ bytes.take n)
  | writeNothing {m : σ} {consumed produced : Bytes} {next : Except SystemFault Nat → σ}
      (before : Doing plan m consumed produced) (request : plan.program m = .write [] next) :
    Doing plan (next (.ok 0)) consumed produced
  | work {m next : σ} {consumed produced : Bytes} (before : Doing plan m consumed produced)
      (request : plan.program m = .work next) :
    Doing plan next consumed produced

/-- A plan whose program reads, writes and ends as a completion says, however its reads and
writes are cut. -/
def Plan.CarriesOut (plan : Plan σ) (done : Completion) : Prop :=
  ∀ m consumed produced ending, Doing plan m consumed produced →
    plan.program m = .exit ending →
      consumed.length = done.taken ∧ produced = done.output ∧ ending = done.ending

/-! ## In a run -/

/-- A child that stands there has gone on as its program can by itself. -/
def Phase.Alone (plan : Plan σ) (consumed produced : Bytes) : Phase σ → Prop
  | .connectInput | .connectOutput => consumed = [] ∧ produced = []
  | .running m => Doing plan m consumed produced
  | .exited ending => ∃ m, plan.program m = .exit ending ∧ Doing plan m consumed produced

/-- Where the sink takes everything, somebody reads what a running child writes. -/
theorem Sound.hasReader_output (hi : Sound plan s) (hsink : plan.sink.Boundless) {m : σ}
    (at_ : s.child = .running m) : s.output.hasReader := by
  rw [Pipe.hasReader, hi.outputParent, Bool.or_eq_true]
  left
  cases hd : s.drainer with
  | finished drained =>
    -- A drainer that ends without a fault has met the end, and a running child keeps it away.
    have hdrained : drained = .ok () :=
      (hi.finished_output hd).1.trans (hsink.write s.produced).1
    have hclosed : s.output.child.writeOpen = false := by
      refine (hi.drained ?_).2
      rw [hd]
      exact hdrained
    rw [hi.outputChild, at_] at hclosed
    cases hclosed
  | _ => rfl

theorem Phase.Alone.childStep (hi : Sound plan s) (hsink : plan.sink.Boundless)
    (h : ChildStep plan s t) (ih : s.child.Alone plan s.consumed s.produced) :
    t.child.Alone plan t.consumed t.produced := by
  have hconsumed := hi.consumed_prefix
  cases h with
  | connectInput c at_ registered bound =>
    rw [at_] at ih
    exact ih
  | connectOutput c at_ registered use =>
    rw [at_] at ih
    obtain ⟨hread, hwritten⟩ := ih
    show Doing plan plan.start s.consumed s.produced
    rw [hread, hwritten]
    exact .start
  | read m most positive next n at_ request use pos le_most le =>
    rw [at_] at ih
    have hlength : (s.input.content.take n).length = n := List.length_take_of_le le
    refine .read ih request ?_ (Nat.le_trans (Nat.le_of_eq hlength) le_most) ?_
    · exact List.ne_nil_of_length_pos (hlength.symm ▸ pos)
    · rw [← hi.sent, List.append_assoc]
      exact List.prefix_append_right_inj s.consumed |>.2
        ((List.take_prefix n _).trans (List.prefix_append _ _))
  | readEnd m most positive next at_ request use empty writer =>
    rw [at_] at ih
    have hall : s.consumed = plan.source.bytes :=
      hi.consumed_eq (hi.finished_of_no_writer writer) (Channel.isOpen_of_use use) empty
    show Doing plan (next []) s.consumed s.produced
    rw [hall] at ih ⊢
    exact .readEnd ih request
  | write m bytes next n at_ request use reader pos le room =>
    rw [at_] at ih
    exact .write ih request pos le
  | writeNothing m next at_ request use =>
    rw [at_] at ih
    exact .writeNothing ih request
  | writeBroken m bytes next at_ request use some reader =>
    exact absurd (hi.hasReader_output hsink at_) reader
  | work m next at_ request =>
    rw [at_] at ih
    exact .work ih request
  | exit m ending at_ request =>
    rw [at_] at ih
    exact ⟨m, request, ih⟩

/-- Whatever the order of the steps, a child goes on as its program can by itself. -/
theorem Reachable.alone (h : Reachable plan s) (hsink : plan.sink.Boundless) :
    s.child.Alone plan s.consumed s.produced := by
  induction h with
  | initial => exact ⟨rfl, rfl⟩
  | step reached taken ih =>
    -- The steps of the feeder and of the drainer leave the child where it is.
    rcases taken with h | h | h
    · cases h <;> exact ih
    · exact Phase.Alone.childStep reached.sound hsink h ih
    · cases h <;> exact ih

/-- **A run comes to what the program comes to by itself.** -/
theorem State.Finished.carriesOut {fed drained : Except Fault Unit} {ending : Ending}
    (hf : s.Finished fed drained ending) (h : Reachable plan s) (hsink : plan.sink.Boundless)
    {done : Completion} (hdone : plan.CarriesOut done) :
    done.taken = s.consumed.length ∧ done.output = s.produced ∧ done.ending = ending := by
  have halone := h.alone hsink
  rw [hf.child] at halone
  obtain ⟨m, hexit, hdoing⟩ := halone
  obtain ⟨htaken, hproduced, hending⟩ := hdone m _ _ ending hdoing hexit
  exact ⟨htaken.symm, hproduced.symm, hending.symm⟩

/-! ## Copying -/

/-- What a copying program has read it has written, or still holds. -/
def Copied (source : Source) (consumed produced : Bytes) : Option Bytes → Prop
  | some held => consumed = produced ++ held
  | none => consumed = source.bytes ∧ produced = source.bytes

theorem Doing.copied {source : Source} {sink : Sink} {m : Option Bytes}
    {consumed produced : Bytes} (h : Doing (.copying source sink) m consumed produced) :
    Copied source consumed produced m := by
  induction h with
  | start => rfl
  | @read m consumed produced bytes _ _ _ _ request nonempty _ _ ih =>
    rcases m with _ | _ | ⟨b, held⟩ <;> cases request
    cases bytes with
    | nil => exact absurd rfl nonempty
    | cons b bs =>
      show consumed ++ b :: bs = produced ++ b :: bs
      rw [ih, List.append_nil]
  | @readEnd m _ _ _ _ _ request ih =>
    rcases m with _ | _ | ⟨b, held⟩ <;> cases request
    exact ⟨rfl, (ih.trans (List.append_nil _)).symm⟩
  | @write m consumed produced _ _ n _ request _ _ ih =>
    rcases m with _ | _ | ⟨b, held⟩ <;> cases request
    show consumed = produced ++ (b :: held).take n ++ (b :: held).drop n
    rw [ih, List.append_assoc, List.take_append_drop]
  | @writeNothing m _ _ _ _ request _ | @work m _ _ _ _ request _ =>
    rcases m with _ | _ | ⟨b, held⟩ <;> cases request

/-- A copying program writes all of its input. -/
theorem copying_carriesOut (source : Source) (sink : Sink) (files : Files) :
    (Plan.copying source sink).CarriesOut
      ⟨source.bytes.length, source.bytes, [], .ofStatus 0, files⟩ := by
  intro m consumed produced ending hdoing hexit
  have hcopied := hdoing.copied
  rcases m with _ | _ | ⟨b, held⟩
  · obtain ⟨rfl, rfl⟩ := hcopied
    cases hexit
    exact ⟨rfl, rfl, rfl⟩
  · cases hexit
  · cases hexit

end Detached

end LineShell
