import LineShell.Proofs.Detached.Steps
import LineShell.Proofs.Stream.Sink

/-!
# What holds between a child and its parent

`Kept` is what holds whatever a child does, even if it closes its ends before it
ends.  Which ends the parent holds follows from where its two threads stand, and a
child never holds more than those it has declared; the bytes on the way are in order
and complete; and a party that has ended has done so for a reason that cannot go away
any more.  `Kept.feederStep`, `Kept.childStep` and `Kept.drainerStep` say that each
party keeps it.

A child that closes nothing by itself holds just the ends that follow from where it
stands.  With that, `Kept` becomes `Sound`, the invariant of `Reachable`.  Main
statement: `Reachable.sound`.
-/

namespace LineShell

/-! ## The ends of a channel -/

namespace Channel

/-- A channel that is read. -/
def reader : Channel := ⟨true, false, some .read⟩

/-- A channel that is written. -/
def writer : Channel := ⟨false, true, some .write⟩

theorem new_register_read : new.register .read = .ok reader := rfl

theorem new_register_write : new.register .write = .ok writer := rfl

theorem reader_use : reader.use .read = .ok () := rfl

theorem writer_use : writer.use .write = .ok () := rfl

theorem writer_closeWrite : writer.closeWrite = .ok writer.dropped := rfl

end Channel

namespace Detached

/-- The parent's ends of the channel to the child. -/
def Feeder.ends : Feeder → Channel
  | .undeclared => .new
  | .finished _ => Channel.writer.dropped
  | _ => .writer

def Feeder.isFinished : Feeder → Bool
  | .finished _ => true
  | _ => false

/-- Whether the feeder has been started. -/
def Feeder.started : Feeder → Bool
  | .undeclared | .declared => false
  | _ => true

/-- The parent's ends of the channel from the child. -/
def Drainer.ends : Drainer → Channel
  | .declaring => .new
  | .finished _ => Channel.reader.dropped
  | _ => .reader

/-- Whether the channels have been declared. -/
def Drainer.started : Drainer → Bool
  | .declaring => false
  | _ => true

/-- What has been read and not yet been written. -/
def Drainer.held : Drainer → Bytes
  | .writing held => held
  | _ => []

/-- What the writes so far have come to. -/
def Drainer.result : Drainer → Except Fault Unit
  | .closing result | .finished result => result
  | _ => .ok ()

/-- Whether the drainer has met the end of the channel. -/
def Drainer.metEnd : Drainer → Prop
  | .closing result | .finished result => result = .ok ()
  | _ => False

section Phases

variable {σ : Type}

/-- The ends of the channel to it that a child may hold. -/
def Phase.HoldsInput : Phase σ → Channel → Prop
  | .connectInput, c => c = .new
  | .connectOutput, c => c = .reader
  | .running _, c => c = .reader ∨ c = Channel.reader.dropped
  | .exited _, c => c = c.dropped

/-- The ends of the channel from it that a child may hold. -/
def Phase.HoldsOutput : Phase σ → Channel → Prop
  | .connectInput, c | .connectOutput, c => c = .new
  | .running _, c => c = .writer ∨ c = Channel.writer.dropped
  | .exited _, c => c = c.dropped

def Phase.isExited : Phase σ → Bool
  | .exited _ => true
  | _ => false

theorem Feeder.writeOpen_ends (f : Feeder) : f.ends.writeOpen = !f.isFinished := by
  cases f <;> rfl

theorem Feeder.ends_holding (n : Nat) : (Feeder.holding n).ends = .writer := by
  unfold Feeder.holding
  split <;> rfl

theorem Feeder.started_holding (n : Nat) : (Feeder.holding n).started = true := by
  unfold Feeder.holding
  split <;> rfl

/-! ## What holds with any child -/

/-- What a feeder knows about the bytes that it has not sent.  It ends when
there are none or when nobody reads them any more. -/
def Feeder.Fed (source : Source) (unsent : Bytes) (unread : Bool) : Feeder → Prop
  | .writing held => 0 < held ∧ held ≤ unsent.length
  | .closing result | .finished result =>
    (unsent = [] ∧ result = Child.ignoreBroken source.atEnd) ∨
      (unsent ≠ [] ∧ unread ∧ result = .ok ())
  | _ => True

/-- **What holds in every state, whatever the child does.** -/
structure Kept (plan : Plan σ) (s : State σ) : Prop where
  inputParent : s.input.parent = s.feeder.ends
  inputHeld : s.child.HoldsInput s.input.child
  outputParent : s.output.parent = s.drainer.ends
  outputHeld : s.child.HoldsOutput s.output.child
  started : s.drainer.started = s.feeder.started
  sent : s.consumed ++ s.input.content ++ s.unsent = plan.source.bytes
  inputRoom : s.input.content.length ≤ plan.inputRoom
  fed : s.feeder.Fed plan.source s.unsent (!s.input.child.readOpen)
  sawEnd : s.sawEnd → s.feeder.isFinished ∧ s.consumed = plan.source.bytes
  received : s.delivered ++ s.output.content = s.produced
  outputRoom : s.output.content.length ≤ plan.outputRoom
  sunk : ∃ before, s.delivered = before ++ s.drainer.held ∧
    (plan.sink.write before).1 = s.drainer.result ∧ s.sink.Alike (plan.sink.write before).2
  drained : s.drainer.metEnd → s.output.content = [] ∧ s.output.child.writeOpen = false

variable {plan : Plan σ} {s t : State σ}

namespace Kept

/-! ## Consequences -/

theorem consumed_prefix (hi : Kept plan s) : s.consumed <+: plan.source.bytes := by
  rw [← hi.sent, List.append_assoc]
  exact List.prefix_append _ _

theorem delivered_prefix (hi : Kept plan s) : s.delivered <+: s.produced := by
  rw [← hi.received]
  exact List.prefix_append _ _

theorem not_sawEnd (hi : Kept plan s) (h : s.feeder.isFinished = false) : ¬ s.sawEnd := by
  intro hs
  rw [(hi.sawEnd hs).1] at h
  cases h

theorem not_metEnd (hi : Kept plan s) (h : s.output.child.writeOpen) : ¬ s.drainer.metEnd := by
  intro hd
  rw [(hi.drained hd).2] at h
  cases h

/-- Where the child has met the end of its input, nothing more can come. -/
theorem content_eq_nil (hi : Kept plan s) (h : s.sawEnd) : s.input.content = [] := by
  have hsent := hi.sent
  rw [← (hi.sawEnd h).2, List.append_assoc] at hsent
  exact (List.append_eq_nil_iff.1 (List.append_right_eq_self.1 hsent)).1

/-- As long as the feeder has not finished, somebody can write to the child. -/
theorem finished_of_no_writer (hi : Kept plan s) (h : ¬ s.input.hasWriter) :
    s.feeder.isFinished := by
  rw [Pipe.hasWriter, Bool.or_eq_true, not_or, hi.inputParent, Feeder.writeOpen_ends] at h
  simpa using h.1

/-- A child that can read and meets the end of its input has read all of it. -/
theorem consumed_eq (hi : Kept plan s) (hfed : s.feeder.isFinished)
    (hreads : s.input.child.readOpen) (hempty : s.input.content = []) :
    s.consumed = plan.source.bytes := by
  have hunsent : s.unsent = [] := by
    have hfeeder := hi.fed
    cases hf : s.feeder with
    | finished result =>
      rw [hf, hreads] at hfeeder
      rcases hfeeder with ⟨hunsent, -⟩ | ⟨-, hunread, -⟩
      · exact hunsent
      · cases hunread
    | _ =>
      rw [hf] at hfed
      cases hfed
  rw [← hi.sent, hempty, hunsent, List.append_nil, List.append_nil]

end Kept

/-- Once nobody reads, nobody ever does. -/
theorem Feeder.Fed.mono {source : Source} {unsent : Bytes} {f : Feeder} {unread unread' : Bool}
    (h : f.Fed source unsent unread) (hmono : unread → unread') : f.Fed source unsent unread' := by
  cases f with
  | writing held => exact h
  | closing result | finished result => exact h.imp_right fun h' => ⟨h'.1, hmono h'.2.1, h'.2.2⟩
  | _ => trivial

theorem Feeder.fed_holding {source : Source} {unsent : Bytes} {unread : Bool} {held : Nat}
    (h : held ≤ unsent.length) : (Feeder.holding held).Fed source unsent unread := by
  unfold Feeder.holding
  split
  · trivial
  · exact ⟨by omega, h⟩

/-! ## Preservation -/

theorem kept_initial (plan : Plan σ) : Kept plan plan.initial where
  inputParent := rfl
  inputHeld := rfl
  outputParent := rfl
  outputHeld := rfl
  started := rfl
  sent := rfl
  inputRoom := Nat.zero_le _
  fed := trivial
  sawEnd := fun h => nomatch h
  received := rfl
  outputRoom := Nat.zero_le _
  sunk := ⟨[], rfl, plan.sink.write_nil⟩
  drained := fun h => h.elim

theorem Kept.feederStep (hi : Kept plan s) (h : FeederStep plan s t) : Kept plan t := by
  have hends := hi.inputParent
  have hstarted := hi.started
  have hfed := hi.fed
  have hend := hi.not_sawEnd
  cases h with
  | read n at_ pos le =>
    rw [at_] at hends hstarted hend
    exact { hi with
      inputParent := hends
      started := hstarted
      fed := ⟨pos, le⟩
      sawEnd := fun h => absurd h (hend rfl) }
  | readEnd at_ all =>
    rw [at_] at hends hstarted hend
    exact { hi with
      inputParent := hends
      started := hstarted
      fed := .inl ⟨all, rfl⟩
      sawEnd := fun h => absurd h (hend rfl) }
  | write held n at_ use reader pos le room =>
    rw [at_] at hends hstarted hend hfed
    have hunsent : n ≤ s.unsent.length := Nat.le_trans le hfed.2
    exact { hi with
      inputParent := hends.trans (Feeder.ends_holding _).symm
      started := hstarted.trans (Feeder.started_holding _).symm
      sent := by
        rw [← hi.sent]
        simp only [List.append_assoc, List.take_append_drop]
      inputRoom := by
        simp only [List.length_append, List.length_take, Nat.min_eq_left hunsent]
        exact room
      fed := by
        apply Feeder.fed_holding
        rw [List.length_drop]
        exact Nat.sub_le_sub_right hfed.2 n
      sawEnd := fun h => absurd h (hend rfl) }
  | breaks held at_ use reader =>
    rw [at_] at hends hstarted hend hfed
    have hunread : ¬ s.input.child.readOpen := by
      rw [Pipe.hasReader, Bool.or_eq_true, not_or] at reader
      exact reader.2
    have hunsent : s.unsent ≠ [] :=
      List.ne_nil_of_length_pos (Nat.lt_of_lt_of_le hfed.1 hfed.2)
    exact { hi with
      inputParent := hends
      started := hstarted
      fed := .inr ⟨hunsent, by simpa using hunread, rfl⟩
      sawEnd := fun h => absurd h (hend rfl) }
  | close c at_ closed =>
    rw [at_] at hends hstarted hend hfed
    rw [hends] at closed
    obtain rfl : Channel.writer.dropped = c := Except.ok.inj closed
    exact { hi with
      inputParent := rfl
      started := hstarted
      fed := hfed
      sawEnd := fun h => absurd h (hend rfl) }
  | giveUp f at_ =>
    rw [at_] at hends hstarted hend hfed
    exact { hi with
      inputParent := congrArg Channel.dropped hends
      started := hstarted
      fed := hfed
      sawEnd := fun h => absurd h (hend rfl) }

/-- A running child may go on running in any way. -/
theorem Kept.goOn {m : σ} (hi : Kept plan s) (at_ : s.child = .running m) (next : σ) :
    Kept plan { s with child := .running next } := by
  have hinput := hi.inputHeld
  have houtput := hi.outputHeld
  rw [at_] at hinput houtput
  exact { hi with
    inputHeld := hinput
    outputHeld := houtput }

theorem Kept.childStep (hi : Kept plan s) (h : ChildStep plan s t) : Kept plan t := by
  have hinput := hi.inputHeld
  have houtput := hi.outputHeld
  cases h with
  | connectInput c at_ registered bound =>
    rw [at_] at hinput houtput
    have hnew : s.input.child = .new := hinput
    rw [hnew] at registered
    obtain rfl : Channel.reader = c := Except.ok.inj registered
    exact { hi with
      inputHeld := rfl
      outputHeld := houtput
      fed := hi.fed.mono (by rw [hnew]; exact id) }
  | connectOutput c at_ registered use =>
    rw [at_] at hinput houtput
    have hnew : s.output.child = .new := houtput
    rw [hnew] at registered
    obtain rfl : Channel.writer = c := Except.ok.inj registered
    have hmetEnd := hi.not_metEnd (by rw [hnew]; rfl)
    exact { hi with
      inputHeld := .inl hinput
      outputHeld := .inl rfl
      drained := fun h => absurd h hmetEnd }
  | read m most positive next n at_ request use pos le_most le =>
    exact { hi.goOn at_ _ with
      sent := by rw [← hi.sent, List.append_assoc s.consumed, List.take_append_drop]
      inputRoom := by
        rw [List.length_drop]
        exact Nat.le_trans (Nat.sub_le _ _) hi.inputRoom
      sawEnd := fun h => by
        rw [hi.content_eq_nil h, List.take_nil, List.append_nil]
        exact hi.sawEnd h }
  | readEnd m most positive next at_ request use empty writer =>
    have hfinished := hi.finished_of_no_writer writer
    have hconsumed := hi.consumed_eq hfinished (Channel.isOpen_of_use use) empty
    exact { hi.goOn at_ _ with sawEnd := fun _ => ⟨hfinished, hconsumed⟩ }
  | write m bytes next n at_ request use reader pos le room =>
    have hmetEnd := hi.not_metEnd (Channel.isOpen_of_use use)
    exact { hi.goOn at_ _ with
      received := by rw [← hi.received, List.append_assoc]
      outputRoom := by
        simp only [List.length_append, List.length_take, Nat.min_eq_left le]
        exact room
      drained := fun h => absurd h hmetEnd }
  | writeNothing m next at_ request use => exact hi.goOn at_ _
  | writeBroken m bytes next at_ request use some reader => exact hi.goOn at_ _
  | work m next at_ request => exact hi.goOn at_ _
  | exit m ending at_ request =>
    exact { hi with
      inputHeld := rfl
      outputHeld := rfl
      fed := hi.fed.mono fun _ => rfl
      drained := fun h => ⟨(hi.drained h).1, rfl⟩ }

theorem Kept.drainerStep (hi : Kept plan s) (h : DrainerStep s t) : Kept plan t := by
  have hinput := hi.inputParent
  have houtput := hi.outputParent
  have hstarted := hi.started
  have hend := hi.not_sawEnd
  obtain ⟨before, hdelivered, hresult, hsink⟩ := hi.sunk
  cases h with
  | declareInput c at_ feeder registered =>
    rw [feeder] at hinput hstarted hend
    rw [hinput] at registered
    obtain rfl : Channel.writer = c := Except.ok.inj registered
    exact { hi with
      inputParent := rfl
      started := hstarted
      fed := trivial
      sawEnd := fun h => absurd h (hend rfl) }
  | declareOutput c at_ feeder registered =>
    rw [feeder] at hinput hend
    rw [at_] at houtput hdelivered hresult
    rw [houtput] at registered
    obtain rfl : Channel.reader = c := Except.ok.inj registered
    exact { hi with
      inputParent := hinput
      outputParent := rfl
      started := rfl
      fed := trivial
      sawEnd := fun h => absurd h (hend rfl)
      sunk := ⟨before, hdelivered, hresult, hsink⟩
      drained := fun h => h.elim }
  | read n at_ use pos le =>
    rw [at_] at houtput hstarted hdelivered hresult
    exact { hi with
      outputParent := houtput
      started := hstarted
      received := by
        rw [← hi.received, List.append_assoc, List.take_append_drop]
      outputRoom := by
        rw [List.length_drop]
        exact Nat.le_trans (Nat.sub_le _ _) hi.outputRoom
      sunk := by
        have hbefore : s.delivered = before := hdelivered.trans (List.append_nil _)
        exact ⟨before, congrArg (· ++ s.output.content.take n) hbefore, hresult, hsink⟩
      drained := fun h => h.elim }
  | readEnd at_ use empty writer =>
    rw [at_] at houtput hstarted hdelivered hresult
    have hclosed : s.output.child.writeOpen = false := by
      rw [Pipe.hasWriter, Bool.or_eq_true, not_or] at writer
      simpa using writer.2
    exact { hi with
      outputParent := houtput
      started := hstarted
      sunk := ⟨before, hdelivered, hresult, hsink⟩
      drained := fun _ => ⟨empty, hclosed⟩ }
  | write held at_ written =>
    rw [at_] at houtput hstarted hdelivered hresult
    obtain ⟨hsame, halike⟩ := Sink.Alike.write_append hresult hsink held
    exact { hi with
      outputParent := houtput
      started := hstarted
      sunk := ⟨before ++ held, hdelivered.trans (List.append_nil _).symm, hsame.symm.trans written,
        halike⟩
      drained := fun h => h.elim }
  | writeFails held f at_ failed =>
    rw [at_] at houtput hstarted hdelivered hresult
    obtain ⟨hsame, halike⟩ := Sink.Alike.write_append hresult hsink held
    exact { hi with
      outputParent := houtput
      started := hstarted
      sunk := ⟨before ++ held, hdelivered.trans (List.append_nil _).symm, hsame.symm.trans failed,
        halike⟩
      drained := fun h => nomatch h }
  | close result at_ =>
    have hdrained := hi.drained
    rw [at_] at houtput hstarted hdelivered hresult hdrained
    exact { hi with
      outputParent := congrArg Channel.dropped houtput
      started := hstarted
      sunk := ⟨before, hdelivered, hresult, hsink⟩
      drained := hdrained }

/-! ## What holds with a child that closes nothing by itself -/

/-- The child's ends of the channel to it. -/
def Phase.inputEnds : Phase σ → Channel
  | .connectInput => .new
  | .exited _ => Channel.reader.dropped
  | _ => .reader

/-- The child's ends of the channel from it. -/
def Phase.outputEnds : Phase σ → Channel
  | .connectInput | .connectOutput => .new
  | .running _ => .writer
  | .exited _ => Channel.writer.dropped

theorem Phase.writeOpen_outputEnds (c : Phase σ) : c.outputEnds.writeOpen = !c.isExited := by
  cases c <;> rfl

/-- **What holds in every reachable state.** -/
structure Sound (plan : Plan σ) (s : State σ) : Prop extends Kept plan s where
  inputChild : s.input.child = s.child.inputEnds
  outputChild : s.output.child = s.child.outputEnds

theorem sound_initial (plan : Plan σ) : Sound plan plan.initial :=
  ⟨kept_initial plan, rfl, rfl⟩

namespace Sound

/-- Nobody but the feeder can write to the child once it has declared its ends. -/
theorem hasWriter_input (hi : Sound plan s) (h : s.child.inputEnds = .reader) :
    s.input.hasWriter = !s.feeder.isFinished := by
  rw [Pipe.hasWriter, hi.inputParent, hi.inputChild, h, Feeder.writeOpen_ends]
  exact Bool.or_false _

/-- Nobody but the child can write to the parent once it has declared its ends. -/
theorem hasWriter_output (hi : Sound plan s) (h : s.drainer.ends.writeOpen = false) :
    s.output.hasWriter = !s.child.isExited := by
  rw [Pipe.hasWriter, hi.outputParent, hi.outputChild, h, Phase.writeOpen_outputEnds]
  exact Bool.false_or _

theorem feederStep (hi : Sound plan s) (h : FeederStep plan s t) : Sound plan t := by
  have hkept := hi.toKept.feederStep h
  cases h <;> exact ⟨hkept, hi.inputChild, hi.outputChild⟩

theorem drainerStep (hi : Sound plan s) (h : DrainerStep s t) : Sound plan t := by
  have hkept := hi.toKept.drainerStep h
  cases h <;> exact ⟨hkept, hi.inputChild, hi.outputChild⟩

theorem childStep (hi : Sound plan s) (h : ChildStep plan s t) : Sound plan t := by
  have hkept := hi.toKept.childStep h
  have hinput := hi.inputChild
  have houtput := hi.outputChild
  cases h with
  | connectInput c at_ registered bound =>
    rw [at_] at hinput houtput
    rw [hinput] at registered
    obtain rfl : Channel.reader = c := Except.ok.inj registered
    exact ⟨hkept, rfl, houtput⟩
  | connectOutput c at_ registered use =>
    rw [at_] at hinput houtput
    rw [houtput] at registered
    obtain rfl : Channel.writer = c := Except.ok.inj registered
    exact ⟨hkept, hinput, rfl⟩
  | exit m ending at_ request =>
    rw [at_] at hinput houtput
    exact ⟨hkept, congrArg Channel.dropped hinput, congrArg Channel.dropped houtput⟩
  | read m most positive next n at_ request use pos le_most le =>
    rw [at_] at hinput houtput
    exact ⟨hkept, hinput, houtput⟩
  | readEnd m most positive next at_ request use empty writer =>
    rw [at_] at hinput houtput
    exact ⟨hkept, hinput, houtput⟩
  | write m bytes next n at_ request use reader pos le room =>
    rw [at_] at hinput houtput
    exact ⟨hkept, hinput, houtput⟩
  | writeNothing m next at_ request use =>
    rw [at_] at hinput houtput
    exact ⟨hkept, hinput, houtput⟩
  | writeBroken m bytes next at_ request use some reader =>
    rw [at_] at hinput houtput
    exact ⟨hkept, hinput, houtput⟩
  | work m next at_ request =>
    rw [at_] at hinput houtput
    exact ⟨hkept, hinput, houtput⟩

theorem step (hi : Sound plan s) (h : Step plan s t) : Sound plan t := by
  rcases h with h | h | h
  · exact hi.feederStep h
  · exact hi.childStep h
  · exact hi.drainerStep h

end Sound

/-- Whatever the order of the steps, the invariant holds. -/
theorem Reachable.sound (h : Reachable plan s) : Sound plan s := by
  induction h with
  | initial => exact sound_initial plan
  | step _ taken ih => exact ih.step taken

end Phases

end Detached

end LineShell
