import LineShell.Stream.Basic

/-!
# Writing piece by piece

A sink cannot tell whether bytes come in one piece or in many.  `Sink.Alike`
relates sinks that hold the same bytes and go on in the same way, however their
bytes came.

Main statements: `Alike.write_append`, by which a piece that is written after
others continues them, and `write_of_prefix`, by which a sink that has failed
stays as it is.  A sink that never fails is `Boundless`.
-/

namespace LineShell

namespace Sink

/-! ## What one write does -/

/-- The bytes that a sink takes of those that are written to it. -/
def accepted (s : Sink) (bs : Bytes) : Bytes :=
  match s.room with
  | none => bs
  | some n => bs.take n

theorem accepted_of_unbounded {s : Sink} (h : s.room = none) (bs : Bytes) :
    s.accepted bs = bs := by
  simp only [accepted, h]

theorem accepted_prefix (s : Sink) (bs : Bytes) : s.accepted bs <+: bs := by
  unfold accepted
  split
  · exact List.prefix_refl _
  · exact List.take_prefix _ _

/-- Whether a sink has room for bytes. -/
def HasRoom (s : Sink) (bs : Bytes) : Prop := ∀ n ∈ s.room, bs.length ≤ n

theorem write_result (s : Sink) (bs : Bytes) :
    ((s.write bs).1 = .ok () ∧ s.HasRoom bs) ∨
      ((s.write bs).1 = .error s.fullFault ∧ ¬ s.HasRoom bs) := by
  unfold write HasRoom
  cases s.room with
  | none => simp
  | some n => by_cases hn : bs.length ≤ n <;> simp [hn]

theorem written_write (s : Sink) (bs : Bytes) :
    (s.write bs).2.written = s.written ++ s.accepted bs := by
  unfold write accepted
  cases hroom : s.room with
  | none => simp [written]
  | some n =>
    by_cases hn : bs.length ≤ n
    · simp [written, hn, List.take_of_length_le hn]
    · simp [written, hn]

/-- A write that succeeds takes everything. -/
theorem written_of_ok {s : Sink} {bs : Bytes} (h : (s.write bs).1 = .ok ()) :
    (s.write bs).2.written = s.written ++ bs := by
  have haccepted : s.accepted bs = bs := by
    rcases s.write_result bs with ⟨-, hfits⟩ | ⟨herror, -⟩
    · unfold accepted
      cases hroom : s.room with
      | none => rfl
      | some n => exact List.take_of_length_le (hfits n hroom)
    · rw [h] at herror
      cases herror
  rw [written_write, haccepted]

theorem room_write (s : Sink) (bs : Bytes) :
    (s.write bs).2.room = s.room.map fun n => n - bs.length := by
  unfold write
  cases hroom : s.room with
  | none => rfl
  | some n =>
    by_cases hn : bs.length ≤ n
    · simp [hn]
    · simp only [if_neg hn, Option.map_some, Option.some.injEq]
      omega

@[simp] theorem fullFault_write (s : Sink) (bs : Bytes) :
    (s.write bs).2.fullFault = s.fullFault := by
  unfold write
  split
  · rfl
  · split <;> rfl

@[simp] theorem flushFault_write (s : Sink) (bs : Bytes) :
    (s.write bs).2.flushFault = s.flushFault := by
  unfold write
  split
  · rfl
  · split <;> rfl

/-! ## Sinks that cannot be told apart -/

/-- Two sinks hold the same bytes and take the same from now on. -/
structure Alike (s t : Sink) : Prop where
  written : s.written = t.written
  room : s.room = t.room
  fullFault : s.fullFault = t.fullFault
  flushFault : s.flushFault = t.flushFault

namespace Alike

theorem trans {s t u : Sink} (h : Alike s t) (h' : Alike t u) : Alike s u :=
  ⟨h.written.trans h'.written, h.room.trans h'.room, h.fullFault.trans h'.fullFault,
    h.flushFault.trans h'.flushFault⟩

theorem flush {s t : Sink} (h : Alike s t) : s.flush = t.flush := by
  unfold Sink.flush
  rw [h.flushFault]

end Alike

/-- Nothing can always be written, and leaves a sink as it is. -/
theorem write_nil (s : Sink) : (s.write []).1 = .ok () ∧ Alike s (s.write []).2 := by
  constructor
  · rcases s.write_result [] with ⟨hok, -⟩ | ⟨-, hfull⟩
    · exact hok
    · exact absurd (fun n _ => Nat.zero_le n) hfull
  · refine ⟨?_, ?_, (s.fullFault_write []).symm, (s.flushFault_write []).symm⟩
    · have haccepted : s.accepted [] = [] := List.prefix_nil.1 (s.accepted_prefix [])
      rw [written_write, haccepted, List.append_nil]
    · rw [room_write]
      cases s.room <;> rfl

/-- Only these facts about a write matter to what comes later. -/
theorem write_congr {s t : Sink} {bs cs : Bytes}
    (hroom : s.HasRoom bs ↔ t.HasRoom cs) (hfault : s.fullFault = t.fullFault) :
    (s.write bs).1 = (t.write cs).1 := by
  rcases s.write_result bs with ⟨hs, hfits⟩ | ⟨hs, hfull⟩
  · rcases t.write_result cs with ⟨ht, -⟩ | ⟨-, ht⟩
    · rw [hs, ht]
    · exact absurd (hroom.1 hfits) ht
  · rcases t.write_result cs with ⟨-, ht⟩ | ⟨ht, -⟩
    · exact absurd (hroom.2 ht) hfull
    · rw [hs, ht, hfault]

/-- **A piece that is written after others continues them.** -/
theorem Alike.write_append {s t : Sink} {before : Bytes} (hok : (t.write before).1 = .ok ())
    (h : Alike s (t.write before).2) (bs : Bytes) :
    (s.write bs).1 = (t.write (before ++ bs)).1 ∧
      Alike (s.write bs).2 (t.write (before ++ bs)).2 := by
  have hfits : t.HasRoom before := by
    rcases t.write_result before with ⟨-, hfits⟩ | ⟨herror, -⟩
    · exact hfits
    · rw [hok] at herror
      cases herror
  have hroom : s.room = t.room.map fun n => n - before.length := h.room.trans (t.room_write before)
  have hfault : s.fullFault = t.fullFault := h.fullFault.trans (t.fullFault_write before)
  have haccepted : t.accepted before ++ s.accepted bs = t.accepted (before ++ bs) := by
    unfold accepted
    rw [hroom]
    cases ht : t.room with
    | none => rfl
    | some n => simp only [Option.map_some, List.take_append]
  refine ⟨write_congr ?_ hfault, ?_, ?_, ?_, ?_⟩
  · unfold HasRoom
    rw [hroom]
    cases ht : t.room with
    | none => simp
    | some n =>
      have hn : before.length ≤ n := hfits n ht
      simp only [Option.map_some, Option.mem_some_iff, forall_eq', List.length_append]
      omega
  · rw [written_write, written_write, h.written, written_write, List.append_assoc, haccepted]
  · rw [room_write, room_write, hroom, Option.map_map]
    congr 1
    funext n
    simp only [Function.comp_apply, List.length_append]
    omega
  · rw [fullFault_write, fullFault_write, hfault]
  · rw [flushFault_write, flushFault_write, h.flushFault, flushFault_write]

/-- A sink that has failed takes nothing of what would have come next. -/
theorem write_of_prefix {s : Sink} {before bs : Bytes} {f : Fault}
    (h : (s.write before).1 = .error f) (hbegin : before <+: bs) :
    (s.write bs).1 = .error f ∧ Alike (s.write before).2 (s.write bs).2 := by
  rcases s.write_result before with ⟨hok, -⟩ | ⟨herror, hfull⟩
  · rw [h] at hok
    cases hok
  obtain ⟨n, hn, hlt⟩ : ∃ n, s.room = some n ∧ n < before.length := by
    cases hroom : s.room with
    | none => exact absurd (fun n hn => by rw [hroom] at hn; cases hn) hfull
    | some n =>
      refine ⟨n, rfl, Nat.lt_of_not_le fun hle => hfull fun m hm => ?_⟩
      obtain rfl : n = m := Option.some.inj (hroom.symm.trans hm)
      exact hle
  have hle : before.length ≤ bs.length := hbegin.length_le
  have hfull' : ¬ s.HasRoom bs := fun hfits => by
    have := hfits n hn
    omega
  have haccepted : s.accepted before = s.accepted bs := by
    simp only [accepted, hn]
    obtain ⟨rest, rfl⟩ := hbegin
    rw [List.take_append_of_le_length (Nat.le_of_lt hlt)]
  refine ⟨?_, ?_, ?_, ?_, ?_⟩
  · rw [← h]
    exact write_congr ⟨fun hfits => absurd hfits hfull', fun hfits => absurd hfits hfull⟩ rfl
  · rw [written_write, written_write, haccepted]
  · rw [room_write, room_write, hn, Option.map_some, Option.map_some]
    congr 1
    omega
  · rw [fullFault_write, fullFault_write]
  · rw [flushFault_write, flushFault_write]

/-! ## Sinks that take everything -/

/-- A sink that takes everything. -/
structure Boundless (s : Sink) : Prop where
  room : s.room = none
  flushFault : s.flushFault = none

namespace Boundless

theorem write {s : Sink} (h : s.Boundless) (bs : Bytes) :
    (s.write bs).1 = .ok () ∧ (s.write bs).2.Boundless ∧
      (s.write bs).2.written = s.written ++ bs := by
  refine ⟨?_, ⟨?_, ?_⟩, ?_⟩
  · rcases s.write_result bs with ⟨hok, -⟩ | ⟨-, hfull⟩
    · exact hok
    · refine absurd (fun n hn => ?_) hfull
      rw [h.room] at hn
      cases hn
  · rw [room_write, h.room]
    rfl
  · rw [flushFault_write, h.flushFault]
  · rw [written_write, accepted_of_unbounded h.room]

/-- Copying fails only where the source does. -/
theorem copy {s : Sink} (h : s.Boundless) (source : Source) :
    s.copy source = (source.atEnd, (s.write source.bytes).2) := by
  obtain ⟨hok, -⟩ := h.write source.bytes
  unfold Sink.copy Source.atEnd
  rcases hw : s.write source.bytes with ⟨r, s'⟩
  rw [hw] at hok
  obtain rfl : r = .ok () := hok
  cases source.fault <;> rfl

theorem flush {s : Sink} (h : s.Boundless) : s.flush = .ok () := by
  unfold Sink.flush
  rw [h.flushFault]

end Boundless

/-- A sink that never fails has no bound. -/
theorem boundless_of_never_fails {s : Sink} (hwrite : ∀ bs, (s.write bs).1 = .ok ())
    (hflush : s.flush = .ok ()) : s.Boundless := by
  constructor
  · cases hroom : s.room with
    | none => rfl
    | some n =>
      rcases s.write_result (List.replicate (n + 1) 0) with ⟨-, hfits⟩ | ⟨herror, -⟩
      · have hle := hfits n hroom
        rw [List.length_replicate] at hle
        omega
      · rw [hwrite] at herror
        cases herror
  · unfold flush at hflush
    cases hfault : s.flushFault with
    | none => rfl
    | some f =>
      rw [hfault] at hflush
      cases hflush

end Sink

end LineShell
