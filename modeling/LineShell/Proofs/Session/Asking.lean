import LineShell.Proofs.Session.Shifted

/-!
# Lines that are asked for

Where lines cannot be edited a session shows a prompt before each of them, in the same
sink that its commands write to.  What it gathers does not depend on that
(`gatherAsking_boundless`), and no line sees what has been written.  So prompts are all
that asking adds to a session.  Main statement: `loopAsking_same`.
-/

namespace LineShell.Session

/-! ## Prompts -/

namespace Prompts

/-- What asking for a line writes when so much of a text has been gathered. -/
def shown (prompts : Option Prompts) (text : String) : Bytes :=
  match prompts with
  | none => []
  | some p => bytesOf (p.before text)

/-- A sink that takes everything takes a prompt. -/
theorem ask_boundless (prompts : Option Prompts) (text : String) {out : Sink}
    (h : out.Boundless) :
    ∃ out', ask prompts text out = (.ok (), out') ∧ out'.Boundless ∧
      out'.written = out.written ++ shown prompts text := by
  cases prompts with
  | none => exact ⟨out, rfl, h, (List.append_nil _).symm⟩
  | some p =>
    obtain ⟨hok, hboundless, hwritten⟩ := h.write (bytesOf (p.before text))
    unfold ask
    rcases hwrite : out.write (bytesOf (p.before text)) with ⟨r, out'⟩
    rw [hwrite] at hok hboundless hwritten
    cases hok
    refine ⟨out', ?_, hboundless, hwritten⟩
    simp only [hwrite, hboundless.flush]

end Prompts

/-! ## Gathering -/

section

variable {prompts : Option Prompts} {reader reader' : Words.Reader} {text line : String}
  {supply rest : Supply} {out out' : Sink} {bs : Bytes}

theorem gatherAsking_ended (hask : Prompts.ask prompts text out = (.ok (), out'))
    (hnext : supply.next? = none) :
    gatherAsking prompts reader text supply out = (.unfinished, out') := by
  rw [gatherAsking, hask]
  dsimp only
  split
  · rfl
  · next h => cases hnext.symm.trans h

theorem gatherAsking_garbled (hask : Prompts.ask prompts text out = (.ok (), out'))
    (hnext : supply.next? = some (bs, rest)) (hline : Typed.line? bs = none) :
    gatherAsking prompts reader text supply out = (.fault .notUtf8, out') := by
  rw [gatherAsking, hask]
  dsimp only
  split
  · next h => cases hnext.symm.trans h
  · next h =>
    cases hnext.symm.trans h
    rw [hline]

theorem gatherAsking_misuse {m : Misuse} (hask : Prompts.ask prompts text out = (.ok (), out'))
    (hnext : supply.next? = some (bs, rest)) (hline : Typed.line? bs = some line)
    (hfeed : reader.feed (line ++ "\n").toList = (.error m, reader')) :
    gatherAsking prompts reader text supply out = (.misuse m, out') := by
  rw [gatherAsking, hask]
  dsimp only
  split
  · next h => cases hnext.symm.trans h
  · next h =>
    cases hnext.symm.trans h
    simp only [hline, hfeed]

theorem gatherAsking_line (hask : Prompts.ask prompts text out = (.ok (), out'))
    (hnext : supply.next? = some (bs, rest)) (hline : Typed.line? bs = some line)
    (hfeed : reader.feed (line ++ "\n").toList = (.ok (), reader')) :
    gatherAsking prompts reader text supply out =
      match reader'.status with
      | .done => (.command (text ++ line ++ "\n") rest, out')
      | .waiting => gatherAsking prompts reader' (text ++ line ++ "\n") rest out' := by
  rw [gatherAsking, hask]
  dsimp only
  split
  · next h => cases hnext.symm.trans h
  · next h =>
    cases hnext.symm.trans h
    cases hstatus : reader'.status with
    | done => simp only [hline, hfeed, hstatus]
    | waiting => simp only [hline, hfeed, hstatus]

end

/-- Two sessions gather the same if all that they ask for is taken, whatever their
sinks have to do with each other. -/
theorem gatherAsking_related {prompts prompts' : Option Prompts} {R : Sink → Sink → Prop}
    (hask : ∀ text o o', R o o' → ∃ u u', Prompts.ask prompts text o = (.ok (), u) ∧
      Prompts.ask prompts' text o' = (.ok (), u') ∧ R u u')
    (reader : Words.Reader) (text : String) (supply : Supply) {out out' : Sink}
    (h : R out out') :
    ∃ next u u', gatherAsking prompts reader text supply out = (next, u) ∧
      gatherAsking prompts' reader text supply out' = (next, u') ∧ R u u' := by
  induction hsize : supply.size using Nat.strongRecOn
    generalizing reader text supply out out' with
  | _ size ih =>
    obtain ⟨u, u', hu, hu', hR⟩ := hask text out out' h
    rcases hnext : supply.next? with _ | ⟨bs, rest⟩
    · exact ⟨_, u, u', gatherAsking_ended hu hnext, gatherAsking_ended hu' hnext, hR⟩
    have hless := hsize ▸ Supply.size_next_lt hnext
    rcases hline : Typed.line? bs with _ | line
    · exact ⟨_, u, u', gatherAsking_garbled hu hnext hline,
        gatherAsking_garbled hu' hnext hline, hR⟩
    rcases hfeed : reader.feed (line ++ "\n").toList with ⟨m | _, reader'⟩
    · exact ⟨_, u, u', gatherAsking_misuse hu hnext hline hfeed,
        gatherAsking_misuse hu' hnext hline hfeed, hR⟩
    rw [gatherAsking_line hu hnext hline hfeed, gatherAsking_line hu' hnext hline hfeed]
    cases reader'.status with
    | done => exact ⟨_, u, u', rfl, rfl, hR⟩
    | waiting => exact ih rest.size hless reader' (text ++ line ++ "\n") rest hR rfl

/-- Without prompts nothing is written. -/
theorem gatherAsking_none (reader : Words.Reader) (text : String) (supply : Supply)
    (out : Sink) : gatherAsking none reader text supply out = (gather reader text supply, out) := by
  have hask : ∀ text (o o' : Sink), o = out ∧ o' = .memory → ∃ u u',
      Prompts.ask none text o = (.ok (), u) ∧ Prompts.ask none text o' = (.ok (), u') ∧
        u = out ∧ u' = .memory := by
    rintro text o o' ⟨rfl, rfl⟩
    exact ⟨o, .memory, rfl, rfl, rfl, rfl⟩
  obtain ⟨next, u, u', hu, hu', rfl, rfl⟩ :=
    gatherAsking_related hask reader text supply ⟨rfl, rfl⟩
  rw [gather, hu, hu']

theorem gatherAsking_of_gather {reader : Words.Reader} {text : String} {supply : Supply}
    {out : Sink} {next : Next} (h : gather reader text supply = next) :
    gatherAsking none reader text supply out = (next, out) := by
  rw [gatherAsking_none, h]

/-- **What is gathered does not depend on the prompts**, where the sink takes them. -/
theorem gatherAsking_boundless (prompts : Option Prompts) (reader : Words.Reader)
    (text : String) (supply : Supply) {out : Sink} (h : out.Boundless) :
    ∃ out' more, gatherAsking prompts reader text supply out = (gather reader text supply, out') ∧
      out'.Boundless ∧ out'.written = out.written ++ more := by
  have hask : ∀ text (o o' : Sink),
      (o.Boundless ∧ ∃ more, o.written = out.written ++ more) ∧ o' = .memory → ∃ u u',
      Prompts.ask prompts text o = (.ok (), u) ∧ Prompts.ask none text o' = (.ok (), u') ∧
        (u.Boundless ∧ ∃ more, u.written = out.written ++ more) ∧ u' = .memory := by
    rintro text o o' ⟨⟨hboundless, more, hmore⟩, rfl⟩
    obtain ⟨u, hu, hboundless', hwritten⟩ := Prompts.ask_boundless prompts text hboundless
    refine ⟨u, .memory, hu, rfl, ⟨hboundless', more ++ Prompts.shown prompts text, ?_⟩, rfl⟩
    rw [hwritten, hmore, List.append_assoc]
  obtain ⟨next, u, u', hu, hu', ⟨hboundless, more, hmore⟩, rfl⟩ :=
    gatherAsking_related hask reader text supply ⟨⟨h, [], (List.append_nil _).symm⟩, rfl⟩
  rw [gather, hu']
  exact ⟨u, more, hu, hboundless, hmore⟩

theorem gather_line {reader reader' : Words.Reader} {text line : String} {supply rest : Supply}
    {bs : Bytes} (hnext : supply.next? = some (bs, rest)) (hline : Typed.line? bs = some line)
    (hfeed : reader.feed (line ++ "\n").toList = (.ok (), reader')) :
    gather reader text supply =
      match reader'.status with
      | .done => .command (text ++ line ++ "\n") rest
      | .waiting => gather reader' (text ++ line ++ "\n") rest := by
  rw [gather, gatherAsking_line rfl hnext hline hfeed]
  cases reader'.status <;> rfl

/-! ## The rounds of a session -/

section

variable (host : Host) {prompts : Option Prompts} {ahead : Bytes} {s : Session} {out out' : Sink}
  {text : String} {rest : Supply}

theorem loopAsking_unfinished
    (h : gatherAsking prompts .start "" ⟨ahead, s.world.unread⟩ out = (.unfinished, out')) :
    s.loopAsking host prompts ahead out = (s.lastStatus, s, out') := by
  rw [loopAsking]
  split
  · next h' =>
    cases h.symm.trans h'
    rfl
  · next h' => cases h.symm.trans h'
  · next h' => cases h.symm.trans h'
  · next h' => cases h.symm.trans h'

theorem loopAsking_fault {f : Fault}
    (h : gatherAsking prompts .start "" ⟨ahead, s.world.unread⟩ out = (.fault f, out')) :
    s.loopAsking host prompts ahead out =
      (1, { s with world := s.world.complain (report f) }, out') := by
  rw [loopAsking]
  split
  · next h' => cases h.symm.trans h'
  · next h' =>
    cases h.symm.trans h'
    rfl
  · next h' => cases h.symm.trans h'
  · next h' => cases h.symm.trans h'

theorem loopAsking_misuse {m : Misuse}
    (h : gatherAsking prompts .start "" ⟨ahead, s.world.unread⟩ out = (.misuse m, out')) :
    s.loopAsking host prompts ahead out =
      (1, { s with world := s.world.complain ("Error: " ++ m.message ++ "\n") }, out') := by
  rw [loopAsking]
  split
  · next h' => cases h.symm.trans h'
  · next h' => cases h.symm.trans h'
  · next h' =>
    cases h.symm.trans h'
    rfl
  · next h' => cases h.symm.trans h'

theorem loopAsking_command
    (h : gatherAsking prompts .start "" ⟨ahead, s.world.unread⟩ out = (.command text rest, out')) :
    s.loopAsking host prompts ahead out =
      match (s.withUnread rest.unread).runGroup host text out' with
      | (some code, s, out) => (code, s, out)
      | (none, s, out) => s.loopAsking host prompts rest.ahead out := by
  rw [loopAsking]
  split
  · next h' => cases h.symm.trans h'
  · next h' => cases h.symm.trans h'
  · next h' => cases h.symm.trans h'
  · next h' =>
    cases h.symm.trans h'
    split
    · next hrun => simp only [hrun]
    · next hrun => simp only [hrun]

theorem loop_unfinished (h : gather .start "" ⟨ahead, s.world.unread⟩ = .unfinished) :
    s.loop host ahead out = (s.lastStatus, s, out) :=
  loopAsking_unfinished host (gatherAsking_of_gather h)

theorem loop_fault {f : Fault} (h : gather .start "" ⟨ahead, s.world.unread⟩ = .fault f) :
    s.loop host ahead out = (1, { s with world := s.world.complain (report f) }, out) :=
  loopAsking_fault host (gatherAsking_of_gather h)

theorem loop_command (h : gather .start "" ⟨ahead, s.world.unread⟩ = .command text rest) :
    s.loop host ahead out =
      match (s.withUnread rest.unread).runGroup host text out with
      | (some code, s, out) => (code, s, out)
      | (none, s, out) => s.loop host rest.ahead out :=
  loopAsking_command host (gatherAsking_of_gather h)

end

/-! ## Sessions with and without prompts -/

/-- Two sessions that have the same to read and have reported the same. -/
structure Same (s s' : Session) : Prop where
  vars : s'.world.vars = s.world.vars
  directory : s'.world.directory = s.world.directory
  files : s'.world.files = s.world.files
  unread : s'.world.unread = s.world.unread
  errors : s'.world.errors.bytes = s.world.errors.bytes
  lastStatus : s'.lastStatus = s.lastStatus

namespace Same

variable {s s' : Session}

theorem refl (s : Session) : Same s s := ⟨rfl, rfl, rfl, rfl, rfl, rfl⟩

theorem withUnread (h : Same s s') (unread : Bytes) :
    Same (s.withUnread unread) (s'.withUnread unread) := { h with unread := rfl }

theorem complain (h : Same s s') (text : String) {status status' : Status}
    (hstatus : status' = status) :
    Same ⟨s.world.complain text, status⟩ ⟨s'.world.complain text, status'⟩ :=
  { h with errors := by simp [World.complain, h.errors], lastStatus := hstatus }

end Same

theorem settle_eq {s : Session} {out : Sink} (h : out.flush = .ok ()) :
    s.settle out = (none, s, out) := by
  rw [settle, h]

/-- The status that a line comes to is remembered, if it comes to one. -/
theorem lastStatus_runLine {host : Host} {line : String} {input : Input} {out out' : Sink}
    {s s' : Session} {result : Except Failure Status}
    (h : s.runLine host line input out = (result, s', out')) :
    s'.lastStatus = result.toOption.getD s.lastStatus := by
  unfold runLine at h
  split at h
  · cases h
    rfl
  · split at h
    · cases h
      rfl
    · cases h
      rfl

section

variable {s s' : Session} {o o' : Sink}

theorem runLine_same (h : Same s s') (ho : o.Boundless) (ho' : o'.Boundless) (host : Host)
    (line : String) :
    ∃ result t p t' p' more, s.runLine host line .inherited o = (result, t, p) ∧
      s'.runLine host line .inherited o' = (result, t', p') ∧ Same t t' ∧
      p.Boundless ∧ p'.Boundless ∧ p.written = o.written ++ more ∧
      p'.written = o'.written ++ more := by
  have hstart := Alike.start h.vars h.directory h.files h.unread ho ho'
  obtain ⟨result, t, p, t', p', hrun, hrun', halike⟩ := runLine_alike hstart host line
  obtain ⟨more, complaints, hwritten, hwritten', herrors, herrors'⟩ := halike.written
  refine ⟨result, t, p, t', p', more, hrun, hrun', ⟨halike.vars, halike.directory, halike.files,
    halike.unread, ?_, ?_⟩, halike.boundless.1, halike.boundless.2, hwritten, hwritten'⟩
  · rw [herrors, herrors', h.errors]
  · rw [lastStatus_runLine hrun, lastStatus_runLine hrun', h.lastStatus]

theorem runGroup_same (h : Same s s') (ho : o.Boundless) (ho' : o'.Boundless) (host : Host)
    (text : String) :
    ∃ code t p t' p' more, s.runGroup host text o = (code, t, p) ∧
      s'.runGroup host text o' = (code, t', p') ∧ Same t t' ∧
      p.Boundless ∧ p'.Boundless ∧ p.written = o.written ++ more ∧
      p'.written = o'.written ++ more := by
  unfold runGroup
  by_cases hblank : text.toList.all isBlank
  · simp only [if_pos hblank]
    exact ⟨none, s, o, s', o', [], rfl, rfl, h, ho, ho', (List.append_nil _).symm,
      (List.append_nil _).symm⟩
  · simp only [if_neg hblank]
    obtain ⟨result, t, p, t', p', more, hrun, hrun', hsame, hp, hp', hmore⟩ :=
      runLine_same h ho ho' host text
    rw [hrun, hrun']
    cases result with
    | ok status =>
      exact ⟨none, t, p, t', p', more, settle_eq hp.flush, settle_eq hp'.flush, hsame, hp, hp',
        hmore⟩
    | error e =>
      cases e with
      | exit code => exact ⟨some code, t, p, t', p', more, rfl, rfl, hsame, hp, hp', hmore⟩
      | _ =>
        exact ⟨none, _, p, _, p', more, settle_eq hp.flush, settle_eq hp'.flush,
          hsame.complain _ rfl, hp, hp', hmore⟩

/-- **Prompts are all that asking adds.**  A session that asks for its lines comes to the
status and to the world that it comes to without, and what is written without prompts
is written with them in the same order. -/
theorem loopAsking_same (host : Host) (prompts : Option Prompts) (ahead : Bytes)
    (h : Same s s') (ho : o.Boundless) (ho' : o'.Boundless)
    (hwritten : o'.written.Sublist o.written) :
    ∃ status t p t' p', s.loopAsking host prompts ahead o = (status, t, p) ∧
      s'.loop host ahead o' = (status, t', p') ∧ Same t t' ∧ p'.written.Sublist p.written := by
  -- Every group uses up some of what is left to read, whether it has been fetched or not.
  induction hsize : ahead.length + s.world.unread.length using Nat.strongRecOn
    generalizing ahead s s' o o' with
  | _ size ih =>
    obtain ⟨u, shown, hgather, hu, hshown⟩ :=
      gatherAsking_boundless prompts .start "" ⟨ahead, s.world.unread⟩ ho
    have hasked : o'.written.Sublist u.written :=
      hshown ▸ hwritten.trans (List.sublist_append_left _ _)
    rcases hnext : gather .start "" ⟨ahead, s.world.unread⟩ with ⟨text, rest⟩ | _ | f | m
    all_goals
      rw [hnext] at hgather
      rw [← h.unread] at hnext
    · obtain ⟨code, t, p, t', p', more, hrun, hrun', hsame, hp, hp', hmore, hmore'⟩ :=
        runGroup_same (h.withUnread rest.unread) hu ho' host text
      rw [loopAsking_command host hgather, loop_command host hnext, hrun, hrun']
      have hsub : p'.written.Sublist p.written := by
        rw [hmore, hmore']
        exact List.Sublist.append_right hasked more
      cases code with
      | some code => exact ⟨code, t, p, t', p', rfl, rfl, hsame, hsub⟩
      | none =>
        have hless := size_gatherAsking_lt (congrArg Prod.fst hgather)
        have hleft := (unread_runGroup_suffix host text (s.withUnread rest.unread) u).length_le
        rw [hrun] at hleft
        refine ih _ ?_ rest.ahead hsame hp hp' hsub rfl
        simp only [Supply.size] at hless
        change t.world.unread.length ≤ rest.unread.length at hleft
        omega
    · rw [loopAsking_unfinished host hgather, loop_unfinished host hnext, h.lastStatus]
      exact ⟨_, s, u, s', o', rfl, rfl, h, hasked⟩
    · rw [loopAsking_fault host hgather, loop_fault host hnext]
      exact ⟨1, _, u, _, o', rfl, rfl, h.complain (report f) h.lastStatus, hasked⟩
    · rw [loopAsking_misuse host hgather,
        loop, loopAsking_misuse host (gatherAsking_of_gather hnext)]
      exact ⟨1, _, u, _, o', rfl, rfl, h.complain _ h.lastStatus, hasked⟩

end

end LineShell.Session
