import LineShell.Proofs.Stream.Sink
import LineShell.Utility.Kind

/-!
# Utilities do not see what they have written

A utility reads its scope, the files and its input, and never its own output.
So what its output held before makes no difference to what it does.
`Stage.Shifted` relates two stages that differ in what their streams held
before, and `Shifted.Same` relates outcomes that agree and leave such stages.

There is one lemma for each operation on a stage, and one for each utility; each is
assembled from those of the operations it calls.  Main statements: `Kind.run_same`
for every utility, and `Kind.run_shifted` with a bound on the status for those that
read their input.
-/

namespace LineShell

namespace Stage

/-- Two stages that differ only in what their streams held before. -/
structure Shifted (out err : Bytes) (st st' : Stage) : Prop where
  scope : st'.scope = st.scope
  files : st'.files = st.files
  directory : st'.directory = st.directory
  input : st'.input = st.input
  taken : st'.taken = st.taken
  boundless : st.output.Boundless
  boundless' : st'.output.Boundless
  written : st'.output.written = out ++ st.output.written
  errors : st'.errors.bytes = err ++ st.errors.bytes

namespace Shifted

/-- Two outcomes that agree but for what the streams held before. -/
def Same {α : Type} (out err : Bytes) (p p' : α × Stage) : Prop :=
  ∃ (a : α) (st st' : Stage), p = (a, st) ∧ p' = (a, st') ∧ Shifted out err st st'

variable {out err : Bytes} {st st' : Stage}

theorem same {α : Type} (h : Shifted out err st st') (a : α) : Same out err (a, st) (a, st') :=
  ⟨a, st, st', rfl, rfl, h⟩

/-! ## Operations on a stage -/

theorem complain (h : Shifted out err st st') (text : String) :
    Shifted out err (st.complain text) (st'.complain text) :=
  { h with
    errors := by
      unfold Stage.complain
      rw [Record.bytes_add, Record.bytes_add, h.errors, List.append_assoc] }

theorem advance (h : Shifted out err st st') (n : Nat) :
    Shifted out err (st.advance n) (st'.advance n) :=
  { h with
    input := congrArg (fun s => Source.advance s n) h.input
    taken := congrArg (fun t => t + n) h.taken }

theorem drain (h : Shifted out err st st') : Shifted out err st.drain st'.drain := by
  unfold Stage.drain
  rw [h.input]
  exact h.advance _

theorem output (h : Shifted out err st st') (bs : Bytes) :
    Shifted out err { st with output := (st.output.write bs).2 }
      { st' with output := (st'.output.write bs).2 } := by
  obtain ⟨-, hboundless, hwritten⟩ := h.boundless.write bs
  obtain ⟨-, hboundless', hwritten'⟩ := h.boundless'.write bs
  exact { h with
    boundless := hboundless
    boundless' := hboundless'
    written := by rw [hwritten, hwritten', h.written, List.append_assoc] }

/-- Writes always succeed here. -/
theorem write (h : Shifted out err st st') (bs : Bytes) :
    ∃ u u', st.write bs = (.ok (), u) ∧ st'.write bs = (.ok (), u') ∧ Shifted out err u u' := by
  refine ⟨_, _, ?_, ?_, h.output bs⟩
  · rw [← (h.boundless.write bs).1]
    rfl
  · rw [← (h.boundless'.write bs).1]
    rfl

theorem writeLine (h : Shifted out err st st') (text : String) :
    ∃ u u', st.writeLine text = (.ok (), u) ∧ st'.writeLine text = (.ok (), u') ∧
      Shifted out err u u' :=
  h.write _

theorem copyInput (h : Shifted out err st st') : Same out err st.copyInput st'.copyInput := by
  unfold Stage.copyInput
  rw [h.boundless.copy, h.boundless'.copy, h.input]
  exact (h.drain.output st.input.bytes).same _

theorem readInput (h : Shifted out err st st') : Same out err st.readInput st'.readInput := by
  unfold Stage.readInput
  rw [h.input]
  exact h.drain.same _

/-- Both stages go to the same directory. -/
theorem move (h : Shifted out err st st') (here : Location) (dir : String) :
    Shifted out err
      { st with directory := here, scope := st.scope.changeDirectory dir }
      { st' with directory := here, scope := st'.scope.changeDirectory dir } :=
  { h with
    scope := congrArg (fun s => Scope.changeDirectory s dir) h.scope
    directory := rfl }

theorem workingDirectory (h : Shifted out err st st') :
    st'.workingDirectory = st.workingDirectory := by
  unfold Stage.workingDirectory
  rw [h.scope, h.directory]

theorem path (h : Shifted out err st st') (name : String) : st'.path name = st.path name := by
  unfold Stage.path
  rw [h.workingDirectory]

theorem openFile (h : Shifted out err st st') (name : String) :
    st'.openFile name = st.openFile name := by
  unfold Stage.openFile
  rw [h.files, h.directory, h.path]

end Shifted

end Stage

open Stage (Shifted)
open Stage.Shifted (Same)

namespace Utility

variable {out err : Bytes} {st st' : Stage}

/-! ## Copying -/

namespace Cat

theorem input_same (h : Shifted out err st st') : Same out err (input st) (input st') := by
  obtain ⟨r, u, u', hu, hu', hshift⟩ := h.copyInput
  unfold input
  rw [hu, hu']
  cases r with
  | ok => exact hshift.same _
  | error f => exact hshift.same _

theorem file_same (h : Shifted out err st st') (name : String) :
    Same out err (file name st) (file name st') := by
  unfold file
  rw [h.openFile]
  cases st.openFile name with
  | error f => exact h.same _
  | ok node =>
    cases hcontent : node.content with
    | error f =>
      simp only [hcontent]
      exact h.same _
    | ok bs =>
      obtain ⟨u, u', hu, hu', hshift⟩ := h.write bs
      simp only [hcontent, hu, hu']
      exact hshift.same _

theorem all_same (h : Shifted out err st st') (names : List String) :
    Same out err (all names st) (all names st') := by
  induction names generalizing st st' with
  | nil => exact h.same _
  | cons name rest ih =>
    have hfirst : Same out err (if isInputName name then input st else file name st)
        (if isInputName name then input st' else file name st') := by
      split
      · exact input_same h
      · exact file_same h name
    obtain ⟨r, u, u', hu, hu', hshift⟩ := hfirst
    unfold all
    rw [hu, hu']
    cases r with
    | ok => exact ih hshift
    | error e => exact hshift.same _

theorem all_status {names : List String} {status : Status} (h : (all names st).1 = .ok status) :
    status = 0 := by
  induction names generalizing st with
  | nil => exact (Except.ok.inj h).symm
  | cons name rest ih =>
    unfold all at h
    split at h
    · exact ih h
    · cases h

end Cat

/-! ## Counting -/

namespace Wc

theorem read_same (h : Shifted out err st st') (name : String) :
    Same out err (read name st) (read name st') := by
  unfold read
  split
  · obtain ⟨r, u, u', hu, hu', hshift⟩ := h.readInput
    rw [hu, hu']
    cases r with
    | ok bs => exact hshift.same _
    | error f => exact hshift.same _
  · rw [h.files, h.directory, h.path]
    cases st.files.read st.directory (st.path name) with
    | ok bs => exact h.same _
    | error f => exact h.same _

theorem one_same (h : Shifted out err st st') (name label : String) :
    Same out err (one name label st) (one name label st') := by
  obtain ⟨r, u, u', hu, hu', hshift⟩ := read_same h name
  unfold one
  rw [hu, hu']
  cases r with
  | error e => exact hshift.same _
  | ok bs =>
    obtain ⟨v, v', hv, hv', hshift'⟩ := hshift.writeLine ((Counts.ofBytes bs).render ++ label)
    simp only [hv, hv']
    exact hshift'.same _

theorem all_same (h : Shifted out err st st') (names : List String) :
    Same out err (all names st) (all names st') := by
  induction names generalizing st st' with
  | nil => exact h.same _
  | cons name rest ih =>
    obtain ⟨r, u, u', hu, hu', hshift⟩ := one_same h name (" " ++ name)
    unfold all
    rw [hu, hu']
    cases r with
    | ok => exact ih hshift
    | error e => exact hshift.same _

theorem body_same (h : Shifted out err st st') (c : Options.Choice) :
    Same out err (body c st) (body c st') := by
  unfold body
  split
  · obtain ⟨r, u, u', hu, hu', hshift⟩ := one_same h "-" ""
    rw [hu, hu']
    cases r with
    | ok => exact hshift.same _
    | error e => exact hshift.same _
  · exact all_same h c.operands

theorem all_status {names : List String} {status : Status} (h : (all names st).1 = .ok status) :
    status = 0 := by
  induction names generalizing st with
  | nil => exact (Except.ok.inj h).symm
  | cons name rest ih =>
    unfold all at h
    split at h
    · exact ih h
    · cases h

theorem body_status {c : Options.Choice} {status : Status} (h : (body c st).1 = .ok status) :
    status = 0 := by
  unfold body at h
  split at h
  · split at h
    · exact (Except.ok.inj h).symm
    · cases h
  · exact all_status h

end Wc

/-! ## Searching -/

namespace Grep

theorem searchTo_same (h : Shifted out err st st') (c : Criteria) (s : Source) :
    Same out err (searchTo c s st) (searchTo c s st') := by
  obtain ⟨u, u', hu, hu', hshift⟩ := h.write (search c s).1
  unfold searchTo
  simp only [hu, hu']
  exact hshift.same _

theorem searchFile_same (h : Shifted out err st st') (isMatch : Matcher) (after : Nat)
    (name : String) :
    Same out err (searchFile isMatch after name st) (searchFile isMatch after name st') := by
  unfold searchFile
  rw [h.openFile]
  cases st.openFile name with
  | error f => exact h.same _
  | ok node =>
    cases hcontent : node.content with
    | error f =>
      simp only [hcontent]
      exact h.same _
    | ok bs =>
      simp only [hcontent]
      exact searchTo_same h _ _

theorem searchAll_same (h : Shifted out err st st') (isMatch : Matcher) (after : Nat)
    (names : List String) (failed matched : Bool) :
    Same out err (searchAll isMatch after names failed matched st)
      (searchAll isMatch after names failed matched st') := by
  induction names generalizing st st' failed matched with
  | nil => exact h.same _
  | cons name rest ih =>
    obtain ⟨r, u, u', hu, hu', hshift⟩ := searchFile_same h isMatch after name
    unfold searchAll
    rw [hu, hu']
    cases r with
    | ok m => exact ih hshift _ _
    | error f => exact ih (hshift.complain _) _ _

theorem searchWith_same (h : Shifted out err st st') (isMatch : Matcher) (c : Options.Choice) :
    Same out err (searchWith isMatch c st) (searchWith isMatch c st') := by
  unfold searchWith
  split
  · obtain ⟨r, u, u', hu, hu', hshift⟩ :=
      searchTo_same (h.advance (taken st.input)) ⟨isMatch, afterContext c, none⟩ st.input
    rw [h.input, hu, hu']
    cases r with
    | ok m => exact hshift.same _
    | error f => exact hshift.same _
  · exact searchAll_same h _ _ _ _ _

theorem body_same (h : Shifted out err st st') (c : Options.Choice) :
    Same out err (body c st) (body c st') := by
  unfold body
  dsimp only
  cases Pattern.compile (patternText c) (c.has "ignore-case") with
  | ok isMatch => exact searchWith_same h isMatch c
  | error why => exact h.same _

theorem searchAll_status {isMatch : Matcher} {after : Nat} {names : List String}
    {failed matched : Bool} {status : Status}
    (h : (searchAll isMatch after names failed matched st).1 = .ok status) :
    status = 0 ∨ status = 1 ∨ status = 2 := by
  induction names generalizing st failed matched with
  | nil =>
    obtain rfl := Except.ok.inj h
    cases failed with
    | true => exact .inr (.inr rfl)
    | false => cases matched with
      | true => exact .inl rfl
      | false => exact .inr (.inl rfl)
  | cons name rest ih =>
    unfold searchAll at h
    split at h
    · exact ih h
    · exact ih h

theorem body_status {c : Options.Choice} {status : Status} (h : (body c st).1 = .ok status) :
    status = 0 ∨ status = 1 ∨ status = 2 := by
  unfold body at h
  dsimp only at h
  split at h
  · unfold searchWith at h
    split at h
    · split at h
      · obtain rfl := Except.ok.inj h
        split
        · exact .inl rfl
        · exact .inr (.inl rfl)
      · cases h
    · exact searchAll_status h
  · cases h

end Grep

/-! ## Printing -/

theorem Echo.body_same (h : Shifted out err st st') (c : Options.Choice) :
    Same out err (body c st) (body c st') := by
  obtain ⟨u, u', hu, hu', hshift⟩ := h.write (bytesOf (text c.operands (!c.has "no-newline")))
  unfold body
  simp only [hu, hu']
  exact hshift.same _

theorem Pwd.body_same (h : Shifted out err st st') (c : Options.Choice) :
    Same out err (body c st) (body c st') := by
  obtain ⟨u, u', hu, hu', hshift⟩ := h.writeLine st.workingDirectory
  unfold body
  rw [h.workingDirectory]
  simp only [hu, hu']
  exact hshift.same _

/-! ## Moving and listing -/

theorem Cd.body_same (h : Shifted out err st st') (c : Options.Choice) :
    Same out err (body c st) (body c st') := by
  have htarget : target? c st' = target? c st := by
    unfold target?
    rw [h.scope]
  unfold body
  rw [htarget]
  cases target? c st with
  | none => exact h.same _
  | some target =>
    have hresolve : st'.files.resolve st'.directory (st.path target) =
        st.files.resolve st.directory (st.path target) := by rw [h.files, h.directory]
    simp only [h.path, hresolve]
    cases st.files.resolve st.directory (st.path target) with
    | error f => exact h.same _
    | ok l =>
      have hdirectory : st'.files.directoryAt st'.directory l.render =
          st.files.directoryAt st.directory l.render := by rw [h.files, h.directory]
      simp only [hdirectory]
      cases st.files.directoryAt st.directory l.render with
      | error f => exact h.same _
      | ok here => exact (h.move here l.render).same _

namespace Ls

theorem one_same (h : Shifted out err st st') (all : Bool) (path : String) :
    Same out err (one all path st) (one all path st') := by
  unfold one
  rw [h.files, h.directory]
  cases st.files.list st.directory path with
  | error f => exact h.same _
  | ok names =>
    obtain ⟨u, u', hu, hu', hshift⟩ :=
      h.write (bytesOf (String.join ((visible all names).map (· ++ "\n"))))
    simp only [hu, hu']
    exact hshift.same _

theorem several_same (h : Shifted out err st st') (all : Bool) (lead : String)
    (dirs : List String) : Same out err (several all lead dirs st) (several all lead dirs st') := by
  induction dirs generalizing st st' lead with
  | nil => exact h.same _
  | cons dir rest ih =>
    obtain ⟨u, u', hu, hu', hshift⟩ := h.write (bytesOf (lead ++ dir ++ ":\n"))
    obtain ⟨r, v, v', hv, hv', hshift'⟩ := one_same hshift all (u.path dir)
    unfold several
    simp only [hu, hu', hshift.path, hv, hv']
    cases r with
    | ok => exact ih hshift' "\n"
    | error e => exact hshift'.same _

theorem body_same (h : Shifted out err st st') (c : Options.Choice) :
    Same out err (body c st) (body c st') := by
  unfold body
  dsimp only
  split
  · obtain ⟨r, u, u', hu, hu', hshift⟩ := one_same h (c.has "all") st.workingDirectory
    rw [h.workingDirectory, hu, hu']
    cases r with
    | ok => exact hshift.same _
    | error e => exact hshift.same _
  · next dir _ =>
    obtain ⟨r, u, u', hu, hu', hshift⟩ := one_same h (c.has "all") (st.path dir)
    rw [h.path, hu, hu']
    cases r with
    | ok => exact hshift.same _
    | error e => exact hshift.same _
  · exact several_same h _ _ _

end Ls

/-! ## Running a utility -/

namespace Kind

theorem body_same (k : Kind) (h : Shifted out err st st') (c : Options.Choice) :
    Same out err (k.body c st) (k.body c st') := by
  cases k with
  | echo => exact Echo.body_same h c
  | cat => exact Cat.all_same h _
  | pwd => exact Pwd.body_same h c
  | wc => exact Wc.body_same h c
  | grep => exact Grep.body_same h c
  | ls => exact Ls.body_same h c
  | cd => exact Cd.body_same h c

/-- **What the output held before makes no difference**: a utility comes to the
same status, writes the same and leaves the same. -/
theorem run_same (k : Kind) (h : Shifted out err st st') (argv : List String) :
    ∃ status u u', k.run argv st = (.ok status, u) ∧ k.run argv st' = (.ok status, u') ∧
      Shifted out err u u' := by
  unfold run
  cases k.parse argv.tail with
  | error e => exact ⟨2, _, _, rfl, rfl, h.complain _⟩
  | ok request =>
    cases request with
    | help =>
      obtain ⟨u, u', hu, hu', hshift⟩ := h.write (bytesOf (k.form.help k.name))
      simp only [hu, hu']
      exact ⟨0, u, u', rfl, rfl, hshift⟩
    | run c =>
      obtain ⟨r, u, u', hu, hu', hshift⟩ := body_same k h c
      simp only [hu, hu']
      cases r with
      | ok status =>
        simp only [hshift.boundless.flush, hshift.boundless'.flush]
        exact ⟨status, u, u', rfl, rfl, hshift⟩
      | error e =>
        have hcomplain := hshift.complain (e.message ++ "\n")
        simp only [hcomplain.boundless.flush, hcomplain.boundless'.flush]
        exact ⟨1, _, _, rfl, rfl, hcomplain⟩

/-! ### Utilities that read their input -/

section

variable {k : Kind} (hk : k ∈ [cat, wc, grep])
include hk

theorem body_status {c : Options.Choice} {status : Status} (h : (k.body c st).1 = .ok status) :
    0 ≤ status ∧ status < 256 := by
  simp only [List.mem_cons, List.not_mem_nil, or_false] at hk
  rcases hk with rfl | rfl | rfl
  · obtain rfl := Cat.all_status h
    decide
  · obtain rfl := Wc.body_status h
    decide
  · rcases Grep.body_status h with rfl | rfl | rfl <;> decide

/-- The status of these utilities fits into a byte. -/
theorem run_status {argv : List String} {status : Status} (h : (k.run argv st).1 = .ok status) :
    0 ≤ status ∧ status < 256 := by
  unfold run at h
  split at h
  · obtain rfl := Except.ok.inj h
    decide
  · split at h
    · obtain rfl := Except.ok.inj h
      decide
    · cases h
  · next c _ =>
    rcases hbody : k.body c st with ⟨r, u⟩
    simp only [hbody] at h
    cases r with
    | ok status' =>
      have hstatus : (k.body c st).1 = .ok status' := by rw [hbody]
      dsimp only at h
      split at h
      · obtain rfl := Except.ok.inj h
        exact body_status hk hstatus
      · cases h
    | error e =>
      dsimp only at h
      split at h
      · obtain rfl := Except.ok.inj h
        decide
      · cases h

theorem run_shifted (h : Shifted out err st st') (argv : List String) :
    ∃ status u u', k.run argv st = (.ok status, u) ∧ k.run argv st' = (.ok status, u') ∧
      Shifted out err u u' ∧ 0 ≤ status ∧ status < 256 := by
  obtain ⟨status, u, u', hu, hu', hshift⟩ := run_same k h argv
  have hrun : (k.run argv st).1 = .ok status := by rw [hu]
  exact ⟨status, u, u', hu, hu', hshift, run_status hk hrun⟩

end

end Kind

end Utility

end LineShell
