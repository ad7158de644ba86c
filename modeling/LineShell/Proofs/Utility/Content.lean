import LineShell.Proofs.Files.Canonical
import LineShell.Proofs.Options.Operands
import LineShell.Proofs.Text.Basic
import LineShell.Proofs.Utility.Shifted

/-!
# Contents one after the other

`cat` and `wc` go through their arguments in the same way: each stands for some bytes, and
the first one without bytes ends the work.  What a name stands for depends on the names
before it in one thing only, whether the input has been read (`Stage.contentAfter`).

`Serves` says what a utility does with one name, and `each_serves` what comes of many; the two
utilities differ in what they print of a name.  Nothing that an argument looks like makes a
difference, since all of them stand behind `--` (`Kind.parse_operandsOnly`).  Main statement:
`content_in_order`.
-/

namespace LineShell

/-! ## What names stand for -/

namespace Stage

/-- The bytes that a name stands for, behind these names.  The first hyphen stands for all
of the input and leaves nothing to the others. -/
def contentAfter (st : Stage) (before : List String) (name : String) : Except Fault Bytes :=
  if name = "-" then .ok (if "-" ∈ before then [] else st.input.bytes)
  else st.files.read st.directory (st.path name)

/-- Names with what they stand for, behind other names. -/
def contentsAfter (st : Stage) (before : List String) :
    List String → List (String × Except Fault Bytes)
  | [] => []
  | name :: rest =>
    (name, st.contentAfter before name) :: st.contentsAfter (before ++ [name]) rest

/-- Names with what they stand for. -/
def contents (st : Stage) (names : List String) : List (String × Except Fault Bytes) :=
  st.contentsAfter [] names

/-- A stage that has come past some names and has written some bytes. -/
structure Past (st : Stage) (before : List String) (out : Bytes) (st' : Stage) : Prop where
  scope : st'.scope = st.scope
  files : st'.files = st.files
  directory : st'.directory = st.directory
  input : st'.input = .ofBytes (if "-" ∈ before then [] else st.input.bytes)
  boundless : st'.output.Boundless
  written : st'.output.written = st.output.written ++ out

namespace Past

variable {st st' : Stage} {before : List String} {out : Bytes}

theorem path (h : Past st before out st') (name : String) : st'.path name = st.path name := by
  unfold Stage.path Stage.workingDirectory
  rw [h.scope, h.directory]

theorem read (h : Past st before out st') (name : String) :
    st'.files.read st'.directory (st'.path name) = st.files.read st.directory (st.path name) := by
  rw [h.files, h.directory, h.path]

theorem input_or_file (h : Past st before out st') {name : String} {bs : Bytes}
    (hcontent : st.contentAfter before name = .ok bs) :
    (name = "-" ∧ st'.input = .ofBytes bs) ∨
      (name ≠ "-" ∧ st'.files.read st'.directory (st'.path name) = .ok bs) := by
  unfold contentAfter at hcontent
  split at hcontent
  · next hname =>
    obtain rfl := Except.ok.inj hcontent
    exact .inl ⟨hname, h.input⟩
  · next hname => exact .inr ⟨hname, (h.read name).trans hcontent⟩

theorem no_file (h : Past st before out st') {name : String} {f : Fault}
    (hcontent : st.contentAfter before name = .error f) :
    name ≠ "-" ∧ st'.files.read st'.directory (st'.path name) = .error f := by
  unfold contentAfter at hcontent
  split at hcontent
  · cases hcontent
  · next hname => exact ⟨hname, (h.read name).trans hcontent⟩

/-- Past one more name that is not a hyphen. -/
theorem file (h : Past st before out st') {name : String} (hname : name ≠ "-") (bs : Bytes) :
    Past st (before ++ [name]) (out ++ bs) { st' with output := (st'.output.write bs).2 } := by
  obtain ⟨-, hboundless, hwritten⟩ := h.boundless.write bs
  have hmem : "-" ∈ before ++ [name] ↔ "-" ∈ before := by simp [hname.symm]
  refine ⟨h.scope, h.files, h.directory, ?_, hboundless, ?_⟩
  · simp only [hmem]
    exact h.input
  · rw [← List.append_assoc, ← h.written]
    exact hwritten

/-- Past one more hyphen. -/
theorem hyphen (h : Past st before out st') (bs : Bytes) :
    Past st (before ++ ["-"]) (out ++ bs)
      { st'.drain with output := (st'.output.write bs).2 } := by
  obtain ⟨-, hboundless, hwritten⟩ := h.boundless.write bs
  have hmem : "-" ∈ before ++ ["-"] := by simp
  refine ⟨h.scope, h.files, h.directory, ?_, hboundless, ?_⟩
  · have hdrain : st'.drain.input = .ofBytes [] := by
      simp only [drain, advance, Source.advance, List.drop_length, h.input, Source.ofBytes]
    rw [if_pos hmem]
    exact hdrain
  · rw [← List.append_assoc, ← h.written]
    exact hwritten

end Past

end Stage

namespace Utility

/-- What can be read before the first fault. -/
def readable : List (String × Except Fault Bytes) → List (String × Bytes)
  | (name, .ok bs) :: rest => (name, bs) :: readable rest
  | _ => []

/-! ## One name after the other -/

/-- Does something with each name, up to the first complaint. -/
def each (one : String → Stage → Outcome Unit) : List String → Stage → Outcome Status
  | [], st => (.ok 0, st)
  | name :: rest, st =>
    match one name st with
    | (.ok (), st) => each one rest st
    | (.error e, st) => (.error e, st)

/-- A utility prints a piece of every name that stands for bytes, and complains about any
other. -/
structure Serves (piece : String → Bytes → Bytes) (one : String → Stage → Outcome Unit) :
    Prop where
  prints : ∀ {st st' before out}, Stage.Past st before out st' → ∀ {name bs},
    st.contentAfter before name = .ok bs →
    ∃ u, one name st' = (.ok (), u) ∧ Stage.Past st (before ++ [name]) (out ++ piece name bs) u
  complains : ∀ {st st' before out}, Stage.Past st before out st' → ∀ {name f},
    st.contentAfter before name = .error f → ∃ e, one name st' = (.error e, st')

theorem isInputName_iff {name : String} : isInputName name = true ↔ name = "-" := by
  simp [isInputName]

theorem each_serves {piece : String → Bytes → Bytes} {one : String → Stage → Outcome Unit}
    (hone : Serves piece one) {st st' : Stage} {before : List String}
    {out : Bytes} (h : Stage.Past st before out st') (names : List String) :
    ∃ result u, each one names st' = (result, u) ∧ u.output.Boundless ∧
      u.output.written = st.output.written ++
        (out ++ (readable (st.contentsAfter before names)).flatMap fun x => piece x.1 x.2) ∧
      ((result = .ok 0 ∧ (st.contentsAfter before names).all (·.2.isOk) = true) ∨
        ∃ e, result = .error e ∧ (st.contentsAfter before names).all (·.2.isOk) = false) := by
  induction names generalizing st' before out with
  | nil =>
    refine ⟨.ok 0, st', rfl, h.boundless, ?_, .inl ⟨rfl, rfl⟩⟩
    rw [h.written]
    simp [Stage.contentsAfter, readable]
  | cons name rest ih =>
    cases hcontent : st.contentAfter before name with
    | ok bs =>
      obtain ⟨u, hu, hpast⟩ := hone.prints h hcontent
      obtain ⟨result, v, hv, hboundless, hwritten, hresult⟩ := ih hpast
      refine ⟨result, v, ?_, hboundless, ?_, ?_⟩
      · rw [each, hu]
        exact hv
      · rw [hwritten]
        simp [Stage.contentsAfter, readable, hcontent]
      · simpa [Stage.contentsAfter, hcontent, Except.isOk, Except.toBool] using hresult
    | error f =>
      obtain ⟨e, he⟩ := hone.complains h hcontent
      refine ⟨.error e, st', ?_, h.boundless, ?_, .inr ⟨e, rfl, ?_⟩⟩
      · rw [each, he]
      · rw [h.written]
        simp [Stage.contentsAfter, readable, hcontent]
      · simp [Stage.contentsAfter, hcontent, Except.isOk, Except.toBool]

/-! ## Copying -/

namespace Cat

theorem all_eq_each (names : List String) (st : Stage) :
    all names st = each (fun name st => if isInputName name then input st else file name st)
      names st := by
  induction names generalizing st with
  | nil => rfl
  | cons name rest ih =>
    rw [all, each]
    generalize (if isInputName name then input st else file name st) = p
    rcases p with ⟨e | _, u⟩
    · rfl
    · exact ih u

/-- A copy of an input that does not fail, into a sink that takes everything. -/
theorem input_eq {st : Stage} (hout : st.output.Boundless) (hfault : st.input.fault = none) :
    input st = (.ok (), { st.drain with output := (st.output.write st.input.bytes).2 }) := by
  have hend : st.input.atEnd = .ok () := by rw [Source.atEnd, hfault]
  rw [input, Stage.copyInput, hout.copy, hend]

theorem serves : Serves (fun _ bs => bs)
    (fun name st => if isInputName name then input st else file name st) where
  prints := by
    intro st st' before out h name bs hcontent
    have hok := (h.boundless.write bs).1
    rcases h.input_or_file hcontent with ⟨rfl, hinput⟩ | ⟨hname, hread⟩
    · refine ⟨_, ?_, h.hyphen bs⟩
      have hfault : st'.input.fault = none := by rw [hinput]; rfl
      rw [if_pos (isInputName_iff.2 rfl), input_eq h.boundless hfault, hinput]
      rfl
    · refine ⟨_, ?_, h.file hname bs⟩
      rw [if_neg (mt isInputName_iff.1 hname), file, Stage.openFile]
      rw [Files.read] at hread
      split at hread
      · next node hnode => simp only [hnode, hread, Stage.write, hok]
      · cases hread
  complains := by
    intro st st' before out h name f hcontent
    obtain ⟨hname, hread⟩ := h.no_file hcontent
    rw [if_neg (mt isInputName_iff.1 hname), file, Stage.openFile]
    rw [Files.read] at hread
    split at hread
    · next node hnode =>
      simp only [hnode, hread]
      exact ⟨_, rfl⟩
    · next fault hnode =>
      rw [hnode]
      exact ⟨_, rfl⟩

end Cat

/-! ## Counting -/

namespace Wc

/-- The line of a name: how many lines, words and bytes it stands for, and a label. -/
def line (label : String) (bs : Bytes) : Bytes :=
  let c := Counts.ofBytes bs
  bytesOf (toString c.lines ++ " " ++ toString c.words ++ " " ++ toString c.bytes ++ label ++ "\n")

theorem all_eq_each (names : List String) (st : Stage) :
    all names st = each (fun name => one name (" " ++ name)) names st := by
  induction names generalizing st with
  | nil => rfl
  | cons name rest ih =>
    rw [all, each]
    generalize one name (" " ++ name) st = p
    rcases p with ⟨e | _, u⟩
    · rfl
    · exact ih u

theorem one_of_read {name : String} {st u : Stage} {bs : Bytes}
    (hread : read name st = (.ok bs, u)) (hout : u.output.Boundless) (label : String) :
    one name label st = (.ok (), { u with output := (u.output.write (line label bs)).2 }) := by
  have hline : bytesOf ((Counts.ofBytes bs).render ++ label) ++ bytesOf "\n" = line label bs :=
    (bytesOf_append _ _).symm
  have hok := (hout.write (line label bs)).1
  simp only [one, hread, Stage.writeLine, Stage.write, hline, hok]

theorem serves (label : String → String) :
    Serves (fun name => line (label name)) (fun name => one name (label name)) where
  prints := by
    intro st st' before out h name bs hcontent
    rcases h.input_or_file hcontent with ⟨rfl, hinput⟩ | ⟨hname, hfile⟩
    · have hread : read "-" st' = (.ok bs, st'.drain) := by
        rw [read, if_pos (isInputName_iff.2 rfl), Stage.readInput, hinput]
        rfl
      exact ⟨_, one_of_read hread h.boundless _, h.hyphen _⟩
    · have hread : read name st' = (.ok bs, st') := by
        simp only [read, if_neg (mt isInputName_iff.1 hname), hfile]
      exact ⟨_, one_of_read hread h.boundless _, h.file hname _⟩
  complains := by
    intro st st' before out h name f hcontent
    obtain ⟨hname, hread⟩ := h.no_file hcontent
    simp only [one, read, if_neg (mt isInputName_iff.1 hname), hread]
    exact ⟨_, rfl⟩

end Wc

/-! ## Whole commands -/

/-- The names that arguments stand for: the input, if there are none. -/
def names (args : List String) : List String := if args.isEmpty then ["-"] else args

theorem Cat.body_eq_each (args : List String) (st : Stage) :
    body ⟨[], [], args⟩ st =
      each (fun name st => if isInputName name then input st else file name st) (names args) st :=
  all_eq_each (names args) st

theorem Wc.body_eq_each (args : List String) (st : Stage) :
    body ⟨[], [], args⟩ st =
      each (fun name => one name (if args.isEmpty then "" else " " ++ name)) (names args) st := by
  cases args with
  | nil => rfl
  | cons name rest => exact all_eq_each (name :: rest) st

namespace Kind

/-- Whatever the arguments look like, they are the operands. -/
theorem parse_operandsOnly {k : Kind} (hk : k.operandsOnly = true) (args : List String) :
    k.parse args = .ok (.run ⟨[], [], args⟩) := by
  cases k with
  | cat => exact Options.Form.parse_marked rfl rfl rfl args
  | wc => exact Options.Form.parse_marked rfl rfl rfl args
  | echo | pwd | grep | ls | cd => cases hk

/-- What a utility comes to that takes its arguments for names. -/
theorem run_each {k : Kind} (hk : k.operandsOnly = true) {args : List String} {st : Stage}
    {piece : String → Bytes → Bytes} {one : String → Stage → Outcome Unit}
    (hbody : k.body ⟨[], [], args⟩ st = each one (names args) st) (hone : Serves piece one)
    (hfault : st.input.fault = none) (hout : st.output.Boundless) (name : String) :
    ∃ st', k.run (name :: args) st =
        (.ok (if (st.contents (names args)).all (·.2.isOk) then 0 else 1), st') ∧
      st'.output.written = st.output.written ++
        (readable (st.contents (names args))).flatMap fun x => piece x.1 x.2 := by
  have hinput : st.input = .ofBytes st.input.bytes := by
    unfold Source.ofBytes
    rw [← hfault]
  have hstart : Stage.Past st [] [] st :=
    ⟨rfl, rfl, rfl, by simpa using hinput, hout, (List.append_nil _).symm⟩
  obtain ⟨result, u, hrun, hboundless, hwritten, hresult⟩ :=
    each_serves hone hstart (names args)
  have hflush := hboundless.flush
  rw [Kind.run, List.tail_cons, parse_operandsOnly hk]
  simp only [hbody, hrun]
  rcases hresult with ⟨rfl, hall⟩ | ⟨e, rfl, hall⟩
  · refine ⟨u, ?_, hwritten⟩
    simp only [hflush, Stage.contents, hall, if_true]
  · refine ⟨u.complain (e.message ++ "\n"), ?_, hwritten⟩
    simp only [Stage.complain, hflush, Stage.contents, hall, Bool.false_eq_true, if_false]

/-- **Every argument names a file, and the first that cannot be read ends the work.**  The
contents of the names before that one come out in order, from `cat` as they are and from
`wc` as a line of counts for each; the first hyphen stands for all of the input, and so do
no arguments at all, for which `wc` prints no name.  The status is zero just if every name
can be read, and else one. -/
theorem content_in_order (args : List String) (st : Stage) (hfault : st.input.fault = none)
    (hwrite : ∀ bs, (st.output.write bs).1 = .ok ()) (hflush : st.output.flush = .ok ()) :
    let found := st.contents (names args)
    let status : Status := if found.all (·.2.isOk) then 0 else 1
    (∃ st', Kind.cat.run ("cat" :: args) st = (.ok status, st') ∧
      st'.output.written = st.output.written ++ (readable found).flatMap fun x => x.2) ∧
    ∃ st', Kind.wc.run ("wc" :: args) st = (.ok status, st') ∧
      st'.output.written = st.output.written ++ (readable found).flatMap fun x =>
        Wc.line (if args.isEmpty then "" else " " ++ x.1) x.2 := by
  have hout := Sink.boundless_of_never_fails hwrite hflush
  constructor
  · exact run_each (k := .cat) rfl (Cat.body_eq_each args st) Cat.serves hfault hout "cat"
  · exact run_each (k := .wc) rfl (Wc.body_eq_each args st)
      (Wc.serves fun name => if args.isEmpty then "" else " " ++ name) hfault hout "wc"

/-- A word that asks for help elsewhere, the input twice, two hyphens, and a name without a
file. -/
theorem content_in_order_hyphens :
    let files : Files := ⟨.directory [("help", .file [104, 10] false), ("--", .file [45] false)]⟩
    let st : Stage := ⟨.ofShared .empty, files, [], .ofBytes [105], 0, .memory, .empty⟩
    let args := ["help", "-", "--", "-", "missing", "help"]
    (∃ st', Kind.cat.run ("cat" :: args) st = (.ok 1, st') ∧
      st'.output.written = bytesOf "h\ni-") ∧
    ∃ st', Kind.wc.run ("wc" :: args) st = (.ok 1, st') ∧
      st'.output.written = bytesOf "1 1 2 help\n0 1 1 -\n0 1 1 --\n0 0 0 -\n" := by
  intro files st args
  have hroot (p : String) : files.at? (if Path.isAbsolute p then [] else st.directory) =
      some files.root := by
    rw [ite_self]
    rfl
  have hhelp : st.files.read st.directory (st.path "help") = .ok [104, 10] :=
    Files.read_single "help" (some (.file [104, 10] false)) (by decide +kernel) (hroot _) rfl nofun
  have hhyphens : st.files.read st.directory (st.path "--") = .ok [45] :=
    Files.read_single "--" (some (.file [45] false)) (by decide +kernel) (hroot _) rfl nofun
  have hmissing : st.files.read st.directory (st.path "missing") = .error (.system .noEntry) :=
    Files.read_single "missing" none (by decide +kernel) (hroot _) rfl nofun
  have hfound : st.contents (names args) = [("help", .ok [104, 10]), ("-", .ok [105]),
      ("--", .ok [45]), ("-", .ok []), ("missing", .error (.system .noEntry)),
      ("help", .ok [104, 10])] := by
    simp [names, args, Stage.contents, Stage.contentsAfter, Stage.contentAfter, hhelp, hhyphens,
      hmissing]
    rfl
  obtain ⟨⟨u, hu, hcat⟩, v, hv, hwc⟩ := content_in_order args st rfl (fun _ => rfl) rfl
  rw [hfound] at hu hcat hv hwc
  refine ⟨⟨u, hu, hcat.trans ?_⟩, v, hv, hwc.trans ?_⟩
  · decide +kernel
  · decide +kernel

end Kind

end Utility

end LineShell
