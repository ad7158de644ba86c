import LineShell.Proofs.Files.Canonical
import LineShell.Proofs.Utility.Selection
import LineShell.Proofs.Utility.Shifted

/-!
# Searching several files

A search of several files carries two flags and its streams from one file to the next, and
nothing else: what comes of a file (`Grep.found`) is told from the files and the directory
alone.  So the output is that of searching each file by itself, put together in order, and
the status depends only on what came of the files, not on their order.

`Grep.Onward` relates the stage at the start to one that has come past some of the files;
`searchAll_cons` takes it past one more.  Main statement: `Kind.search_file_by_file`.
-/

namespace LineShell.Utility

namespace Grep

/-! ## What comes of a file -/

/-- What comes of searching the file of a name. -/
structure Found where
  name : String
  /-- What is printed. -/
  printed : Bytes
  /-- Whether there was a match, or why the search did not come to the end of the file. -/
  answer : Except Fault Bool

namespace Found

variable (x : Found)

/-- The search did not come to the end of the file. -/
def failed : Bool := x.answer matches .error _

/-- The search came to the end of the file, and there was a match. -/
def matched : Bool := x.answer matches .ok true

/-- What is reported: one line for a search that failed. -/
def reported : Bytes :=
  match x.answer with
  | .ok _ => []
  | .error f => bytesOf ("grep: " ++ x.name ++ ": " ++ f.message ++ "\n")

end Found

/-- The status of a search that has failed, or found a match. -/
def verdict (failed matched : Bool) : Status := if failed then 2 else if matched then 0 else 1

/-- The status for what came of some files. -/
def status (l : List Found) : Status := verdict (l.any Found.failed) (l.any Found.matched)

/-- The status depends neither on the order of the files nor on how often one is named. -/
theorem status_congr {l l' : List Found} (h : ∀ x, x ∈ l ↔ x ∈ l') : status l = status l' := by
  have hany : ∀ p : Found → Bool, l.any p = l'.any p := by
    intro p
    rw [Bool.eq_iff_iff, List.any_eq_true, List.any_eq_true]
    apply exists_congr
    intro x
    rw [h]
  unfold status
  rw [hany, hany]

/-- What comes of a file that reads like this. -/
def foundOf (isMatch : Matcher) (after : Nat) (name : String) : Except Fault Bytes → Found
  | .error f => ⟨name, [], .error f⟩
  | .ok bs =>
    let r := search ⟨isMatch, after, some name⟩ (.ofBytes bs)
    ⟨name, r.1, r.2⟩

/-- What comes of the file of a name. -/
def found (isMatch : Matcher) (after : Nat) (st : Stage) (name : String) : Found :=
  foundOf isMatch after name (st.files.read st.directory (st.path name))

section Found

variable {isMatch : Matcher} {after : Nat} {st : Stage} {name : String}

theorem found_name : (found isMatch after st name).name = name := by
  unfold found foundOf
  split <;> rfl

theorem found_unreadable {f : Fault}
    (hread : st.files.read st.directory (st.path name) = .error f) :
    found isMatch after st name = ⟨name, [], .error f⟩ := by
  simp only [found, foundOf, hread]

theorem found_text {bs : Bytes} (hread : st.files.read st.directory (st.path name) = .ok bs)
    (htext : ∀ line ∈ Lines.contents bs, ∃ text, Utf8.decode? line = some text) :
    ∃ m, found isMatch after st name =
        ⟨name, Criteria.printed ⟨isMatch, after, some name⟩ (Lines.contents bs), .ok m⟩ ∧
      (m = true ↔ ∃ line ∈ Lines.contents bs, ∃ text, Utf8.decode? line = some text ∧
        isMatch text = true) := by
  obtain ⟨m, hsearch, hm⟩ := search_text ⟨isMatch, after, some name⟩ htext
  refine ⟨m, ?_, hm.trans Criteria.exists_matchesAt_iff⟩
  simp only [found, foundOf, hread, hsearch]

theorem found_garbled {bs : Bytes} (hread : st.files.read st.directory (st.path name) = .ok bs)
    {before later : List Bytes} {line : Bytes}
    (hlines : Lines.contents bs = before ++ line :: later)
    (htext : ∀ l ∈ before, ∃ text, Utf8.decode? l = some text)
    (hgarbled : Utf8.decode? line = none) :
    found isMatch after st name =
      ⟨name, Criteria.printed ⟨isMatch, after, some name⟩ before, .error .notUtf8⟩ := by
  have hsearch := search_garbled ⟨isMatch, after, some name⟩ hlines htext hgarbled
  simp only [found, foundOf, hread, hsearch]

end Found

/-! ## One file after the other -/

/-- A stage that has gone on from another by what it has printed and reported. -/
structure Onward (st : Stage) (out err : Bytes) (st' : Stage) : Prop where
  same : st' = { st with output := st'.output, errors := st'.errors }
  boundless : st'.output.Boundless
  written : st'.output.written = st.output.written ++ out
  errors : st'.errors.bytes = st.errors.bytes ++ err

namespace Onward

variable {st st' : Stage} {out err : Bytes}

theorem start (h : st.output.Boundless) : Onward st [] [] st :=
  ⟨rfl, h, (List.append_nil _).symm, (List.append_nil _).symm⟩

/-- What comes of a file does not depend on the streams. -/
theorem found_eq (h : Onward st out err st') (isMatch : Matcher) (after : Nat) (name : String) :
    found isMatch after st' name = found isMatch after st name := by
  rw [h.same]
  rfl

theorem write (h : Onward st out err st') (bs : Bytes) :
    Onward st (out ++ bs) err { st' with output := (st'.output.write bs).2 } := by
  obtain ⟨-, hboundless, hwritten⟩ := h.boundless.write bs
  refine ⟨?_, hboundless, ?_, h.errors⟩
  · rw [h.same]
  · rw [← List.append_assoc, ← h.written]
    exact hwritten

theorem complain (h : Onward st out err st') (text : String) :
    Onward st out (err ++ bytesOf text) (st'.complain text) := by
  refine ⟨?_, h.boundless, h.written, ?_⟩
  · rw [h.same]
    rfl
  · rw [← List.append_assoc, ← h.errors]
    exact Record.bytes_add _ _

end Onward

variable (isMatch : Matcher) (after : Nat) {st st' : Stage} {out err : Bytes}

/-- To open a file and take its content is to read it. -/
theorem searchFile_eq_read (name : String) (st : Stage) : searchFile isMatch after name st =
    match st.files.read st.directory (st.path name) with
    | .error f => (.error f, st)
    | .ok bs => searchTo ⟨isMatch, after, some name⟩ (.ofBytes bs) st := by
  unfold searchFile Stage.openFile Files.read
  cases st.files.find st.directory (st.path name) with
  | error f => rfl
  | ok node => cases node.content <;> rfl

theorem searchFile_found (h : Onward st out err st') (name : String) :
    ∃ u, searchFile isMatch after name st' = ((found isMatch after st name).answer, u) ∧
      Onward st (out ++ (found isMatch after st name).printed) err u := by
  rw [← h.found_eq, searchFile_eq_read]
  unfold found
  cases st'.files.read st'.directory (st'.path name) with
  | error f =>
    refine ⟨st', rfl, ?_⟩
    simpa only [foundOf, List.append_nil] using h
  | ok bs =>
    have hok := (h.boundless.write (search ⟨isMatch, after, some name⟩ (.ofBytes bs)).1).1
    refine ⟨_, ?_, h.write _⟩
    simp only [searchTo, Stage.write, hok, foundOf]

/-- **One file.**  What comes of it is added to the flags and to the streams. -/
theorem searchAll_cons (h : Onward st out err st') (name : String) (rest : List String)
    (failed matched : Bool) :
    let x := found isMatch after st name
    ∃ u, searchAll isMatch after (name :: rest) failed matched st' =
        searchAll isMatch after rest (failed || x.failed) (matched || x.matched) u ∧
      Onward st (out ++ x.printed) (err ++ x.reported) u := by
  intro x
  have hname : x.name = name := found_name
  obtain ⟨u, hrun, hu⟩ := searchFile_found isMatch after h name
  rw [searchAll.eq_def]
  simp only [hrun]
  cases hanswer : x.answer with
  | ok m =>
    refine ⟨u, ?_, ?_⟩
    · cases m <;> simp [x, hanswer, Found.failed, Found.matched]
    · simp only [Found.reported, hanswer, List.append_nil]
      exact hu
  | error f =>
    refine ⟨u.complain ("grep: " ++ name ++ ": " ++ f.message ++ "\n"), ?_, ?_⟩
    · simp [x, hanswer, Found.failed, Found.matched]
    · simp only [Found.reported, hanswer, hname]
      exact hu.complain _

/-- **All files.** -/
theorem searchAll_found (h : Onward st out err st') (names : List String)
    (failed matched : Bool) :
    let l := names.map (found isMatch after st)
    ∃ u, searchAll isMatch after names failed matched st' =
        (.ok (verdict (failed || l.any Found.failed) (matched || l.any Found.matched)), u) ∧
      Onward st (out ++ l.flatMap Found.printed) (err ++ l.flatMap Found.reported) u := by
  intro l
  induction names generalizing st' out err failed matched with
  | nil =>
    refine ⟨st', ?_, ?_⟩
    · simp only [l, List.map_nil, List.any_nil, Bool.or_false]
      rfl
    · simpa [l] using h
  | cons name rest ih =>
    obtain ⟨u, hrun, hu⟩ := searchAll_cons isMatch after h name rest failed matched
    obtain ⟨v, hrest, hv⟩ := ih hu _ _
    refine ⟨v, ?_, ?_⟩
    · rw [hrun, hrest]
      simp only [l, List.map_cons, List.any_cons, Bool.or_assoc]
    · simpa only [l, List.map_cons, List.flatMap_cons, List.append_assoc] using hv

variable {isMatch}

/-- What comes of a choice with its files replaced by others.  The pattern and the context
stay as they are. -/
theorem body_found {c : Options.Choice} {pattern : String} {names others : List String}
    (hoperands : c.operands = pattern :: names) (hothers : others ≠ [])
    (hpattern : Pattern.compile (patternText c) (c.has "ignore-case") = .ok isMatch)
    (hout : st.output.Boundless) :
    let l := others.map (found isMatch (afterContext c) st)
    ∃ u, body { c with operands := pattern :: others } st = (.ok (status l), u) ∧
      Onward st (l.flatMap Found.printed) (l.flatMap Found.reported) u := by
  intro l
  let c' : Options.Choice := { c with operands := pattern :: others }
  obtain ⟨u, hrun, hu⟩ := searchAll_found isMatch (afterContext c) (.start hout) others false false
  refine ⟨u, ?_, hu⟩
  have htext : patternText c' = patternText c := by
    rw [patternText, patternText, hoperands]
    rfl
  have hhas : c'.has "ignore-case" = c.has "ignore-case" := rfl
  have hsearch : searchWith isMatch c' st =
      searchAll isMatch (afterContext c) others false false st := by
    cases others with
    | nil => exact absurd rfl hothers
    | cons name rest => rfl
  have hbody : body c' st = searchWith isMatch c' st := by
    simp only [body, htext, hhas, hpattern]
  rw [hbody, hsearch, hrun, Bool.false_or, Bool.false_or]
  rfl

end Grep

namespace Kind

open Grep

/-- **Files are searched independently of each other.**  The output is what searching each
file alone prints, in order, and so are the reports; a file that cannot be read, or that has
a line that is no text, is reported once and keeps no other from being searched.  The status
is two if any file has failed, else zero if any has a match, else one, in whatever order the
files are named. -/
theorem search_file_by_file (argv : List String) {c : Options.Choice} {pattern : String}
    {names : List String} {isMatch : Matcher} (st : Stage)
    (hparse : Kind.grep.parse argv.tail = .ok (.run c))
    (hoperands : c.operands = pattern :: names) (hnames : names ≠ [])
    (hpattern : Pattern.compile (patternText c) (c.has "ignore-case") = .ok isMatch)
    (hwrite : ∀ bs, (st.output.write bs).1 = .ok ()) (hflush : st.output.flush = .ok ()) :
    let find := found isMatch (afterContext c) st
    let lines := fun name => Criteria.printed ⟨isMatch, afterContext c, some name⟩
    (∃ st', Kind.grep.run argv st = (.ok (status (names.map find)), st') ∧
      Onward st ((names.map find).flatMap Found.printed)
        ((names.map find).flatMap Found.reported) st') ∧
    (∀ name ∈ names, ∃ st',
      Kind.grep.body { c with operands := [pattern, name] } st = (.ok (status [find name]), st') ∧
        Onward st (find name).printed (find name).reported st') ∧
    (∀ names', names'.Perm names → ∃ st',
      Kind.grep.body { c with operands := pattern :: names' } st =
        (.ok (status (names.map find)), st')) ∧
    ∀ name ∈ names,
      (∀ f, st.files.read st.directory (st.path name) = .error f →
        find name = ⟨name, [], .error f⟩) ∧
      ∀ bs, st.files.read st.directory (st.path name) = .ok bs →
        ((∀ line ∈ Lines.contents bs, ∃ text, Utf8.decode? line = some text) →
          ∃ m, find name = ⟨name, lines name (Lines.contents bs), .ok m⟩ ∧
            (m = true ↔ ∃ line ∈ Lines.contents bs, ∃ text, Utf8.decode? line = some text ∧
              isMatch text = true)) ∧
        ∀ before line later, Lines.contents bs = before ++ line :: later →
          (∀ l ∈ before, ∃ text, Utf8.decode? l = some text) → Utf8.decode? line = none →
          find name = ⟨name, lines name before, .error .notUtf8⟩ := by
  intro find lines
  have hout := Sink.boundless_of_never_fails hwrite hflush
  refine ⟨?_, ?_, ?_, ?_⟩
  · obtain ⟨u, hrun, hu⟩ := body_found hoperands hnames hpattern hout
    have hsame : { c with operands := pattern :: names } = c := by rw [← hoperands]
    have hflushed := hu.boundless.flush
    rw [hsame] at hrun
    refine ⟨u, ?_, hu⟩
    rw [Kind.run, hparse]
    simp only [Kind.body, hrun, hflushed, find]
  · intro name _
    obtain ⟨u, hrun, hu⟩ := body_found hoperands (List.cons_ne_nil name []) hpattern hout
    refine ⟨u, hrun, ?_⟩
    simpa using hu
  · intro names' hperm
    have hnames' : names' ≠ [] := by
      rintro rfl
      exact hnames (List.nil_perm.1 hperm)
    obtain ⟨u, hrun, -⟩ := body_found hoperands hnames' hpattern hout
    have hstatus : status (names'.map find) = status (names.map find) :=
      status_congr fun x => (hperm.map find).mem_iff
    exact ⟨u, hstatus ▸ hrun⟩
  · intro name _
    refine ⟨fun f hread => found_unreadable hread, fun bs hread => ⟨?_, ?_⟩⟩
    · exact found_text hread
    · intro before line later hlines htext hgarbled
      exact found_garbled hread hlines htext hgarbled

theorem ok_of_toOption {ε α : Type} {r : Except ε α} {a : α} (h : r.toOption = some a) :
    r = .ok a := by
  cases r with
  | error e => cases h
  | ok b => exact congrArg Except.ok (Option.some.inj h)

open Pattern Unicode in
/-- The pattern `m` is the automaton of that letter. -/
theorem compile_letter : Pattern.compile "m" false = .ok (Expr.text ['m']).automaton.search := by
  have hsorted : ([(0, 108), (110, CharSet.last), (0xD800, 0xDFFF)] : CharSet).mergeSort
      (fun a b => a.1 ≤ b.1) = [(0, 108), (110, CharSet.last), (0xD800, 0xDFFF)] :=
    List.mergeSort_of_pairwise (by decide)
  have hunion : CharSet.union [(0, 108), (110, CharSet.last)] [(0xD800, 0xDFFF)] =
      [(0, 108), (110, CharSet.last)] := by
    rw [CharSet.union, CharSet.ofRanges]
    exact congrArg (CharSet.merge · #[]) hsorted
  have hset : Expr.ofSet false (CharSet.single 'm') = .text ['m'] := by
    have hdifference : (CharSet.single 'm').difference Expr.surrogates = CharSet.single 'm' :=
      congrArg CharSet.complement hunion
    rw [Expr.ofSet, hdifference]
    rfl
  obtain ⟨span, htree⟩ : ∃ span, Tree.parse "m" = .ok (.literal span 'm' false) := ⟨_, rfl⟩
  have hmeaning : (Tree.literal span 'm' false).meaning (.start false) =
      .ok (.text ['m'], .start false) :=
    congrArg (fun e => Except.ok (e, Modes.start false)) hset
  simp only [Pattern.compile, htree, hmeaning]
  exact if_pos (by decide +kernel)

/-- One file is missing, and one has a line that is no text. -/
theorem search_file_by_file_mixed :
    let files : Files := ⟨.directory [("a", .file (bytesOf "x\nm\ny") false),
      ("b", .file (bytesOf "n\nm\n" ++ [255, 10]) false), ("c", .file (bytesOf "z\nm\n") false)]⟩
    let st : Stage := ⟨.ofShared .empty, files, [], .ofBytes [], 0, .memory, .empty⟩
    (∃ st', Kind.grep.run ["grep", "-A", "1", "m", "a", "missing", "b", "c"] st = (.ok 2, st') ∧
      st'.output.written = bytesOf "a:m\na:y\nb:m\nc:m\n" ∧
      st'.errors.bytes = bytesOf ("grep: missing: No such file or directory (os error 2)\n" ++
        "grep: b: stream did not contain valid UTF-8\n")) ∧
    ∃ st', Kind.grep.body ⟨[], [("after-context", "1")], ["m", "c"]⟩ st = (.ok 0, st') ∧
      st'.output.written = bytesOf "c:m\n" := by
  intro files st
  have hparse : Kind.grep.parse ["-A", "1", "m", "a", "missing", "b", "c"] =
      .ok (.run ⟨[], [("after-context", "1")], ["m", "a", "missing", "b", "c"]⟩) :=
    ok_of_toOption (by decide +kernel)
  have hroot (p : String) : files.at? (if Path.isAbsolute p then [] else st.directory) =
      some files.root := by
    rw [ite_self]
    rfl
  have ha : st.files.read st.directory (st.path "a") = .ok (bytesOf "x\nm\ny") :=
    Files.read_single "a" (some (.file (bytesOf "x\nm\ny") false)) (by decide +kernel) (hroot _) rfl
      nofun
  have hmissing : st.files.read st.directory (st.path "missing") = .error (.system .noEntry) :=
    Files.read_single "missing" none (by decide +kernel) (hroot _) rfl nofun
  have hb : st.files.read st.directory (st.path "b") = .ok (bytesOf "n\nm\n" ++ [255, 10]) :=
    Files.read_single "b" (some (.file (bytesOf "n\nm\n" ++ [255, 10]) false)) (by decide +kernel)
      (hroot _) rfl nofun
  have hc : st.files.read st.directory (st.path "c") = .ok (bytesOf "z\nm\n") :=
    Files.read_single "c" (some (.file (bytesOf "z\nm\n") false)) (by decide +kernel) (hroot _) rfl
      nofun
  let isMatch : Matcher := (Pattern.Expr.text ['m']).automaton.search
  have hfound : ["a", "missing", "b", "c"].map (found isMatch 1 st) =
      [foundOf isMatch 1 "a" (.ok (bytesOf "x\nm\ny")),
        foundOf isMatch 1 "missing" (.error (.system .noEntry)),
        foundOf isMatch 1 "b" (.ok (bytesOf "n\nm\n" ++ [255, 10])),
        foundOf isMatch 1 "c" (.ok (bytesOf "z\nm\n"))] := by
    simp only [List.map_cons, List.map_nil, found, ha, hmissing, hb, hc]
  have hlast : found isMatch 1 st "c" = foundOf isMatch 1 "c" (.ok (bytesOf "z\nm\n")) := by
    simp only [found, hc]
  have hafter : afterContext ⟨[], [("after-context", "1")],
      ["m", "a", "missing", "b", "c"]⟩ = 1 := by
    decide +kernel
  obtain ⟨⟨u, hrun, hu⟩, hsingle, -⟩ :=
    search_file_by_file ["grep", "-A", "1", "m", "a", "missing", "b", "c"] st hparse rfl
      (List.cons_ne_nil _ _) compile_letter (fun _ => rfl) rfl
  obtain ⟨v, hrun', hv⟩ := hsingle "c" (by decide)
  rw [hafter, hfound] at hrun hu
  rw [hafter, hlast] at hrun' hv
  refine ⟨⟨u, hrun.trans ?_, hu.written.trans ?_, hu.errors.trans ?_⟩, v, hrun'.trans ?_,
    hv.written.trans ?_⟩
  · exact congrArg (fun status => (Except.ok status, u)) (by decide +kernel)
  · decide +kernel
  · decide +kernel
  · exact congrArg (fun status => (Except.ok status, v)) (by decide +kernel)
  · decide +kernel

end Kind

end LineShell.Utility
