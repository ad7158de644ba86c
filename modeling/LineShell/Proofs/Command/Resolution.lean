import LineShell.Pipeline.Run
import LineShell.Proofs.Files.Canonical
import LineShell.Proofs.SearchPath.Lookup

/-!
# A program is found before anything happens

A command whose name is not for the shell itself names a program.  It is looked up in
the variables that the command sees, its own bindings first, and then the texts that
would be handed over are checked: the path that was found, the words, the exported
bindings.  Only if nothing is wrong a child is made (`run_program`).

So where the program is not found, or one of its texts has a NUL character, nothing has
happened: the surroundings are just what they were, whatever the host would have done.

Main statement: `run_finds_program`.
-/

namespace LineShell

/-- The texts that a program at a path receives from a command. -/
def Command.handedOver (c : Command) (scope : Scope) (path : String) : List String :=
  path :: c.words ++ scope.exported

namespace Program

variable {c : Command} {scope : Scope} {fs : Files} {process : Location} {path : String}

theorem resolve_of_none (h : SearchPath.find fs process (scope.value "PATH") c.name
    (scope.workingDirectory process.render) = .ok none) :
    resolve c scope fs process = .error (.commandNotFound c.name) := by
  simp only [resolve, h]

/-- The first text with a NUL character is the one that is complained about. -/
theorem resolve_of_nul (h : SearchPath.find fs process (scope.value "PATH") c.name
    (scope.workingDirectory process.render) = .ok (some path))
    {before after : List String} {text : String}
    (htexts : c.handedOver scope path = before ++ text :: after)
    (hbefore : ∀ t ∈ before, t.contains '\x00' = false) (hnul : text.contains '\x00') :
    resolve c scope fs process = .error (.argument (.nul text)) := by
  have hfind : (c.handedOver scope path).find? (fun t => t.contains '\x00') = some text := by
    refine List.find?_eq_some_iff_append.2 ⟨hnul, before, after, htexts, fun t ht => ?_⟩
    rw [hbefore t ht]
    rfl
  rw [Command.handedOver] at hfind
  simp only [resolve, h, hfind]

theorem resolve_of_clean (h : SearchPath.find fs process (scope.value "PATH") c.name
    (scope.workingDirectory process.render) = .ok (some path))
    (hclean : ∀ t ∈ c.handedOver scope path, t.contains '\x00' = false) :
    resolve c scope fs process = .ok ⟨path, c.words, scope.exported⟩ := by
  have hfind : (c.handedOver scope path).find? (fun t => t.contains '\x00') = none := by
    refine List.find?_eq_none.2 fun t ht => ?_
    rw [hclean t ht]
    exact Bool.false_ne_true
  rw [Command.handedOver] at hfind
  simp only [resolve, h, hfind]

end Program

namespace Command

/-- What is wrong with a command for a program is all that becomes of it. -/
theorem run_program {c : Command} (h : Handler.ofName c.name = .program) (host : Host)
    (s : Surroundings) :
    c.run host s =
      match Program.resolve c (s.scope c.bindings) s.world.files s.world.directory with
      | .error e => (.error e, s)
      | .ok p => Child.run host (.program p) c s := by
  unfold run
  rewrite [h]
  rfl

/-- **The first match counts, and it is found before anything happens.**  A name without
a slash leads to the first entry in which it is a file; an absolute entry does not
depend on the directory, and an empty one is the directory.  What has been found is found
in every longer path.  A name with a slash does not depend on the path, and no name at
all is never found.

A command for a program that is not found fails, and so does one with a NUL character
in a text that it would hand over; then its surroundings are as they were for every
host, so that nothing has been read or written and no child has been made.  In all other
cases a child carries out the program. -/
theorem run_finds_program (fs : Files) (process : Location) (path name dir : String)
    (host : Host) (c : Command) (s : Surroundings) :
    (name ≠ "" → name.contains '/' = false →
      ∃ entries, SearchPath.split path = .ok entries ∧
        (∀ p, SearchPath.find fs process path name dir = .ok (some p) ↔
          SearchPath.FirstFile fs process dir name entries p) ∧
        (SearchPath.find fs process path name dir = .ok none ↔
          ∀ entry ∈ entries, fs.isFile process (SearchPath.candidate dir name entry) = false)) ∧
    (∀ entry, Path.isAbsolute entry →
      SearchPath.candidate dir name entry = Path.join entry name) ∧
    (name.contains '/' = false → SearchPath.candidate dir name "" = Path.join dir name) ∧
    (∀ p more, SearchPath.find fs process path name dir = .ok (some p) →
      SearchPath.find fs process (path ++ ":" ++ more) name dir = .ok (some p)) ∧
    (name.contains '/' → SearchPath.find fs process path name dir =
      .ok (if fs.isFile process (Path.join dir name) then some (Path.join dir name) else none)) ∧
    SearchPath.find fs process path "" dir = .ok none ∧
    (Handler.ofName c.name = .program →
      let scope := s.scope c.bindings
      ∃ found, SearchPath.find s.world.files s.world.directory (scope.value "PATH") c.name
          (scope.workingDirectory s.world.directory.render) = .ok found ∧
        (found = none → c.run host s = (.error (.commandNotFound c.name), s)) ∧
        ∀ program, found = some program →
          (∀ before text after, c.handedOver scope program = before ++ text :: after →
            (∀ t ∈ before, t.contains '\x00' = false) → text.contains '\x00' →
            c.run host s = (.error (.argument (.nul text)), s)) ∧
          ((∀ t ∈ c.handedOver scope program, t.contains '\x00' = false) →
            c.run host s =
              Child.run host (.program ⟨program, c.words, scope.exported⟩) c s)) := by
  refine ⟨fun hname hslash => ?_, fun entry hentry => ?_, fun hslash => ?_, fun p more hp => ?_,
    SearchPath.find_of_slash, SearchPath.find_empty, fun hprogram => ?_⟩
  · obtain ⟨entries, hsplit⟩ := SearchPath.exists_split path
    exact ⟨entries, hsplit, fun p => SearchPath.find_eq_some_iff hname hslash hsplit,
      SearchPath.find_eq_none_iff hname hslash hsplit⟩
  · rw [SearchPath.candidate, Path.join_of_isAbsolute hentry]
  · exact Path.join_join_empty dir (Path.not_isAbsolute_of_noSlash hslash)
  · exact SearchPath.find_append hp more
  · intro scope
    obtain ⟨found, hfind⟩ := SearchPath.exists_find s.world.files s.world.directory
      (scope.value "PATH") c.name (scope.workingDirectory s.world.directory.render)
    refine ⟨found, hfind, ?_, ?_⟩
    · rintro rfl
      rw [run_program hprogram, Program.resolve_of_none hfind]
    · rintro program rfl
      refine ⟨fun before text after htexts hbefore hnul => ?_, fun hclean => ?_⟩
      · rw [run_program hprogram, Program.resolve_of_nul hfind htexts hbefore hnul]
      · rw [run_program hprogram, Program.resolve_of_clean hfind hclean]

/-- An empty entry leads to a file in the directory of the shell; an argument with a NUL
character is refused before the exported binding with another one. -/
theorem run_finds_program_nul :
    let files : Files := ⟨.directory [("tool", .file [] true)]⟩
    let s : Surroundings :=
      ⟨⟨.ofEntries ["A=\x00"], [], files, [], .empty⟩, .ofBytes [7], .memory⟩
    let host : Host := fun _ _ _ _ => .error .noEntry
    (Command.ofWords ["PATH=bin:", "tool", "a\x00"]).run host s =
      (.error (.argument (.nul "a\x00")), s) := by
  intro files s host
  have hpaths : SearchPath.candidate "/" "tool" "bin" = "/bin/tool" ∧
      SearchPath.candidate "/" "tool" "" = "/tool" := by
    simp +decide [SearchPath.candidate, Path.join, Path.isAbsolute, Path.endsWith_slash_iff]
  have hsteps : Path.steps "/bin/tool" = ["bin", "tool"] ∧ Path.steps "/tool" = ["tool"] := by
    simp +decide [Path.steps, Path.endsWith_slash_iff, Path.pieces]
  have hfiles : files.isFile [] "/bin/tool" = false ∧ files.isFile [] "/tool" = true := by
    simp +decide [files, Files.isFile, Files.find, Files.locate, Files.resolve, hsteps,
      Files.walk, Files.at?, Node.descend?, Node.child?, Node.entries]
  have hlookup : SearchPath.find files [] "bin:" "tool" "/" = .ok (some "/tool") := by
    have hsplit : SearchPath.split "bin:" = .ok ["bin", ""] := rfl
    rw [SearchPath.find_eq_firstFile (by decide) (by simp) hsplit, SearchPath.firstFile_eq_find?]
    simp [hpaths, hfiles]
  obtain ⟨found, hfind, -, hfound⟩ :=
    (run_finds_program files [] "bin:" "tool" "/" host
      (.ofWords ["PATH=bin:", "tool", "a\x00"]) s).2.2.2.2.2.2 (by decide)
  obtain rfl : some "/tool" = found := Except.ok.inj (hlookup.symm.trans hfind)
  refine (hfound "/tool" rfl).1 ["/tool", "tool"] "a\x00" ["A=\x00", "PATH=bin:"] (by decide)
    ?_ ?_
  · simp only [String.contains_char_eq]
    decide
  · simp only [String.contains_char_eq]
    decide

end Command

end LineShell
