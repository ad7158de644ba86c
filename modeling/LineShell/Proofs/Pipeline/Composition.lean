import LineShell.Pipeline.Run

/-!
# Pipelines in two parts

A pipeline can be cut between any two of its commands.  The first part runs with
an output of its own, and the second part reads what the first has written
(`run_append`).  A failure in the first part is the failure of the whole.  Then the
output is as it was, and everything else is as the failing command has left it;
that command found what the commands before it had handed on (`Passes`).

Main statement: `run_in_parts`.
-/

namespace LineShell

/-- What the next command of a pipeline finds: it reads what has just been written. -/
def Surroundings.pipe (s : Surroundings) (out : Sink) : Surroundings :=
  { s with input := .ofBytes s.output.written, output := out }

namespace Pipeline

variable (host : Host)

@[simp] theorem run_singleton (c : Command) (s : Surroundings) :
    Pipeline.run host [c] s = c.run host s := rfl

/-- A command with others behind it writes to memory. -/
theorem run_cons (c : Command) {rest : Pipeline} (h : rest ≠ []) (s : Surroundings) :
    Pipeline.run host (c :: rest) s =
      match c.run host { s with output := .memory } with
      | (.error e, t) => (.error e, { t with output := s.output })
      | (.ok _, t) => rest.run host (t.pipe s.output) := by
  obtain ⟨d, rest, rfl⟩ := List.exists_cons_of_ne_nil h
  rw [Pipeline.run]
  · rfl
  · exact List.cons_ne_nil d rest

/-- **The second part of a pipeline reads what the first part has written.** -/
theorem run_append {p q : Pipeline} (hp : p ≠ []) (hq : q ≠ []) (s : Surroundings) :
    Pipeline.run host (p ++ q) s =
      match p.run host { s with output := .memory } with
      | (.error e, t) => (.error e, { t with output := s.output })
      | (.ok _, t) => q.run host (t.pipe s.output) := by
  induction p generalizing s with
  | nil => exact absurd rfl hp
  | cons c rest ih =>
    by_cases hrest : rest = []
    · subst hrest
      rw [List.singleton_append, run_cons host c hq, run_singleton]
    · have hne : rest ++ q ≠ [] := List.append_ne_nil_of_left_ne_nil hrest q
      rw [List.cons_append, run_cons host c hne, run_cons host c hrest]
      rcases c.run host { s with output := .memory } with ⟨_ | _, t⟩
      · rfl
      · exact ih hrest (t.pipe s.output)

/-! ## Where a pipeline fails -/

/-- The commands of a pipeline run one after the other without a failure, and
leave what a command behind them finds. -/
inductive Passes : Pipeline → Surroundings → Surroundings → Prop where
  | nil (s : Surroundings) : Passes [] s s
  | cons {c : Command} {rest : Pipeline} {s t found : Surroundings} {status : Status}
      (hrun : c.run host { s with output := .memory } = (.ok status, t))
      (hrest : Passes rest (t.pipe s.output) found) : Passes (c :: rest) s found

/-- A pipeline that fails has a command that fails, behind commands that do not. -/
theorem exists_failing {p : Pipeline} {s u : Surroundings} {e : Failure}
    (h : p.run host { s with output := .memory } = (.error e, u)) :
    ∃ before c after found left, p = before ++ c :: after ∧ Passes host before s found ∧
      c.run host { found with output := .memory } = (.error e, left) ∧
      ∀ out, { u with output := out } = { left with output := out } := by
  induction p generalizing s with
  | nil => cases h
  | cons c rest ih =>
    by_cases hrest : rest = []
    · subst hrest
      exact ⟨[], c, [], s, u, rfl, .nil s, h, fun _ => rfl⟩
    · rw [run_cons host c hrest] at h
      rcases hrun : c.run host { s with output := .memory } with ⟨r, t⟩
      simp only [hrun] at h
      cases r with
      | error e' =>
        obtain ⟨rfl, rfl⟩ : e' = e ∧ { t with output := .memory } = u := by simpa using h
        exact ⟨[], c, rest, s, t, rfl, .nil s, hrun, fun _ => rfl⟩
      | ok status =>
        obtain ⟨before, d, after, found, left, rfl, hpasses, hfail, hleft⟩ :=
          ih (s := t.pipe s.output) h
        exact ⟨c :: before, d, after, found, left, rfl, .cons hrun hpasses, hfail, hleft⟩

/-- **A pipeline runs as its first part and then its second.**  The first part reads
the input and writes to memory.  If it succeeds, whatever its status, the second
part goes on from there: it reads what was written and writes to the output.  If
the first part fails, so does the whole, with the same failure.  The output is
then untouched, nothing of the second part matters, and all the rest is as the
failing command has left it, behind commands that have succeeded. -/
theorem run_in_parts {p q : Pipeline} (hp : p ≠ []) (hq : q ≠ []) (s : Surroundings) :
    (Pipeline.run host (p ++ q) s =
      match p.run host { s with output := .memory } with
      | (.error e, t) => (.error e, { t with output := s.output })
      | (.ok _, t) => q.run host (t.pipe s.output)) ∧
    ∀ e u, p.run host { s with output := .memory } = (.error e, u) →
      ∃ before c after found left, p = before ++ c :: after ∧ Passes host before s found ∧
        c.run host { found with output := .memory } = (.error e, left) ∧
        Pipeline.run host (p ++ q) s = (.error e, { left with output := s.output }) := by
  refine ⟨run_append host hp hq s, fun e u h => ?_⟩
  obtain ⟨before, c, after, found, left, hsplit, hpasses, hfail, hleft⟩ := exists_failing host h
  refine ⟨before, c, after, found, left, hsplit, hpasses, hfail, ?_⟩
  rw [run_append host hp hq s]
  simp only [h, hleft]

/-- A binding, and then a command that leaves the shell: the binding stays. -/
theorem run_in_parts_exit :
    let host : Host := fun _ _ _ _ => .error .noEntry
    let s : Surroundings := ⟨⟨.empty, [], ⟨.directory []⟩, [], .empty⟩, .inherited, .memory⟩
    let p : Pipeline := [.ofWords ["A=1"], .ofWords ["exit", "3"]]
    let q : Pipeline := [.ofWords ["A=2"]]
    ∃ u, Pipeline.run host (p ++ q) s = (.error (.exit 3), u) ∧
      u.world.vars.get? "A" = some "1" ∧ u.output.written = [] ∧
      ∃ before c after found left, p = before ++ c :: after ∧ Passes host before s found ∧
        c.run host { found with output := .memory } = (.error (.exit 3), left) ∧
        Pipeline.run host (p ++ q) s = (.error (.exit 3), { left with output := s.output }) := by
  intro host s p q
  have h := run_in_parts host (List.cons_ne_nil _ _ : p ≠ []) (List.cons_ne_nil _ _ : q ≠ []) s
  have hrun : p.run host { s with output := .memory } = (.error (.exit 3),
      { s with world := { s.world with vars := .ofEntries ["A=1"] }, input := .ofBytes [] }) := by
    rfl
  exact ⟨_, h.1, by decide, by decide, h.2 _ _ hrun⟩

end Pipeline

end LineShell
