import LineShell.Options.Basic

/-!
# Arguments that are operands

The first operand of an open-ended row ends the options, and then every argument is an
operand, whatever it looks like (`read_ended`).  So a list of arguments is a list of
operands as soon as its first argument is one, that is, neither begins with a hyphen
nor asks for help (`read_operands`).  Behind `--` any list is (`parse_marked`).
-/

namespace LineShell.Options.Form

variable {form : Form} {row : Operand} {r : Reading}

/-- An open-ended row takes an argument and ends the options. -/
theorem takeOperand_rest (hrow : form.operands[r.taken]? = some row) (hrest : row.arity = .rest)
    (a : String) :
    form.takeOperand a r = .ok { r with operands := a :: r.operands, ended := true } := by
  simp only [takeOperand, hrow, hrest, if_true]

theorem read_ended (hrow : form.operands[r.taken]? = some row) (hrest : row.arity = .rest)
    (hended : r.ended = true) (args : List String) :
    form.read args r = .ok { r with operands := args.reverse ++ r.operands } := by
  induction args generalizing r with
  | nil => rfl
  | cons a rest ih =>
    let next : Reading := { r with operands := a :: r.operands, ended := true }
    have hnext : form.read rest next =
        .ok { next with operands := rest.reverse ++ next.operands } :=
      ih hrow rfl
    rw [read, hended, Bool.true_or, if_pos rfl, takeOperand_rest hrow hrest]
    refine hnext.trans ?_
    simp only [next, List.reverse_cons, List.append_assoc, List.singleton_append]

/-- Behind a first operand there are only operands. -/
theorem read_operands (hrow : form.operands[r.taken]? = some row) (hrest : row.arity = .rest)
    {args : List String} (hfirst : ∀ a ∈ args.head?, a.startsWith "-" = false ∧ a ≠ "help") :
    ∃ ended, form.read args r =
      .ok { r with operands := args.reverse ++ r.operands, ended := ended } := by
  cases args with
  | nil => exact ⟨r.ended, rfl⟩
  | cons a rest =>
    obtain ⟨hhyphen, hhelp⟩ := hfirst a rfl
    have hlong : a ≠ "--help" := by
      rintro rfl
      rw [Bool.eq_false_iff, ne_eq, String.startsWith_string_iff] at hhyphen
      exact hhyphen (by decide)
    have hword : helpWords.contains a = false := by
      simp [helpWords, hlong, hhelp]
    let next : Reading := { r with operands := a :: r.operands, ended := true }
    have hnext : form.read rest next =
        .ok { next with operands := rest.reverse ++ next.operands } :=
      read_ended (r := next) hrow hrest rfl rest
    refine ⟨true, ?_⟩
    rw [read, hword, hhyphen, Bool.not_false, Bool.and_self, Bool.or_true, if_pos rfl,
      takeOperand_rest hrow hrest]
    refine hnext.trans ?_
    simp only [next, List.reverse_cons, List.append_assoc, List.singleton_append]

/-- A request for help is noted, and what follows it is read all the same. -/
theorem read_help (hended : r.ended = false) {a : String} (ha : helpWords.contains a)
    (rest : List String) : form.read (a :: rest) r = form.read rest { r with help := true } := by
  rw [read, hended, ha, Bool.not_true, Bool.false_and, Bool.or_self, if_neg Bool.false_ne_true,
    if_pos rfl]

/-- Arguments that are read without a request for help are taken as they are, if the form
requires none. -/
theorem parse_of_read {args : List String} (hread : form.read args .start = .ok r)
    (hhelp : r.help = false) (hrequired : form.required = []) :
    form.parse args = .ok (.run r.choice) := by
  simp only [parse, hread, hhelp, hrequired, List.drop_nil, List.isEmpty_nil, if_true,
    Bool.false_eq_true, if_false]

/-- Two hyphens end the options. -/
theorem read_mark (hended : r.ended = false) (rest : List String) :
    form.read ("--" :: rest) r = form.read rest { r with ended := true } := by
  have hhyphen : "--".startsWith "-" = true := String.startsWith_string_iff.2 (by decide)
  have hword : helpWords.contains "--" = false := by decide
  rw [read, hended, hword, hhyphen, Bool.not_true, Bool.and_false, Bool.or_self,
    if_neg Bool.false_ne_true, if_neg Bool.false_ne_true, if_pos (beq_self_eq_true _)]

/-- Behind two hyphens every argument is an operand of an open-ended row. -/
theorem parse_marked (hrow : form.operands[0]? = some row) (hrest : row.arity = .rest)
    (hrequired : form.required = []) (args : List String) :
    form.parse ("--" :: args) = .ok (.run ⟨[], [], args⟩) := by
  have hread := read_ended (r := { Reading.start with ended := true }) hrow hrest rfl args
  have hparse := parse_of_read ((read_mark rfl args).trans hread) rfl hrequired
  rwa [Reading.choice, Reading.start, List.append_nil, List.reverse_reverse] at hparse

end LineShell.Options.Form
