import LineShell.Proofs.Options.Operands
import LineShell.Proofs.Stream.Sink
import LineShell.Proofs.Text.Basic
import LineShell.Utility.Kind

/-!
# Words that are printed

`echo` has one open-ended row of operands.  So it prints its words as they are, whatever
they look like, if the first of them is an operand (`parse_words`): their bytes with a
blank between each two, and a line break unless `-n` comes before them.  Main
statement: `prints_words`.

A first word that asks for help is no operand, and it is not printed
(`help_is_not_printed`).
-/

namespace LineShell

theorem Options.Form.help_begins (form : Form) (name : String) :
    ∃ rest, form.help name = "Usage: " ++ rest := by
  unfold help
  simp only [List.cons_append, List.nil_append, List.map_cons, String.join_cons,
    String.intercalate_cons_append, String.append_assoc]
  exact ⟨_, rfl⟩

namespace Utility.Echo

open Options

/-- The bytes of some words with a blank between each two. -/
def printed (words : List String) (newline : Bool) : Bytes :=
  [0x20].intercalate (words.map bytesOf) ++ if newline then [0x0A] else []

theorem bytesOf_intercalate (words : List String) :
    bytesOf (" ".intercalate words) = [0x20].intercalate (words.map bytesOf) := by
  induction words with
  | nil => rfl
  | cons w rest ih =>
    cases rest with
    | nil => rw [String.intercalate_singleton, List.map_singleton, List.intercalate_singleton]
    | cons next rest =>
      have hblank : bytesOf " " = [0x20] := by decide
      rw [List.map_cons] at ih
      rw [String.intercalate_cons_cons, bytesOf_append, bytesOf_append, ih, hblank]
      exact List.intercalate_cons_cons.symm

theorem bytesOf_text (words : List String) (newline : Bool) :
    bytesOf (text words newline) = printed words newline := by
  rw [text, bytesOf_append, bytesOf_intercalate, printed]
  cases newline with
  | true => rfl
  | false => rfl

/-- The arguments that have these words printed. -/
def arguments (words : List String) (newline : Bool) : List String :=
  if newline then words else "-n" :: words

theorem read_switch (rest : List String) :
    form.read ("-n" :: rest) .start =
      form.read rest { Reading.start with switches := ["no-newline"] } := by
  have hhyphen : "-n".startsWith "-" = true := String.startsWith_string_iff.2 (by decide)
  rw [Form.read, hhyphen]
  rfl

/-- Words whose first is an operand are the operands. -/
theorem parse_words {words : List String}
    (hfirst : ∀ w ∈ words.head?, w.startsWith "-" = false ∧ w ≠ "help") (newline : Bool) :
    Kind.echo.parse (arguments words newline) =
      .ok (.run ⟨if newline then [] else ["no-newline"], [], words⟩) := by
  have hwords : ∀ switches, ∃ ended, form.read words { Reading.start with switches := switches } =
      .ok ⟨switches, [], words.reverse ++ [], false, ended, 0⟩ :=
    fun _ => Form.read_operands rfl rfl hfirst
  cases newline with
  | true =>
    obtain ⟨ended, hread⟩ := hwords []
    have hparse := Form.parse_of_read hread rfl rfl
    rwa [Reading.choice, List.append_nil, List.reverse_reverse] at hparse
  | false =>
    obtain ⟨ended, hread⟩ := hwords ["no-newline"]
    have hparse := Form.parse_of_read ((read_switch words).trans hread) rfl rfl
    rwa [Reading.choice, List.append_nil, List.reverse_reverse] at hparse

theorem body_words (words : List String) (newline : Bool) (st : Stage) :
    body ⟨if newline then [] else ["no-newline"], [], words⟩ st =
      match st.write (printed words newline) with
      | (.ok (), st) => (.ok 0, st)
      | (.error f, st) => (.error (.stream f), st) := by
  have hnewline : (!Choice.has ⟨if newline then [] else ["no-newline"], [], words⟩ "no-newline") =
      newline := by
    cases newline with
    | true => rfl
    | false => rfl
  unfold body
  rewrite [hnewline, bytesOf_text]
  rfl

/-- Nothing but the one write decides what becomes of the words. -/
theorem run_words {words : List String}
    (hfirst : ∀ w ∈ words.head?, w.startsWith "-" = false ∧ w ≠ "help") (newline : Bool)
    (st : Stage) :
    Kind.echo.run ("echo" :: arguments words newline) st =
      match st.output.write (printed words newline) with
      | (.ok (), out) => (st.output.flush.map fun _ => 0, { st with output := out })
      | (.error f, out) => (st.output.flush.map fun _ => 1,
          { st with output := out, errors := st.errors.add (bytesOf (f.message ++ "\n")) }) := by
  have hbody : Kind.echo.body ⟨if newline then [] else ["no-newline"], [], words⟩ st = _ :=
    body_words words newline st
  have hflush : (st.output.write (printed words newline)).2.flush = st.output.flush := by
    rw [Sink.flush, Sink.flushFault_write]
    rfl
  rw [Kind.run, List.tail_cons, parse_words hfirst newline]
  simp only [hbody, Stage.write]
  rcases hwrite : st.output.write (printed words newline) with ⟨f | ⟨⟨⟩⟩, out⟩
  · rw [hwrite] at hflush
    dsimp only [Stage.complain]
    rw [hflush]
    cases st.output.flush <;> rfl
  · rw [hwrite] at hflush
    dsimp only
    rw [hflush]
    cases st.output.flush <;> rfl

/-- **Words are printed as they are**, if the first of them neither begins with a hyphen
nor is the word that asks for help.  Their bytes, with a blank between each two and
perhaps a line break, are what is written, as far as the sink takes them; if it takes
them all the status is zero, and nothing but the output has changed. -/
theorem prints_words (words : List String)
    (hfirst : ∀ w ∈ words.head?, w.startsWith "-" = false ∧ w ≠ "help") (newline : Bool)
    (st : Stage) :
    let outcome := Kind.echo.run ("echo" :: arguments words newline) st
    let sent := st.output.write (printed words newline)
    outcome.2.output = sent.2 ∧
    (sent.1 = .ok () → st.output.flush = .ok () →
      outcome = (.ok 0, { st with output := sent.2 }) ∧
      sent.2.written = st.output.written ++ printed words newline) := by
  intro outcome sent
  have hrun : outcome = _ := run_words hfirst newline st
  constructor
  · rw [hrun]
    split <;> next hsent => exact (congrArg Prod.snd hsent).symm
  · intro hok hflush
    have hsent : st.output.write (printed words newline) = (.ok (), sent.2) := by
      rw [← hok]
    rw [hrun, hsent, hflush]
    exact ⟨rfl, Sink.written_of_ok hok⟩

/-- Later words may look like options or ask for help. -/
theorem prints_words_late :
    let st : Stage := ⟨.ofShared .empty, ⟨.directory []⟩, [], .ofBytes [], 0, .memory, .empty⟩
    Kind.echo.run ["echo", "-n", "", "-n", "help"] st =
      (.ok 0, { st with output := (st.output.write [32, 45, 110, 32, 104, 101, 108, 112]).2 }) := by
  intro st
  have hfirst : ∀ w ∈ ["", "-n", "help"].head?, w.startsWith "-" = false ∧ w ≠ "help" := by
    intro w hw
    obtain rfl : "" = w := Option.some.inj hw
    refine ⟨?_, by decide⟩
    rw [Bool.eq_false_iff, ne_eq, String.startsWith_string_iff]
    decide
  exact ((prints_words ["", "-n", "help"] hfirst false st).2 rfl rfl).1

/-- The word `help` does not begin with a hyphen.  Where it comes first the help sheet is
printed in its place. -/
theorem help_is_not_printed :
    let st : Stage := ⟨.ofShared .empty, ⟨.directory []⟩, [], .ofBytes [], 0, .memory, .empty⟩
    "help".startsWith "-" = false ∧
    (Kind.echo.run ["echo", "help"] st).1 = .ok 0 ∧
    (Kind.echo.run ["echo", "help"] st).2.output.written = bytesOf (form.help "echo") ∧
    bytesOf (form.help "echo") ≠ printed ["help"] true := by
  intro st
  have hread : form.read ["help"] .start = .ok { Reading.start with help := true } :=
    Form.read_help rfl (by decide) []
  have hparse : Kind.echo.parse ["help"] = .ok .help := by
    show form.parse ["help"] = _
    rw [Form.parse, hread]
    rfl
  have hrun : Kind.echo.run ["echo", "help"] st =
      (.ok 0, { st with output := (st.output.write (bytesOf (form.help "echo"))).2 }) := by
    rw [Kind.run, List.tail_cons, hparse]
    rfl
  rw [hrun]
  refine ⟨?_, rfl, Sink.written_of_ok rfl, ?_⟩
  · rw [Bool.eq_false_iff, ne_eq, String.startsWith_string_iff]
    decide
  · obtain ⟨rest, hrest⟩ := form.help_begins "echo"
    rw [hrest, bytesOf_append]
    intro h
    have hfirst : some (85 : UInt8) = some 104 := congrArg List.head? h
    exact absurd hfirst (by decide)

end Utility.Echo

end LineShell
