import LineShell.Token.Machine

/-!
# What a machine has behind it

A program can do nothing to the machine but perform operations, and what it leaves is what
the accepted ones make, one after the other (`Control.run_accepted`); a refused operation
leaves no trace.  So every machine has a history, a list of operations that lead to it from
the machine before any input, however many programs have run and however they ended.

Everything that no grammar can break is read off the history: the zero state stays at the
bottom, tokens are opened and closed in turn, and finished tokens stay.  One lemma for an
operation, `Action.apply_cases`, carries all of it.  Main statement: `Grammar.unbroken`.
-/

namespace LineShell

variable {σ α β : Type}

/-! ## One operation -/

namespace Action

/-- Whether an operation opens a token. -/
def opens : Action σ → Bool
  | .begin => true
  | _ => false

/-- Everything that an operation can do. -/
theorem apply_cases {a : Action σ} {m m' : Scan σ} (h : a.apply m = .ok m') :
    (∃ s, a = .push s ∧ m' = { m with stack := s :: m.stack }) ∨
    (∃ s t below, a = .pop ∧ m.stack = s :: t :: below ∧ m' = { m with stack := t :: below }) ∨
    (a = .begin ∧ m.current = none ∧ m' = { m with current := some [] }) ∨
    (∃ g t, a = .append g ∧ m.current = some t ∧ m' = { m with current := some (g :: t) }) ∨
    (∃ t, a = .finish ∧ m.current = some t ∧
      m' = { m with current := none, finished := t.reverse :: m.finished }) := by
  cases a with
  | push s => exact .inl ⟨s, rfl, (Except.ok.inj h).symm⟩
  | pop =>
    simp only [apply] at h
    split at h
    · next s t below hstack =>
      exact .inr (.inl ⟨s, t, below, rfl, hstack, (Except.ok.inj h).symm⟩)
    · cases h
  | begin =>
    simp only [apply] at h
    split at h
    · next hnone => exact .inr (.inr (.inl ⟨rfl, hnone, (Except.ok.inj h).symm⟩))
    · cases h
  | append g =>
    simp only [apply] at h
    split at h
    · next t hsome => exact .inr (.inr (.inr (.inl ⟨g, t, rfl, hsome, (Except.ok.inj h).symm⟩)))
    · cases h
  | finish =>
    simp only [apply] at h
    split at h
    · next t hsome => exact .inr (.inr (.inr (.inr ⟨t, rfl, hsome, (Except.ok.inj h).symm⟩)))
    · cases h

/-- Why an operation is refused by a machine with this zero state. -/
inductive Refused (zero : σ) (m : Scan σ) : Action σ → Misuse → Prop where
  | pop : m.stack = [zero] → Refused zero m .pop .zeroState
  | begin : m.isOpen = true → Refused zero m .begin .openToken
  | append (g : Glyph) : m.isOpen = false → Refused zero m (.append g) .noOpenToken
  | finish : m.isOpen = false → Refused zero m .finish .noOpenToken

/-- An operation is refused for its own reason only, and always for that. -/
theorem apply_eq_error_iff {a : Action σ} {zero : σ} {m : Scan σ} {e : Misuse}
    (hbottom : ∃ above, m.stack = above ++ [zero]) :
    a.apply m = .error e ↔ a.Refused zero m e := by
  obtain ⟨stack, current, finished⟩ := m
  obtain ⟨above, rfl⟩ : ∃ above, stack = above ++ [zero] := hbottom
  constructor
  · intro h
    cases a with
    | push s => cases h
    | pop =>
      rcases above with _ | ⟨s, _ | ⟨t, above⟩⟩
      · cases h
        exact .pop rfl
      · cases h
      · cases h
    | begin =>
      cases current with
      | none => cases h
      | some t =>
        cases h
        exact .begin rfl
    | append g =>
      cases current with
      | none =>
        cases h
        exact .append g rfl
      | some t => cases h
    | finish =>
      cases current with
      | none =>
        cases h
        exact .finish rfl
      | some t => cases h
  · intro h
    cases h with
    | pop hstack =>
      obtain rfl : above = [] := List.append_left_eq_self.1 hstack
      rfl
    | begin hopen =>
      cases current with
      | none => cases hopen
      | some t => rfl
    | append g hopen =>
      cases current with
      | none => rfl
      | some t => cases hopen
    | finish hopen =>
      cases current with
      | none => rfl
      | some t => cases hopen

end Action

/-! ## Histories -/

namespace Scan

/-- Performs operations one after the other, up to the first that is refused. -/
def perform (m : Scan σ) : List (Action σ) → Except Misuse (Scan σ)
  | [] => .ok m
  | a :: rest =>
    match a.apply m with
    | .ok m' => m'.perform rest
    | .error e => .error e

variable {m m' : Scan σ} {zero : σ} {ops : List (Action σ)}

theorem perform_append {more : List (Action σ)} (h : m.perform ops = .ok m') :
    m.perform (ops ++ more) = m'.perform more := by
  induction ops generalizing m with
  | nil =>
    obtain rfl := Except.ok.inj h
    rfl
  | cons a rest ih =>
    simp only [perform, List.cons_append] at h ⊢
    cases ha : a.apply m with
    | ok m₁ =>
      rw [ha] at h
      exact ih h
    | error e =>
      rw [ha] at h
      cases h

/-- What every operation keeps is kept by a history. -/
theorem perform_induction {P : Scan σ → Prop}
    (hstep : ∀ {a m m'}, Action.apply a m = .ok m' → P m → P m')
    (h : m.perform ops = .ok m') (hm : P m) : P m' := by
  induction ops generalizing m with
  | nil =>
    obtain rfl := Except.ok.inj h
    exact hm
  | cons a rest ih =>
    simp only [perform] at h
    split at h
    · next ha => exact ih h (hstep ha hm)
    · cases h

/-- The zero state stays at the bottom of the stack. -/
theorem bottom_of_perform (h : (start zero).perform ops = .ok m) :
    ∃ above, m.stack = above ++ [zero] := by
  refine perform_induction (P := fun m => ∃ above, m.stack = above ++ [zero]) ?_ h ⟨[], rfl⟩
  intro a m m' ha hm
  obtain ⟨above, hstack⟩ := hm
  obtain ⟨s, -, rfl⟩ | ⟨s, t, below, -, htop, rfl⟩ | ⟨-, -, rfl⟩ | ⟨g, t, -, -, rfl⟩ |
    ⟨t, -, -, rfl⟩ := Action.apply_cases ha
  · exact ⟨s :: above, congrArg (s :: ·) hstack⟩
  · -- Two states at least are on the stack, so the one that goes is not at the bottom.
    rw [hstack] at htop
    cases above with
    | nil => simp at htop
    | cons u above => exact ⟨above, (List.cons.inj htop).2.symm⟩
  · exact ⟨above, hstack⟩
  · exact ⟨above, hstack⟩
  · exact ⟨above, hstack⟩

/-- Finished tokens stay as they are, and new ones come behind them. -/
theorem tokens_of_perform (h : m.perform ops = .ok m') : m.tokens <+: m'.tokens := by
  refine perform_induction (P := fun m' => m.tokens <+: m'.tokens) ?_ h (List.prefix_refl _)
  intro a m₁ m₂ ha hm
  refine hm.trans ?_
  obtain ⟨s, -, rfl⟩ | ⟨s, t, below, -, -, rfl⟩ | ⟨-, -, rfl⟩ | ⟨g, t, -, -, rfl⟩ |
    ⟨t, -, -, rfl⟩ := Action.apply_cases ha
  · exact List.prefix_refl _
  · exact List.prefix_refl _
  · exact List.prefix_refl _
  · exact List.prefix_refl _
  · unfold tokens
    rw [List.reverse_cons]
    exact List.prefix_append _ _

/-- How many tokens there are, the open one included. -/
def begun (m : Scan σ) : Nat := m.tokens.length + if m.isOpen then 1 else 0

/-- Every token that has been opened is finished, but for the one that is open. -/
theorem begun_of_perform (h : m.perform ops = .ok m') :
    m'.begun = m.begun + ops.countP Action.opens := by
  induction ops generalizing m with
  | nil =>
    obtain rfl := Except.ok.inj h
    rfl
  | cons a rest ih =>
    simp only [perform] at h
    split at h
    case h_2 => cases h
    case h_1 m₁ ha =>
      rw [ih h, List.countP_cons, Nat.add_comm (List.countP _ _), ← Nat.add_assoc]
      congr 1
      obtain ⟨s, rfl, rfl⟩ | ⟨s, t, below, rfl, -, rfl⟩ | ⟨rfl, hopen, rfl⟩ |
        ⟨g, t, rfl, hopen, rfl⟩ | ⟨t, rfl, hopen, rfl⟩ := Action.apply_cases ha
      · rfl
      · rfl
      · simp [begun, isOpen, hopen, tokens, Action.opens]
      · simp [begun, isOpen, hopen, tokens, Action.opens]
      · simp [begun, isOpen, hopen, tokens, Action.opens]

end Scan

/-! ## What a program leaves -/

namespace Control

/-- The operations of a program that are accepted. -/
def accepted : Control σ α → Scan σ → List (Action σ)
  | .done _, _ => []
  | .refuse _, _ => []
  | .perform a next, m =>
    match a.apply m with
    | .ok m' => a :: (next (.ok ())).accepted m'
    | .error e => (next (.error e)).accepted m
  | .askOpen next, m => (next m.isOpen).accepted m
  | .again next, m => next.accepted m

/-- **A program leaves what its accepted operations make**, whether it fails or not. -/
theorem run_accepted (p : Control σ α) (reread : Bool) (m : Scan σ) :
    m.perform (p.accepted m) = .ok (p.run reread m).2 := by
  induction p generalizing reread m with
  | done a => rfl
  | refuse e => rfl
  | perform a next ih =>
    simp only [accepted, run]
    cases ha : a.apply m with
    | ok m' =>
      simp only [Scan.perform, ha]
      exact ih (.ok ()) reread m'
    | error e => exact ih (.error e) reread m
  | askOpen next ih => exact ih m.isOpen reread m
  | again next ih => exact ih true m

/-- A program goes on where the one before it has ended. -/
theorem run_bind (p : Control σ α) (k : α → Control σ β) (reread : Bool) (m : Scan σ) :
    (p.bind k).run reread m =
      match p.run reread m with
      | (.ok (x, reread'), m') => (k x).run reread' m'
      | (.error e, m') => (.error e, m') := by
  induction p generalizing reread m with
  | done a => rfl
  | refuse e => rfl
  | perform a next ih =>
    simp only [bind, run]
    cases a.apply m with
    | ok m' => exact ih (.ok ()) reread m'
    | error e => exact ih (.error e) reread m
  | askOpen next ih => exact ih m.isOpen reread m
  | again next ih => exact ih true m

/-- An operation that ends the program where it is refused. -/
theorem run_refused {a : Action σ} {m : Scan σ} {e : Misuse} (h : a.apply m = .error e)
    (k : Unit → Control σ β) (reread : Bool) :
    ((act a).bind k).run reread m = (.error e, m) := by
  simp only [act, bind, run, h]

end Control

/-! ## Calls -/

namespace Grammar

variable {g : Grammar σ} {m m' m'' : Scan σ}

/-- What the state on top makes of a character. -/
def turn (g : Grammar σ) (c : Char) (m : Scan σ) : Except Misuse (Unit × Bool) × Scan σ :=
  (g.rule (g.top m) c).run false m

/-- The machines that turns lead to, whatever the turns come to. -/
inductive Reaches (g : Grammar σ) (m : Scan σ) : Scan σ → Prop where
  | refl : g.Reaches m m
  | turn {m' : Scan σ} (c : Char) : g.Reaches m m' → g.Reaches m (g.turn c m').2

theorem Reaches.trans (h : g.Reaches m m') (h' : g.Reaches m' m'') : g.Reaches m m'' := by
  induction h' with
  | refl => exact h
  | turn c _ ih => exact ih.turn c

theorem Reaches.exists_history (h : g.Reaches m m') : ∃ ops, m.perform ops = .ok m' := by
  induction h with
  | refl => exact ⟨[], rfl⟩
  | @turn m₁ c _ ih =>
    obtain ⟨ops, hops⟩ := ih
    refine ⟨ops ++ (g.rule (g.top m₁) c).accepted m₁, ?_⟩
    rw [Scan.perform_append hops]
    exact Control.run_accepted _ false m₁

theorem reaches_feedChar {c : Char} {limit : Nat} {r : Except Misuse Unit}
    (h : g.feedChar c limit m = some (r, m')) : g.Reaches m m' := by
  induction limit generalizing m with
  | zero => cases h
  | succ limit ih =>
    have hturn : g.Reaches m (g.turn c m).2 := .turn c .refl
    simp only [feedChar] at h
    unfold turn at hturn
    split at h
    · next hrun =>
      obtain ⟨-, rfl⟩ := Prod.mk.inj (Option.some.inj h)
      rwa [hrun] at hturn
    · next hrun =>
      rw [hrun] at hturn
      exact hturn.trans (ih h)
    · next hrun =>
      obtain ⟨-, rfl⟩ := Prod.mk.inj (Option.some.inj h)
      rwa [hrun] at hturn

theorem reaches_feed {cs : List Char} {limit : Nat} {r : Except Misuse Unit}
    (h : g.feed limit cs m = some (r, m')) : g.Reaches m m' := by
  induction cs generalizing m with
  | nil =>
    obtain ⟨-, rfl⟩ := Prod.mk.inj (Option.some.inj h)
    exact .refl
  | cons c rest ih =>
    simp only [feed] at h
    split at h
    · cases h
    · next hchar =>
      obtain ⟨-, rfl⟩ := Prod.mk.inj (Option.some.inj h)
      exact reaches_feedChar hchar
    · next hchar => exact (reaches_feedChar hchar).trans (ih h)

/-- A text is read up to the first character that fails, and what comes behind that one
makes no difference. -/
theorem feed_eq_error_iff {cs : List Char} {limit : Nat} {e : Misuse} :
    g.feed limit cs m = some (.error e, m') ↔
      ∃ before c rest m₁, cs = before ++ c :: rest ∧ g.feed limit before m = some (.ok (), m₁) ∧
        g.feedChar c limit m₁ = some (.error e, m') := by
  constructor
  · intro h
    induction cs generalizing m with
    | nil => cases h
    | cons c rest ih =>
      simp only [feed] at h
      split at h
      · cases h
      · next hchar =>
        obtain ⟨he, rfl⟩ := Prod.mk.inj (Option.some.inj h)
        cases he
        exact ⟨[], c, rest, m, rfl, rfl, hchar⟩
      · next hchar =>
        obtain ⟨before, d, behind, m₁, rfl, hbefore, hfail⟩ := ih h
        refine ⟨c :: before, d, behind, m₁, rfl, ?_, hfail⟩
        simp only [feed, hchar, hbefore]
  · rintro ⟨before, c, rest, m₁, rfl, hbefore, hfail⟩
    induction before generalizing m with
    | nil =>
      obtain ⟨-, rfl⟩ := Prod.mk.inj (Option.some.inj hbefore)
      simp only [List.nil_append, feed, hfail]
    | cons d before ih =>
      simp only [feed] at hbefore
      split at hbefore
      · cases hbefore
      · next he =>
        obtain ⟨hok, -⟩ := Prod.mk.inj (Option.some.inj hbefore)
        cases hok
      · next hchar =>
        simp only [List.cons_append, feed, hchar]
        exact ih hbefore

/-- **No grammar can break the machine.**  Let `m` be any machine that turns lead to from the
start, between two calls or within one.  The zero state is at the bottom of its stack, and
the state on top is there to be read; as many tokens have been opened as are finished or
open, and one at most is open.  Calls lead to such machines again, also those that fail, and
finished tokens stay first in all of them.  A call that fails has read the text up to the
character that failed and does not look at the rest.

A turn leaves what its accepted operations make, also where it fails.  Within a turn, let a
program `p` have led to `m₁`.  An operation is refused there for the reason that goes with it
and no other.  A refused operation changes nothing: the program is told and goes on from
`m₁`; where the rule ends with it, the call fails and leaves `m₁`, with all that `p` has
done. -/
theorem unbroken (g : Grammar σ) {m : Scan σ} (h : g.Reaches (.start g.zero) m) :
    (∃ above, m.stack = above ++ [g.zero]) ∧ m.stack.head? = some (g.top m) ∧
    (m.atZero = true ↔ m.stack = [g.zero]) ∧
    (∃ ops, (Scan.start g.zero).perform ops = .ok m ∧
      ops.countP Action.opens = m.tokens.length + if m.isOpen then 1 else 0) ∧
    (∀ limit c r m', g.feedChar c limit m = some (r, m') → g.Reaches m m') ∧
    (∀ limit cs r m', g.feed limit cs m = some (r, m') → g.Reaches m m') ∧
    (∀ m', g.Reaches m m' → m.tokens <+: m'.tokens) ∧
    (∀ limit cs e m', g.feed limit cs m = some (.error e, m') ↔
      ∃ before c rest m₁, cs = before ++ c :: rest ∧ g.feed limit before m = some (.ok (), m₁) ∧
        g.feedChar c limit m₁ = some (.error e, m')) ∧
    (∀ c, m.perform ((g.rule (g.top m) c).accepted m) = .ok (g.turn c m).2) ∧
    ∀ (α : Type) (p : Control σ α) x reread m₁, p.run false m = (.ok (x, reread), m₁) → ∀ a e,
      (a.apply m₁ = .error e ↔ a.Refused g.zero m₁ e) ∧
      (a.Refused g.zero m₁ e → ∀ next : α → Control σ Unit,
        (∀ k, next x = .perform a k →
          (p.bind next).run false m = (k (.error e)).run reread m₁) ∧
        (∀ k c limit, next x = (Control.act a).bind k → g.rule (g.top m) c = p.bind next →
          g.feedChar c (limit + 1) m = some (.error e, m₁))) := by
  obtain ⟨ops, hops⟩ := h.exists_history
  have hbottom := Scan.bottom_of_perform hops
  refine ⟨hbottom, ?_, ?_, ⟨ops, hops, ?_⟩, fun _ _ _ _ => reaches_feedChar,
    fun _ _ _ _ => reaches_feed, ?_, fun _ _ _ _ => feed_eq_error_iff,
    fun c => Control.run_accepted _ false m, ?_⟩
  · obtain ⟨above, hstack⟩ := hbottom
    unfold top
    rw [hstack]
    cases above with
    | nil => rfl
    | cons s above => rfl
  · obtain ⟨above, hstack⟩ := hbottom
    unfold Scan.atZero
    rw [hstack, beq_iff_eq, List.length_append, List.append_left_eq_self,
      ← List.length_eq_zero_iff, List.length_singleton]
    omega
  · have hbegun := Scan.begun_of_perform hops
    have hstart : (Scan.start g.zero).begun = 0 := rfl
    rw [hstart, Nat.zero_add] at hbegun
    exact hbegun.symm
  · intro m' hm'
    obtain ⟨more, hmore⟩ := hm'.exists_history
    exact Scan.tokens_of_perform hmore
  · intro α p x reread m₁ hp a e
    have hrefused : a.apply m₁ = .error e ↔ a.Refused g.zero m₁ e := by
      apply Action.apply_eq_error_iff
      have haccepted := Control.run_accepted p false m
      rw [hp] at haccepted
      exact Scan.bottom_of_perform ((Scan.perform_append hops).trans haccepted)
    refine ⟨hrefused, fun hr next => ⟨?_, ?_⟩⟩
    · intro k hnext
      rw [Control.run_bind, hp]
      simp only [hnext, Control.run, hrefused.2 hr]
    · intro k c limit hnext hrule
      have hrun : (g.rule (g.top m) c).run false m = (.error e, m₁) := by
        rw [hrule, Control.run_bind, hp]
        simp only [hnext]
        exact Control.run_refused (hrefused.2 hr) k reread
      rw [feedChar, hrun]

open Control in
/-- A rule opens a token while one is open, another one pops the zero state: both calls fail
and leave what they have done, and the rest of their texts is not read. -/
theorem unbroken_misused :
    let g : Grammar Bool := ⟨false, fun _ c =>
      if c = 'o' then do beginToken; push true
      else if c = 'x' then do append (.plain c); beginToken
      else do finishToken; pop; pop⟩
    let m : Scan Bool := ⟨[true, false], some [.plain 'x'], []⟩
    let m' : Scan Bool := ⟨[false], none, [[.plain 'x']]⟩
    g.Reaches (.start false) m ∧
    g.feed 1 ['o', 'x', 'o'] (.start false) = some (.error .openToken, m) ∧
    g.feed 1 ['.', 'o'] m = some (.error .zeroState, m') ∧
    m.stack.head? = some (g.top m) ∧ m.tokens <+: m'.tokens := by
  intro g m m'
  have hopen : g.feed 1 ['o', 'x', 'o'] (.start false) = some (.error .openToken, m) := by rfl
  have hpop : g.feedChar '.' 1 m = some (.error .zeroState, m') := by rfl
  have hm : g.Reaches (.start g.zero) m := reaches_feed hopen
  obtain ⟨-, htop, -, -, hchar, -, htokens, hfail, -, -⟩ := unbroken g hm
  exact ⟨hm, hopen, (hfail 1 ['.', 'o'] _ _).2 ⟨[], '.', ['o'], m, rfl, rfl, hpop⟩, htop,
    htokens m' (hchar 1 '.' _ m' hpop)⟩

end Grammar

end LineShell
