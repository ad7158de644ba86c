import LineShell.Text.Basic

/-!
# Text and lines in bytes

Text is read back from its bytes (`Utf8.decode?_encode`), and the lines of some bytes are
the pieces between the breaks (`Lines.split_eq_contents`).
-/

namespace LineShell

/-!
## Text is read back from its bytes

What is written for a character is what `next` takes for that character,
whatever follows: there is one lemma for each number of bytes, and
`next_encodeChar` puts them together.  So a whole text is read back
(`decode?_encode`), and a byte below 128 occurs in its bytes only where the
character of that number occurs in the text (`mem_of_mem_encode`).

Such a byte is never taken for a part of a longer character.  So bytes that need not
be text can be cut behind it (`decodeLossy_append`).
-/

namespace Utf8

/-! ### Reading one character -/

section

variable {b b₁ b₂ b₃ : UInt8} (rest : Bytes)

theorem next_one (h : b.toNat < 0x80) : next b rest = (some (Char.ofNat b.toNat), rest) := by
  have hlow : b < 0x80 := UInt8.lt_iff_toNat_lt.2 h
  simp only [next, if_pos hlow]

theorem next_two (h : 0xC2 ≤ b.toNat ∧ b.toNat ≤ 0xDF) (h₁ : continues b₁) :
    next b (b₁ :: rest) = (some (Char.ofNat (b.toNat % 32 * 64 + bits b₁)), rest) := by
  have hlow : ¬ b < 0x80 := by simp [UInt8.lt_iff_toNat_lt]; omega
  have htwo : (0xC2 ≤ b && b ≤ 0xDF) = true := by simpa [UInt8.le_iff_toNat_le] using h
  simp only [next, if_neg hlow, if_pos htwo, if_pos h₁]

theorem next_three (h : 0xE0 ≤ b.toNat ∧ b.toNat ≤ 0xEF) (h₁ : follows b b₁)
    (h₂ : continues b₂) :
    next b (b₁ :: b₂ :: rest) =
      (some (Char.ofNat ((b.toNat % 16 * 64 + bits b₁) * 64 + bits b₂)), rest) := by
  have hlow : ¬ b < 0x80 := by simp [UInt8.lt_iff_toNat_lt]; omega
  have htwo : ¬ (0xC2 ≤ b && b ≤ 0xDF) = true := by simp [UInt8.le_iff_toNat_le]; omega
  have hthree : (0xE0 ≤ b && b ≤ 0xEF) = true := by simpa [UInt8.le_iff_toNat_le] using h
  simp only [next, if_neg hlow, if_neg htwo, if_pos hthree, if_pos h₁, if_pos h₂]

theorem next_four (h : 0xF0 ≤ b.toNat ∧ b.toNat ≤ 0xF4) (h₁ : follows b b₁)
    (h₂ : continues b₂) (h₃ : continues b₃) :
    next b (b₁ :: b₂ :: b₃ :: rest) =
      (some (Char.ofNat (((b.toNat % 8 * 64 + bits b₁) * 64 + bits b₂) * 64 + bits b₃)), rest) := by
  have hlow : ¬ b < 0x80 := by simp [UInt8.lt_iff_toNat_lt]; omega
  have htwo : ¬ (0xC2 ≤ b && b ≤ 0xDF) = true := by simp [UInt8.le_iff_toNat_le]; omega
  have hthree : ¬ (0xE0 ≤ b && b ≤ 0xEF) = true := by simp [UInt8.le_iff_toNat_le]; omega
  have hfour : (0xF0 ≤ b && b ≤ 0xF4) = true := by simpa [UInt8.le_iff_toNat_le] using h
  simp only [next, if_neg hlow, if_neg htwo, if_neg hthree, if_pos hfour, if_pos h₁, if_pos h₂,
    if_pos h₃]

end

/-! ### The bytes of one character -/

/-- A byte of a number below 256. -/
theorem toNat_byte {n : Nat} (h : n < 256) : (UInt8.ofNat n).toNat = n := by
  rw [UInt8.toNat_ofNat']
  exact Nat.mod_eq_of_lt h

/-- The byte that continues a character with six bits. -/
def continuation (n : Nat) : UInt8 := UInt8.ofNat (n % 64 + 0x80)

theorem toNat_continuation (n : Nat) : (continuation n).toNat = n % 64 + 0x80 :=
  toNat_byte (by omega)

theorem bits_continuation (n : Nat) : bits (continuation n) = n % 64 := by
  rw [bits, toNat_continuation]
  omega

theorem continues_continuation (n : Nat) : continues (continuation n) := by
  have h := toNat_continuation n
  simp [continues, UInt8.le_iff_toNat_le]
  omega

/-- Four first bytes admit fewer bytes behind them than the others. -/
theorem follows_continuation {first : UInt8} {n : Nat}
    (hE0 : first.toNat = 0xE0 → 0x20 ≤ n % 64) (hED : first.toNat = 0xED → n % 64 < 0x20)
    (hF0 : first.toNat = 0xF0 → 0x10 ≤ n % 64) (hF4 : first.toNat = 0xF4 → n % 64 < 0x10) :
    follows first (continuation n) := by
  have h := toNat_continuation n
  rw [follows, Bool.and_eq_true, decide_eq_true_eq, decide_eq_true_eq, UInt8.le_iff_toNat_le,
    UInt8.le_iff_toNat_le, h]
  simp only [followers, ← UInt8.toNat_inj, UInt8.reduceToNat]
  repeat' split
  all_goals simp only [UInt8.reduceToNat]
  all_goals omega

/-- A code point lies below the surrogates or above them. -/
theorem toNat_valid (c : Char) : c.toNat < 0xD800 ∨ (0xDFFF < c.toNat ∧ c.toNat < 0x110000) :=
  c.valid

/-- What is written for a character is read as that character. -/
theorem next_encodeChar (c : Char) (rest : Bytes) :
    ∃ b tail, String.utf8EncodeChar c = b :: tail ∧ next b (tail ++ rest) = (some c, rest) := by
  have hvalid := toNat_valid c
  have hval : c.val.toNat = c.toNat := rfl
  have hread : ∀ {n : Nat}, n = c.toNat → (some (Char.ofNat n), rest) = (some c, rest) := by
    rintro _ rfl
    rw [Char.ofNat_toNat]
  unfold String.utf8EncodeChar
  simp only [hval]
  by_cases h₁ : c.toNat ≤ 0x7F
  · have hb := toNat_byte (show c.toNat < 256 by omega)
    rw [if_pos h₁]
    refine ⟨_, _, rfl, (next_one rest (by omega)).trans (hread hb)⟩
  · by_cases h₂ : c.toNat ≤ 0x7FF
    · have hb := toNat_byte (show c.toNat / 64 % 32 + 0xC0 < 256 by omega)
      rw [if_neg h₁, if_pos h₂]
      refine ⟨_, _, rfl, (next_two rest (by omega) (continues_continuation _)).trans (hread ?_)⟩
      rw [hb, bits_continuation]
      omega
    · by_cases h₃ : c.toNat ≤ 0xFFFF
      · have hb := toNat_byte (show c.toNat / 4096 % 16 + 0xE0 < 256 by omega)
        rw [if_neg h₁, if_neg h₂, if_pos h₃]
        refine ⟨_, _, rfl, (next_three rest (by omega) (follows_continuation ?_ ?_ ?_ ?_)
          (continues_continuation _)).trans (hread ?_)⟩
        · omega
        · omega
        · omega
        · omega
        · rw [hb, bits_continuation, bits_continuation]
          omega
      · have hb := toNat_byte (show c.toNat / 262144 % 8 + 0xF0 < 256 by omega)
        rw [if_neg h₁, if_neg h₂, if_neg h₃]
        refine ⟨_, _, rfl, (next_four rest (by omega) (follows_continuation ?_ ?_ ?_ ?_)
          (continues_continuation _) (continues_continuation _)).trans (hread ?_)⟩
        · omega
        · omega
        · omega
        · omega
        · rw [hb, bits_continuation, bits_continuation, bits_continuation]
          omega

/-! ### Whole texts -/

theorem scanFrom_encode (found : Array (Option Char)) (cs : List Char) :
    (scanFrom found (encode cs)).toList = found.toList ++ cs.map some := by
  induction cs generalizing found with
  | nil => simp [encode, scanFrom]
  | cons c rest ih =>
    obtain ⟨b, tail, hbytes, hnext⟩ := next_encodeChar c (encode rest)
    have hcons : encode (c :: rest) = b :: (tail ++ encode rest) := by
      rw [encode, List.flatMap_cons, hbytes]
      rfl
    rw [hcons, scanFrom, hnext, ih, Array.toList_push, List.map_cons, List.append_assoc]
    rfl

theorem scan_encode (cs : List Char) : scan (encode cs) = cs.map some :=
  scanFrom_encode #[] cs

/-- **Every text is read back from its bytes.** -/
theorem decode?_encode (cs : List Char) : decode? (encode cs) = some cs := by
  simp [decode?, scan_encode]

/-- A character of more than one byte has no byte below 128. -/
theorem eq_of_mem_encodeChar {b : UInt8} (hb : b.toNat < 0x80) {c : Char}
    (h : b ∈ String.utf8EncodeChar c) : Char.ofNat b.toNat = c := by
  have hval : c.val.toNat = c.toNat := rfl
  have hlong : ∀ (ns : List Nat) {first : UInt8}, 0x80 ≤ first.toNat →
      b ∉ first :: ns.map continuation := by
    intro ns first hfirst hmem
    rcases List.mem_cons.1 hmem with rfl | hmem
    · omega
    · obtain ⟨n, -, rfl⟩ := List.mem_map.1 hmem
      rw [toNat_continuation] at hb
      omega
  unfold String.utf8EncodeChar at h
  simp only [hval] at h
  split at h
  · have hbyte := toNat_byte (show c.toNat < 256 by omega)
    rw [List.mem_singleton.1 h, hbyte, Char.ofNat_toNat]
  · split at h
    · have hbyte := toNat_byte (show c.toNat / 64 % 32 + 0xC0 < 256 by omega)
      exact absurd h (hlong [_] (by omega))
    · split at h
      · have hbyte := toNat_byte (show c.toNat / 4096 % 16 + 0xE0 < 256 by omega)
        exact absurd h (hlong [_, _] (by omega))
      · have hbyte := toNat_byte (show c.toNat / 262144 % 8 + 0xF0 < 256 by omega)
        exact absurd h (hlong [_, _, _] (by omega))

theorem mem_of_mem_encode {b : UInt8} (hb : b.toNat < 0x80) {cs : List Char} (h : b ∈ encode cs) :
    Char.ofNat b.toNat ∈ cs := by
  obtain ⟨c, hc, hmem⟩ := List.mem_flatMap.1 h
  rwa [eq_of_mem_encodeChar hb hmem]

/-! ### Bytes that are cut -/

theorem scanFrom_eq (found : Array (Option Char)) (bs : Bytes) :
    (scanFrom found bs).toList = found.toList ++ (scanFrom #[] bs).toList := by
  match bs with
  | [] => simp [scanFrom]
  | b :: rest =>
    have hlength := length_next_le b rest
    rw [scanFrom, scanFrom_eq (found.push _), scanFrom, scanFrom_eq (#[].push _)]
    simp
  termination_by bs.length

@[simp] theorem scan_nil : scan [] = [] := by simp [scan, scanFrom]

theorem scan_cons (b : UInt8) (rest : Bytes) :
    scan (b :: rest) = (next b rest).1 :: scan (next b rest).2 := by
  rw [scan, scanFrom, scanFrom_eq]
  rfl

section

variable {b : UInt8} (hb : b.toNat < 0x80)
include hb

theorem not_continues : ¬ continues b := by
  simp [continues, UInt8.le_iff_toNat_le]
  omega

theorem not_follows (first : UInt8) : ¬ follows first b := by
  rw [follows, Bool.and_eq_true, decide_eq_true_eq, decide_eq_true_eq, UInt8.le_iff_toNat_le]
  simp only [followers]
  repeat' split
  all_goals simp only [UInt8.reduceToNat]
  all_goals omega

/-- A byte below 128 belongs to no longer character.  So the character before it is read, or
found to be broken, as if nothing followed. -/
theorem next_append (first : UInt8) (rest more : Bytes) :
    next first (rest ++ b :: more) = ((next first rest).1, (next first rest).2 ++ b :: more) := by
  have hcontinues := not_continues hb
  have hfollows := not_follows hb first
  by_cases hone : first < 0x80
  · simp only [next, if_pos hone]
  by_cases htwo : (0xC2 ≤ first && first ≤ 0xDF) = true
  · simp only [next, if_neg hone, if_pos htwo]
    cases rest with
    | nil => simp only [List.nil_append, if_neg hcontinues]
    | cons b₁ r₁ => by_cases h₁ : continues b₁ <;> simp only [List.cons_append, h₁] <;> rfl
  by_cases hthree : (0xE0 ≤ first && first ≤ 0xEF) = true
  · simp only [next, if_neg hone, if_neg htwo, if_pos hthree]
    cases rest with
    | nil => simp only [List.nil_append, if_neg hfollows]
    | cons b₁ r₁ =>
      by_cases h₁ : follows first b₁
      · simp only [List.cons_append, if_pos h₁]
        cases r₁ with
        | nil => simp only [List.nil_append, if_neg hcontinues]
        | cons b₂ r₂ => by_cases h₂ : continues b₂ <;> simp only [List.cons_append, h₂] <;> rfl
      · simp only [List.cons_append, if_neg h₁]
  by_cases hfour : (0xF0 ≤ first && first ≤ 0xF4) = true
  · simp only [next, if_neg hone, if_neg htwo, if_neg hthree, if_pos hfour]
    cases rest with
    | nil => simp only [List.nil_append, if_neg hfollows]
    | cons b₁ r₁ =>
      by_cases h₁ : follows first b₁
      · simp only [List.cons_append, if_pos h₁]
        cases r₁ with
        | nil => simp only [List.nil_append, if_neg hcontinues]
        | cons b₂ r₂ =>
          by_cases h₂ : continues b₂
          · simp only [List.cons_append, if_pos h₂]
            cases r₂ with
            | nil => simp only [List.nil_append, if_neg hcontinues]
            | cons b₃ r₃ =>
              by_cases h₃ : continues b₃ <;> simp only [List.cons_append, h₃] <;> rfl
          · simp only [List.cons_append, if_neg h₂]
      · simp only [List.cons_append, if_neg h₁]
  · simp only [next, if_neg hone, if_neg htwo, if_neg hthree, if_neg hfour]

theorem scan_cons_low (rest : Bytes) :
    scan (b :: rest) = some (Char.ofNat b.toNat) :: scan rest := by
  rw [scan_cons, next_one rest hb]

theorem scan_append_cons (before more : Bytes) :
    scan (before ++ b :: more) = scan before ++ scan (b :: more) := by
  match before with
  | [] => simp
  | first :: rest =>
    have hlength := length_next_le first rest
    have hrest := scan_append_cons (next first rest).2 more
    rw [List.cons_append, scan_cons, next_append hb, hrest, scan_cons first, List.cons_append]
  termination_by before.length

theorem decodeLossy_concat (before : Bytes) :
    decodeLossy (before ++ [b]) = decodeLossy before ++ [Char.ofNat b.toNat] := by
  unfold decodeLossy
  rw [scan_append_cons hb, scan_cons_low hb, scan_nil, List.map_append]
  rfl

end

/-- **Behind a byte below 128 reading begins anew**, also where a character before it is cut
short. -/
theorem decodeLossy_append {as : Bytes} (h : ∀ b ∈ as.getLast?, b.toNat < 0x80) (bs : Bytes) :
    decodeLossy (as ++ bs) = decodeLossy as ++ decodeLossy bs := by
  cases hlast : as.getLast? with
  | none =>
    obtain rfl := List.getLast?_eq_none_iff.1 hlast
    simp [decodeLossy]
  | some b =>
    have hb : b.toNat < 0x80 := h b hlast
    obtain ⟨front, rfl⟩ := List.getLast?_eq_some_iff.1 hlast
    rw [decodeLossy_concat hb, List.append_assoc, List.append_assoc, List.singleton_append,
      List.singleton_append]
    unfold decodeLossy
    rw [scan_append_cons hb, scan_cons_low hb, List.map_append]
    rfl

end Utf8

theorem bytesOf_append (s t : String) : bytesOf (s ++ t) = bytesOf s ++ bytesOf t := by
  rw [bytesOf, String.toList_append]
  exact List.flatMap_append

/-!
## Lines are what stands between line breaks

`Lines.split` goes through the bytes once and keeps the line it is in.  What it finds are
the pieces between the breaks, where nothing follows the last break (`split_eq_contents`).
So a statement about all lines of some bytes can be read without the scan.
-/

namespace Lines

/-- A line without its line break. -/
def content (line : Bytes) : Bytes := if hasBreak line then line.dropLast else line

/-- Pieces without the last one, if that is empty. -/
def withoutLast (pieces : List Bytes) : List Bytes :=
  if pieces.getLast? = some [] then pieces.dropLast else pieces

/-- The lines in some bytes, without their line breaks. -/
def contents (bs : Bytes) : List Bytes := withoutLast (bs.splitOn 10)

theorem text?_eq (line : Bytes) : text? line = Utf8.decode? (content line) := rfl

theorem content_append_break (line : Bytes) : content (line ++ [10]) = line := by
  simp [content, hasBreak]

theorem content_of_no_break {line : Bytes} (h : 10 ∉ line) : content line = line := by
  have hbreak : ¬ hasBreak line := by
    intro hlast
    exact h (List.mem_of_getLast? (beq_iff_eq.1 hlast))
  rw [content, if_neg hbreak]

/-- A line is printed with a break, whether it had one or not. -/
theorem append_break (line : Bytes) :
    line ++ (if hasBreak line then ([] : Bytes) else [10]) = content line ++ [10] := by
  unfold content
  split
  · next h =>
    have hlast : line.getLast? = some 10 := beq_iff_eq.1 h
    obtain ⟨front, rfl⟩ := List.getLast?_eq_some_iff.1 hlast
    simp
  · rfl

theorem withoutLast_cons (piece : Bytes) {pieces : List Bytes} (h : pieces ≠ []) :
    withoutLast (piece :: pieces) = piece :: withoutLast pieces := by
  obtain ⟨next, rest, rfl⟩ := List.exists_cons_of_ne_nil h
  unfold withoutLast
  rw [List.getLast?_cons_cons, List.dropLast_cons_cons]
  split <;> rfl

/-- The scan in the middle of a line.  `before` holds what has been read of it, last byte
first. -/
theorem splitFrom_eq {before : Bytes} (h : 10 ∉ before) (found : Array Bytes) (bs : Bytes) :
    (splitFrom before.reverse.toArray found bs).toList.map content =
      found.toList.map content ++ withoutLast (bs.splitOnPPrepend (· == 10) before) := by
  induction bs generalizing before found with
  | nil =>
    have hline : content before.reverse = before.reverse :=
      content_of_no_break (by simpa using h)
    rw [List.splitOnPPrepend]
    cases before with
    | nil => simp [splitFrom, withoutLast]
    | cons b before =>
      have hsplit : splitFrom (b :: before).reverse.toArray found [] =
          found.push (b :: before).reverse := by simp [splitFrom]
      have hlast : withoutLast [(b :: before).reverse] = [(b :: before).reverse] := by
        simp [withoutLast]
      rw [hsplit, hlast, Array.toList_push, List.map_append, List.map_singleton, hline]
  | cons b rest ih =>
    by_cases hb : b = 10
    · subst hb
      have hpieces : rest.splitOnPPrepend (· == 10) [] ≠ [] := List.splitOnP_ne_nil _ _
      have hnil : (#[] : Array UInt8) = ([] : Bytes).reverse.toArray := rfl
      rw [splitFrom, if_pos rfl, hnil, ih List.not_mem_nil,
        List.splitOnPPrepend_cons_pos (by simp)]
      rw [List.splitOnP_eq_splitOnPPrepend, withoutLast_cons _ hpieces]
      simp [content_append_break]
    · have hmem : 10 ∉ b :: before := by
        rw [List.mem_cons, not_or]
        exact ⟨fun e => hb e.symm, h⟩
      have hpush : before.reverse.toArray.push b = (b :: before).reverse.toArray := by simp
      rw [splitFrom, if_neg hb, hpush, ih hmem, List.splitOnPPrepend_cons_neg (by simpa using hb)]

/-- **The scan finds the pieces between line breaks.** -/
theorem split_eq_contents (bs : Bytes) : (split bs).map content = contents bs := by
  have h := splitFrom_eq List.not_mem_nil #[] bs
  rw [contents, List.splitOn_eq_splitOnP, List.splitOnP_eq_splitOnPPrepend]
  simpa [split] using h

/-- Nothing follows the last break, and two breaks have an empty line between them. -/
example : contents [97, 10, 10, 98, 10] = [[97], [], [98]] := by decide

end Lines

end LineShell
