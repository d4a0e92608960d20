import SqlScript.Bytes.Encoding

/-!
# Bytes that are text

Decoding UTF-8 succeeds exactly on the bytes of characters, and gives these characters.

* `Bytes.codeUnits`, `Bytes.map_toNat_utf8EncodeChar`: the bytes of a character as numbers.
* `Bytes.decodeUtf8From_some_iff`, `Bytes.decodeUtf8From_none_iff`: what is read next, inside a
  sequence and between two of them.
* `Bytes.decodeUtf8_eq_ok_iff`: **what decodes is the encoding of characters.**
-/

namespace SqlScript.Bytes

open Text

/-! ## The bytes of a character -/

/-- The bytes of a code point in UTF-8, as numbers. -/
def codeUnits (n : Nat) : List Nat :=
  if n < 0x80 then [n]
  else if n < 0x800 then [n / 64 + 0xc0, n % 64 + 0x80]
  else if n < 0x10000 then [n / 4096 + 0xe0, n / 64 % 64 + 0x80, n % 64 + 0x80]
  else [n / 262144 + 0xf0, n / 4096 % 64 + 0x80, n / 64 % 64 + 0x80, n % 64 + 0x80]

section

variable {w x y z : Nat}

theorem codeUnits_two (hx : 2 ≤ x ∧ x < 32) (hy : y < 64) :
    codeUnits (x * 64 + y) = [x + 0xc0, y + 0x80] := by
  rw [codeUnits, if_neg (by omega), if_pos (by omega)]
  simp only [List.cons.injEq, and_true]
  omega

theorem codeUnits_three (hx : x < 16) (hy : y < 64) (hz : z < 64) (h : x = 0 → 32 ≤ y) :
    codeUnits ((x * 64 + y) * 64 + z) = [x + 0xe0, y + 0x80, z + 0x80] := by
  have hxy : ((x * 64 + y) * 64 + z) / 64 = x * 64 + y := by omega
  rw [codeUnits, if_neg (by omega), if_neg (by omega), if_pos (by omega), hxy]
  simp only [List.cons.injEq, and_true]
  omega

theorem codeUnits_four (hy : y < 64) (hz : z < 64) (hw : w < 64) (h : x = 0 → 16 ≤ y) :
    codeUnits (((x * 64 + y) * 64 + z) * 64 + w) = [x + 0xf0, y + 0x80, z + 0x80, w + 0x80] := by
  have hxyz : (((x * 64 + y) * 64 + z) * 64 + w) / 64 = (x * 64 + y) * 64 + z := by omega
  have hxy : (((x * 64 + y) * 64 + z) * 64 + w) / 4096 = x * 64 + y := by omega
  rw [codeUnits, if_neg (by omega), if_neg (by omega), if_neg (by omega), hxyz, hxy]
  simp only [List.cons.injEq, and_true]
  omega

end

/-- **The bytes of a character** are those of its code point. -/
theorem map_toNat_utf8EncodeChar (c : Char) :
    (String.utf8EncodeChar c).map UInt8.toNat = codeUnits c.toNat := by
  have hc : c.toNat.isValidChar := c.valid
  have hv : c.val.toNat = c.toNat := rfl
  unfold String.utf8EncodeChar codeUnits
  simp only [hv]
  generalize c.toNat = n at hc
  unfold Nat.isValidChar at hc
  repeat' split
  all_goals
    first
    | omega
    | simp only [List.map_cons, List.map_nil, UInt8.toNat_ofNat', List.cons.injEq, and_true]
      omega

/-! ## Sequences -/

/-- **How a sequence starts**: its first byte tells how many follow, and the second one may not
make it one that is too long, half of a surrogate pair or past the last character. -/
theorem continuation?_iff {a : UInt8} {missing n : Nat} :
    (∃ low high, continuation? a = some (missing, low, high) ∧ low ≤ n ∧ n ≤ high) ↔
      (0x80 ≤ n ∧ n ≤ 0xbf) ∧
        (missing = 1 ∧ 0xc2 ≤ a.toNat ∧ a.toNat ≤ 0xdf ∨
          missing = 2 ∧ 0xe0 ≤ a.toNat ∧ a.toNat ≤ 0xef ∧ (a.toNat = 0xe0 → 0xa0 ≤ n) ∧
            (a.toNat = 0xed → n ≤ 0x9f) ∨
          missing = 3 ∧ 0xf0 ≤ a.toNat ∧ a.toNat ≤ 0xf4 ∧ (a.toNat = 0xf0 → 0x90 ≤ n) ∧
            (a.toNat = 0xf4 → n ≤ 0x8f)) := by
  unfold continuation?
  generalize a.toNat = m
  simp only
  repeat' split
  all_goals
    simp only [Option.some.injEq, Prod.mk.injEq, and_assoc, exists_and_left, exists_eq_left',
      reduceCtorEq, false_and, exists_false, false_iff]
    omega

variable {position : Nat} {text : List Char}

theorem map_eq_ok_iff {ε α β : Type} {x : Except ε α} {f : α → β} {b : β} :
    (do let a ← x; return f a) = .ok b ↔ ∃ a, x = .ok a ∧ b = f a := by
  cases x with
  | error e => simp [bind, Except.bind]
  | ok a => simp [bind, Except.bind, pure, Except.pure, eq_comm]

/-- **Inside a sequence** the next byte has to be in its range. The last one completes the code
point. -/
theorem decodeUtf8From_some_iff {p : Pending} {b : UInt8} {bs : List UInt8} :
    decodeUtf8From position (some p) (b :: bs) = .ok text ↔
      (p.low ≤ b.toNat ∧ b.toNat ≤ p.high) ∧
        if p.missing ≤ 1 then
          ∃ more, decodeUtf8From (position + 1) none bs = .ok more ∧
            text = ofCodePoint (p.value * 64 + b.toNat % 64) ++ more
        else
          decodeUtf8From (position + 1)
            (some ⟨b :: p.seen, p.value * 64 + b.toNat % 64, p.missing - 1, 0x80, 0xbf⟩) bs =
              .ok text := by
  rw [decodeUtf8From]
  by_cases hb : p.low ≤ b.toNat ∧ b.toNat ≤ p.high
  · by_cases hp : p.missing ≤ 1
    · simp only [hb, hp, and_self, if_true, true_and, map_eq_ok_iff]
    · simp only [hb, hp, and_self, if_true, if_false, true_and]
  · simp only [hb, if_false, false_and, reduceCtorEq]

/-- A sequence does not break off. -/
theorem exists_cons_of_pending {p : Pending} {bs : List UInt8}
    (h : decodeUtf8From position (some p) bs = .ok text) : ∃ b rest, bs = b :: rest := by
  cases bs with
  | nil => simp [decodeUtf8From] at h
  | cons b rest => exact ⟨b, rest, rfl⟩

/-- **Between two sequences** a byte is a character of its own, or starts a longer sequence. -/
theorem decodeUtf8From_none_iff {a : UInt8} {bs : List UInt8} :
    decodeUtf8From position none (a :: bs) = .ok text ↔
      (a.toNat < 0x80 ∧ ∃ more, decodeUtf8From (position + 1) none bs = .ok more ∧
        text = Char.ofNat a.toNat :: more) ∨
      (0x80 ≤ a.toNat ∧ ∃ s, continuation? a = some s ∧
        decodeUtf8From (position + 1)
          (some ⟨[a], a.toNat % (1 <<< (6 - s.1)), s.1, s.2.1, s.2.2⟩) bs = .ok text) := by
  rw [decodeUtf8From]
  by_cases ha : a.toNat < 0x80
  · simp only [ha, if_true, true_and, map_eq_ok_iff, Nat.not_le.2 ha, false_and, or_false]
  · simp only [ha, if_false, false_and, false_or, Nat.not_lt.1 ha, true_and]
    cases continuation? a with
    | none => simp
    | some s => simp

theorem ofCodePoint_of_lt {n : Nat} (h : n < 0x80) : ofCodePoint n = [Char.ofNat n] := by
  have hs : isSurrogate n = false := by
    rw [isSurrogate, Bool.and_eq_false_iff]
    exact .inl (decide_eq_false (by omega))
  have hp : n - surrogateShift = 0 := by unfold surrogateShift; omega
  have hm : n ≠ markPoint := by unfold markPoint; omega
  rw [ofCodePoint, if_neg (by simp [hs]), if_neg (by rw [hp]; decide), if_neg hm]

/-- Bytes that are those of a code point. -/
def IsSequence (n : Nat) (bs : List UInt8) : Prop :=
  n.isValidChar ∧ bs.map UInt8.toNat = codeUnits n

/-- What decodes begins with the bytes of a code point. -/
theorem exists_isSequence {a : UInt8} {bs : List UInt8}
    (h : decodeUtf8From position none (a :: bs) = .ok text) :
    ∃ n first rest more, IsSequence n first ∧ a :: bs = first ++ rest ∧
      decodeUtf8From (position + first.length) none rest = .ok more ∧
        text = ofCodePoint n ++ more := by
  rcases decodeUtf8From_none_iff.1 h with
    ⟨ha, more, hmore, htext⟩ | ⟨ha, ⟨missing, low, high⟩, hs, h⟩
  · refine ⟨a.toNat, [a], bs, more, ⟨by unfold Nat.isValidChar; omega, ?_⟩, rfl, hmore, ?_⟩
    · simp [codeUnits, ha]
    · rw [htext, ofCodePoint_of_lt ha, List.singleton_append]
  obtain ⟨b, bs, rfl⟩ := exists_cons_of_pending h
  obtain ⟨hb, h⟩ := decodeUtf8From_some_iff.1 h
  rcases continuation?_iff.1 ⟨low, high, hs, hb⟩ with ⟨hb, ⟨rfl, ha⟩ | ⟨rfl, ha⟩ | ⟨rfl, ha⟩⟩
  -- one case for each number of bytes that the first one tells
  · obtain ⟨more, hmore, rfl⟩ := h
    refine ⟨a.toNat % 32 * 64 + b.toNat % 64, [a, b], bs, more, ⟨?_, ?_⟩, rfl, hmore, rfl⟩
    · unfold Nat.isValidChar
      omega
    · rw [codeUnits_two (by omega) (by omega)]
      simp only [List.map_cons, List.map_nil, List.cons.injEq, and_true]
      omega
  · obtain ⟨c, bs, rfl⟩ := exists_cons_of_pending h
    obtain ⟨hc, more, hmore, rfl⟩ := decodeUtf8From_some_iff.1 h
    dsimp only at hc
    refine ⟨(a.toNat % 16 * 64 + b.toNat % 64) * 64 + c.toNat % 64, [a, b, c], bs, more,
      ⟨?_, ?_⟩, rfl, hmore, rfl⟩
    · unfold Nat.isValidChar
      omega
    · rw [codeUnits_three (by omega) (by omega) (by omega) (by omega)]
      simp only [List.map_cons, List.map_nil, List.cons.injEq, and_true]
      omega
  · obtain ⟨c, bs, rfl⟩ := exists_cons_of_pending h
    obtain ⟨hc, h⟩ := decodeUtf8From_some_iff.1 h
    obtain ⟨d, bs, rfl⟩ := exists_cons_of_pending h
    obtain ⟨hd, more, hmore, rfl⟩ := decodeUtf8From_some_iff.1 h
    dsimp only at hc hd
    refine ⟨((a.toNat % 8 * 64 + b.toNat % 64) * 64 + c.toNat % 64) * 64 + d.toNat % 64,
      [a, b, c, d], bs, more, ⟨?_, ?_⟩, rfl, hmore, rfl⟩
    · unfold Nat.isValidChar
      omega
    · rw [codeUnits_four (by omega) (by omega) (by omega) (by omega)]
      simp only [List.map_cons, List.map_nil, List.cons.injEq, and_true]
      omega

/-- The bytes of a code point decode to it. -/
theorem decodeUtf8From_append {n : Nat} {first rest : List UInt8} {more : List Char}
    (hn : IsSequence n first)
    (h : decodeUtf8From (position + first.length) none rest = .ok more) :
    decodeUtf8From position none (first ++ rest) = .ok (ofCodePoint n ++ more) := by
  obtain ⟨hvalid, hfirst⟩ := hn
  unfold Nat.isValidChar at hvalid
  unfold codeUnits at hfirst
  split at hfirst
  · obtain ⟨a, rfl, ha⟩ := List.map_eq_singleton_iff.1 hfirst
    rw [ofCodePoint_of_lt (by omega)]
    exact decodeUtf8From_none_iff.2 (.inl ⟨by omega, more, h, by rw [ha]; rfl⟩)
  split at hfirst
  · obtain ⟨a, _, rfl, ha, hfirst⟩ := List.map_eq_cons_iff.1 hfirst
    obtain ⟨b, rfl, hb⟩ := List.map_eq_singleton_iff.1 hfirst
    obtain ⟨low, high, hs, hrange⟩ := (continuation?_iff (a := a) (n := b.toNat)).2
      ⟨by omega, .inl ⟨rfl, by omega⟩⟩
    refine decodeUtf8From_none_iff.2 (.inr ⟨by omega, _, hs, ?_⟩)
    refine decodeUtf8From_some_iff.2 ⟨hrange, more, h, ?_⟩
    have hval : n = a.toNat % 32 * 64 + b.toNat % 64 := by omega
    exact congrArg (ofCodePoint · ++ more) hval
  split at hfirst
  · obtain ⟨a, _, rfl, ha, hfirst⟩ := List.map_eq_cons_iff.1 hfirst
    obtain ⟨b, _, rfl, hb, hfirst⟩ := List.map_eq_cons_iff.1 hfirst
    obtain ⟨c, rfl, hc⟩ := List.map_eq_singleton_iff.1 hfirst
    obtain ⟨low, high, hs, hrange⟩ := (continuation?_iff (a := a) (n := b.toNat)).2
      ⟨by omega, .inr (.inl ⟨rfl, by omega⟩)⟩
    refine decodeUtf8From_none_iff.2 (.inr ⟨by omega, _, hs, ?_⟩)
    refine decodeUtf8From_some_iff.2 ⟨hrange, ?_⟩
    refine decodeUtf8From_some_iff.2 ⟨by dsimp only; omega, more, h, ?_⟩
    have hval : n = (a.toNat % 16 * 64 + b.toNat % 64) * 64 + c.toNat % 64 := by omega
    exact congrArg (ofCodePoint · ++ more) hval
  · obtain ⟨a, _, rfl, ha, hfirst⟩ := List.map_eq_cons_iff.1 hfirst
    obtain ⟨b, _, rfl, hb, hfirst⟩ := List.map_eq_cons_iff.1 hfirst
    obtain ⟨c, _, rfl, hc, hfirst⟩ := List.map_eq_cons_iff.1 hfirst
    obtain ⟨d, rfl, hd⟩ := List.map_eq_singleton_iff.1 hfirst
    obtain ⟨low, high, hs, hrange⟩ := (continuation?_iff (a := a) (n := b.toNat)).2
      ⟨by omega, .inr (.inr ⟨rfl, by omega⟩)⟩
    refine decodeUtf8From_none_iff.2 (.inr ⟨by omega, _, hs, ?_⟩)
    refine decodeUtf8From_some_iff.2 ⟨hrange, ?_⟩
    refine decodeUtf8From_some_iff.2 ⟨by dsimp only; omega, ?_⟩
    refine decodeUtf8From_some_iff.2 ⟨by dsimp only; omega, more, h, ?_⟩
    have hval :
        n = ((a.toNat % 8 * 64 + b.toNat % 64) * 64 + c.toNat % 64) * 64 + d.toNat % 64 := by omega
    exact congrArg (ofCodePoint · ++ more) hval

/-! ## Texts -/

/-- Bytes are those of a code point just when they encode its character. -/
theorem isSequence_iff {n : Nat} {bs : List UInt8} :
    IsSequence n bs ↔ ∃ c : Char, c.toNat = n ∧ bs = String.utf8EncodeChar c := by
  constructor
  · rintro ⟨hn, hbs⟩
    have hc : (Char.ofNat n).toNat = n := by
      rw [Char.ofNat, dif_pos hn]
      rfl
    refine ⟨Char.ofNat n, hc, ?_⟩
    have heq := map_toNat_utf8EncodeChar (Char.ofNat n)
    rw [hc, ← hbs] at heq
    exact (List.map_inj_right fun _ _ => UInt8.toNat_inj.1).1 heq.symm
  · rintro ⟨c, rfl, rfl⟩
    exact ⟨c.valid, map_toNat_utf8EncodeChar c⟩

/-- **UTF-8**: bytes that encode characters. -/
def IsUtf8 (bs : List UInt8) (cs : List Char) : Prop := bs = cs.flatMap String.utf8EncodeChar

instance (bs : List UInt8) (cs : List Char) : Decidable (IsUtf8 bs cs) :=
  inferInstanceAs (Decidable (bs = _))

theorem decodeUtf8From_none_of_isUtf8 {cs : List Char} (position : Nat) :
    decodeUtf8From position none (cs.flatMap String.utf8EncodeChar) = .ok (ofUnicode cs) := by
  induction cs generalizing position with
  | nil => rfl
  | cons c cs ih => exact decodeUtf8From_append (isSequence_iff.2 ⟨c, rfl, rfl⟩) (ih _)

theorem exists_isUtf8_of_decodeUtf8From {bs : List UInt8} {text : List Char} {position : Nat}
    (h : decodeUtf8From position none bs = .ok text) :
    ∃ cs, IsUtf8 bs cs ∧ text = ofUnicode cs := by
  -- each round takes the bytes of one character, so the induction is on how many are left
  induction hlen : bs.length using Nat.strongRecOn generalizing bs text position with
  | ind k ih =>
    cases bs with
    | nil =>
      cases h
      exact ⟨[], rfl, rfl⟩
    | cons a bs =>
      obtain ⟨n, first, rest, more, hn, heq, hmore, rfl⟩ := exists_isSequence h
      obtain ⟨c, rfl, rfl⟩ := isSequence_iff.1 hn
      have hrest : rest.length < k := by
        have hpos := c.utf8Size_pos
        rw [← hlen, heq, List.length_append, String.length_utf8EncodeChar]
        omega
      obtain ⟨cs, hcs, rfl⟩ := ih _ hrest hmore rfl
      exact ⟨c :: cs, by rw [IsUtf8, heq, hcs]; rfl, rfl⟩

/-- **What decodes is the encoding of characters**, and gives these characters. -/
theorem decodeUtf8_eq_ok_iff {bs : List UInt8} {text : List Char} :
    decodeUtf8 bs = .ok text ↔ ∃ cs, IsUtf8 bs cs ∧ text = ofUnicode cs := by
  constructor
  · exact exists_isUtf8_of_decodeUtf8From
  · rintro ⟨cs, rfl, rfl⟩
    exact decodeUtf8From_none_of_isUtf8 0

end SqlScript.Bytes
