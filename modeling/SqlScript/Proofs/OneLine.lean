import SqlScript.Json
import Mathlib.Tactic.IntervalCases

/-!
# JSON values on one line

A JSON value is written with printable characters of ASCII alone: whatever else a string holds is
escaped, and digits, signs and names of numbers are printable. So it stands on one line, whatever
value it is.

* `Text.IsPrintable`: texts of printable characters of ASCII.
* `Json.isPrintable_stringLine`: strings are escaped.
* `Json.isPrintable_line`: **a JSON value is written in printable characters.**
-/

namespace SqlScript

namespace Text

/-- A printable character of ASCII. -/
def IsPrintableChar (c : Char) : Prop := 0x20 ≤ c.toNat ∧ c.toNat < 0x7f

instance (c : Char) : Decidable (IsPrintableChar c) :=
  inferInstanceAs (Decidable (0x20 ≤ c.toNat ∧ c.toNat < 0x7f))

/-- **Characters all of which are printable.** -/
def ArePrintable (cs : List Char) : Prop := ∀ c ∈ cs, IsPrintableChar c

instance (cs : List Char) : Decidable (ArePrintable cs) :=
  List.decidableBAll IsPrintableChar cs

/-- **A text of printable characters of ASCII.** -/
def IsPrintable (s : String) : Prop := ArePrintable s.toList

instance (s : String) : Decidable (IsPrintable s) :=
  inferInstanceAs (Decidable (ArePrintable s.toList))

/-- A text of printable characters is one line. -/
theorem IsPrintable.newline_not_mem {s : String} (h : IsPrintable s) : '\n' ∉ s.toList := by
  intro hmem
  exact absurd (h '\n' hmem) (by decide)

theorem ArePrintable.append {cs ds : List Char} (hc : ArePrintable cs) (hd : ArePrintable ds) :
    ArePrintable (cs ++ ds) := by
  intro c hmem
  exact (List.mem_append.1 hmem).elim (hc c) (hd c)

theorem ArePrintable.mono {cs ds : List Char} (hd : ArePrintable ds) (h : cs ⊆ ds) :
    ArePrintable cs := fun c hmem => hd c (h hmem)

theorem arePrintable_replicate_zero (n : Nat) : ArePrintable (List.replicate n '0') := by
  intro c hmem
  rw [List.eq_of_mem_replicate hmem]
  decide

theorem isPrintable_ofList {cs : List Char} : IsPrintable (String.ofList cs) ↔ ArePrintable cs := by
  unfold IsPrintable
  rw [String.toList_ofList]

theorem IsPrintable.append {s t : String} (hs : IsPrintable s) (ht : IsPrintable t) :
    IsPrintable (s ++ t) := by
  unfold IsPrintable
  rw [String.toList_append]
  exact ArePrintable.append hs ht

/-- Texts of printable characters with one between them. -/
theorem IsPrintable.intercalate {s : String} (hs : IsPrintable s) {ts : List String}
    (hts : ∀ t ∈ ts, IsPrintable t) : IsPrintable (s.intercalate ts) := by
  induction ts with
  | nil => exact (by decide : IsPrintable "")
  | cons t ts ih =>
    cases ts with
    | nil =>
      rw [String.intercalate_singleton]
      exact hts t List.mem_cons_self
    | cons u us =>
      rw [String.intercalate_cons_cons]
      exact ((hts t List.mem_cons_self).append hs).append
        (ih fun v hv => hts v (List.mem_cons_of_mem _ hv))

/-! ## Digits -/

theorem isPrintableChar_digitChar (n : Nat) : IsPrintableChar (Nat.digitChar n) := by
  by_cases h : n < 16
  · interval_cases n <;> decide
  · have hstar : Nat.digitChar n = '*' := by
      unfold Nat.digitChar
      simp only [show ∀ k, k < 16 → n ≠ k from fun k hk => by omega, Nat.reduceLT, if_false]
    rw [hstar]
    decide

/-- Digits are printable, to whatever base. -/
theorem arePrintable_toDigits {b : Nat} (hb : 1 < b) (n : Nat) :
    ArePrintable (Nat.toDigits b n) := by
  induction n using Nat.strongRecOn with
  | ind n ih =>
    by_cases h : n < b
    · rw [Nat.toDigits_of_lt_base h]
      intro c hmem
      rw [List.mem_singleton.1 hmem]
      exact isPrintableChar_digitChar n
    · rw [Nat.toDigits_of_base_le hb (Nat.le_of_not_lt h)]
      refine (ih (n / b) (Nat.div_lt_self (by omega) hb)).append fun c hmem => ?_
      rw [List.mem_singleton.1 hmem]
      exact isPrintableChar_digitChar _

theorem arePrintable_hex (w n : Nat) : ArePrintable (hex w n) :=
  (arePrintable_replicate_zero _).append (arePrintable_toDigits (by decide) n)

theorem isPrintable_toString_nat (n : Nat) : IsPrintable (toString n) := by
  rw [Nat.toString_eq_ofList_toDigits]
  exact isPrintable_ofList.2 (arePrintable_toDigits (by decide) n)

theorem isPrintable_toString_int (i : Int) : IsPrintable (toString i) := by
  cases i with
  | ofNat n => exact isPrintable_toString_nat n
  | negSucc n => exact (by decide : IsPrintable "-").append (isPrintable_toString_nat (n + 1))

end Text

/-! ## Doubles -/

namespace Number

open Text

theorem arePrintable_significantDigits (d : Nat) : ArePrintable (significantDigits d) := by
  unfold significantDigits
  extract_lets ds
  split
  · decide
  · refine (arePrintable_toDigits (b := 10) (by decide) d).mono fun c hmem => ?_
    have hmem := List.mem_reverse.1 hmem
    exact List.mem_reverse.1 ((List.dropWhile_sublist _).subset hmem)

theorem isPrintable_positional {ds : List Char} (hds : ArePrintable ds) (first : Int) :
    IsPrintable (positional ds first) := by
  unfold positional
  split
  · exact (by decide : IsPrintable "0.").append
      (isPrintable_ofList.2 ((arePrintable_replicate_zero _).append hds))
  · extract_lets whole fraction
    have hwhole : ArePrintable whole := hds.mono (List.take_subset ..)
    have hfraction : IsPrintable
        (if fraction.isEmpty = true then "0" else String.ofList fraction) := by
      split
      · decide
      · exact isPrintable_ofList.2 (hds.mono (List.drop_subset ..))
    exact ((isPrintable_ofList.2 (hwhole.append (arePrintable_replicate_zero _))).append
      (by decide)).append hfraction

theorem isPrintable_scientific {ds : List Char} (n : Style) (hds : ArePrintable ds) (first : Int) :
    IsPrintable (scientific n ds first) := by
  have hfraction : IsPrintable
      (if ds.length ≤ 1 then "" else "." ++ String.ofList (ds.drop 1)) := by
    split
    · decide
    · exact (by decide : IsPrintable ".").append
        (isPrintable_ofList.2 (hds.mono (List.drop_subset ..)))
  have hsign : IsPrintable (if first < 0 then "-" else "+") := by
    split <;> decide
  have hexponent : IsPrintable (padZeros n.exponentDigits (toString first.natAbs)) :=
    (isPrintable_ofList.2 (arePrintable_replicate_zero _)).append (isPrintable_toString_nat _)
  exact ((((isPrintable_ofList.2 (hds.mono (List.take_subset ..))).append hfraction).append
    (by decide)).append hsign).append hexponent

/-- **A double is written in printable characters** if the names of numbers that are not finite
are. -/
theorem Style.isPrintable_text {n : Style} (hnan : IsPrintable n.nanText)
    (hinfinity : IsPrintable n.infinityText) (x : Float) : IsPrintable (n.text x) := by
  have hsign : ∀ negative : Bool, IsPrintable (if negative = true then "-" else "") := by decide
  unfold text
  split
  · exact hnan
  · exact (hsign _).append hinfinity
  · exact (hsign _).append (by decide)
  · rename_i negative m e _ _
    cases shortest m e with
    | mk d place =>
      refine (hsign negative).append ?_
      split
      · exact isPrintable_positional (arePrintable_significantDigits d) _
      · exact isPrintable_scientific n (arePrintable_significantDigits d) _

end Number

/-! ## Values -/

namespace Json

open Text

theorem arePrintable_unitEscape (n : Nat) : ArePrintable (unitEscape n) :=
  have hmark : ArePrintable ['\\', 'u'] := by decide
  hmark.append (arePrintable_hex 4 n)

theorem arePrintable_escapeAscii {c : Char} (hc : c.toNat < 0x80) :
    ArePrintable (escapeAscii c) := by
  unfold escapeAscii
  split_ifs
  all_goals try decide
  · exact arePrintable_unitEscape _
  · intro d hmem
    rw [List.mem_singleton.1 hmem]
    unfold IsPrintableChar
    omega

theorem arePrintable_escapePoint (n : Nat) : ArePrintable (escapePoint n) := by
  unfold escapePoint
  split_ifs with hascii hplane
  · have hchar : ∀ n < 0x80, (Char.ofNat n).toNat < 0x80 := by decide
    exact arePrintable_escapeAscii (hchar n hascii)
  · exact arePrintable_unitEscape n
  · exact (arePrintable_unitEscape _).append (arePrintable_unitEscape _)

/-- **A string is written in printable characters**: the others are escaped. -/
theorem isPrintable_stringLine (s : String) : IsPrintable (stringLine s) := by
  refine ((by decide : IsPrintable "\"").append (isPrintable_ofList.2 fun c hmem => ?_)).append
    (by decide)
  obtain ⟨n, -, hc⟩ := List.mem_flatMap.1 hmem
  exact arePrintable_escapePoint n c hc

mutual

/-- **A JSON value is written in printable characters**, and so on one line. -/
theorem isPrintable_line : ∀ j : Json, IsPrintable j.line
  | .null => by decide
  | .bool b => by cases b <;> decide
  | .int i => isPrintable_toString_int i
  | .float x => Number.Style.isPrintable_text (n := numberStyle) (by decide) (by decide) x
  | .string s => isPrintable_stringLine s
  | .array items => by
    unfold line
    exact ((by decide : IsPrintable "[").append
      (IsPrintable.intercalate (by decide) (isPrintable_itemLines items))).append (by decide)
  | .object fields => by
    unfold line
    exact ((by decide : IsPrintable "\x7b").append
      (IsPrintable.intercalate (by decide) (isPrintable_fieldLines fields))).append (by decide)

theorem isPrintable_itemLines : ∀ items : List Json, ∀ t ∈ itemLines items, IsPrintable t
  | [], t, h => nomatch h
  | j :: js, t, h => by
    unfold itemLines at h
    rcases List.mem_cons.1 h with rfl | h
    · exact isPrintable_line j
    · exact isPrintable_itemLines js t h

theorem isPrintable_fieldLines :
    ∀ fields : List (String × Json), ∀ t ∈ fieldLines fields, IsPrintable t
  | [], t, h => nomatch h
  | (name, j) :: rest, t, h => by
    unfold fieldLines at h
    rcases List.mem_cons.1 h with rfl | h
    · exact ((isPrintable_stringLine name).append (by decide)).append (isPrintable_line j)
    · exact isPrintable_fieldLines rest t h

end

end Json

end SqlScript
