import Mathlib.Tactic.IntervalCases
import SqlScript.Json

/-!
# JSON texts

A grammar of JSON texts, which says what value a text is. It reads a string by its code points, each
of which stands for itself or is escaped, and it knows nothing of the printer. The line that is
printed of a value is a text of that value.

* `Json.Spells`: the code points that the inside of a string spells.
* `Json.IsText`: the values that texts are.
* `Json.isText_line`: **the line of a value is a text of it.**
-/

namespace SqlScript

/-! ## Digits -/

section Digits

theorem hexDigit?_digitChar {n : Nat} (h : n < 16) : Json.hexDigit? n.digitChar = some n := by
  interval_cases n <;> decide

/-- **Four digits** are enough below 65536. -/
theorem hex_four {n : Nat} (h : n < 0x10000) :
    Text.hex 4 n = [(n / 4096).digitChar, (n / 256 % 16).digitChar, (n / 16 % 16).digitChar,
      (n % 16).digitChar] := by
  have hzero : Nat.digitChar 0 = '0' := rfl
  have hdigits {m : Nat} (hm : 16 ≤ m) : Nat.toDigits 16 m =
      Nat.toDigits 16 (m / 16) ++ [(m % 16).digitChar] :=
    Nat.toDigits_of_base_le (by decide) hm
  have hdigit {m : Nat} (hm : m < 16) : Nat.toDigits 16 m = [m.digitChar] :=
    Nat.toDigits_of_lt_base hm
  have h16 : n / 16 / 16 = n / 256 := Nat.div_div_eq_div_mul n 16 16
  have h256 : n / 256 / 16 = n / 4096 := Nat.div_div_eq_div_mul n 256 16
  unfold Text.hex
  -- the digits of a small number are fewer, and are filled up with zeros
  by_cases hone : n < 16
  · rw [hdigit hone, Nat.div_eq_of_lt (by omega : n < 4096), Nat.div_eq_of_lt (by omega : n < 256),
      Nat.div_eq_of_lt hone, Nat.mod_eq_of_lt hone]
    rfl
  rw [hdigits (Nat.le_of_not_lt hone)]
  by_cases htwo : n < 256
  · rw [hdigit (by omega : n / 16 < 16), Nat.div_eq_of_lt (by omega : n < 4096),
      Nat.div_eq_of_lt htwo, Nat.mod_eq_of_lt (by omega : n / 16 < 16)]
    rfl
  rw [hdigits (by omega : 16 ≤ n / 16), h16]
  by_cases hthree : n < 4096
  · rw [hdigit (by omega : n / 256 < 16), Nat.div_eq_of_lt hthree,
      Nat.mod_eq_of_lt (by omega : n / 256 < 16)]
    rfl
  rw [hdigits (by omega : 16 ≤ n / 256), h256, hdigit (by omega : n / 4096 < 16)]
  rfl

end Digits

namespace Json

/-! ## Strings -/

/-- **The code points that the inside of a string spells.** Quotes, backslashes and control
characters have to be escaped, by a letter or by their number; what lies beyond the first plane is
escaped in two units. -/
inductive Spells : List Nat → List Char → Prop where
  | done : Spells [] []
  | plain {c : Char} {ns : List Nat} {cs : List Char} (visible : 0x20 ≤ c.toNat)
      (quote : c ≠ '"') (backslash : c ≠ '\\') (rest : Spells ns cs) :
      Spells (c.toNat :: ns) (c :: cs)
  | letter {e c : Char} {ns : List Nat} {cs : List Char} (escape : simpleEscape? e = some c)
      (rest : Spells ns cs) : Spells (c.toNat :: ns) ('\\' :: e :: cs)
  | unit {n : Nat} {a b c d : Char} {ns : List Nat} {cs : List Char}
      (number : unit? a b c d = some n) (rest : Spells ns cs) :
      Spells (n :: ns) ('\\' :: 'u' :: a :: b :: c :: d :: cs)
  | pair {high low : Nat} {a b c d a' b' c' d' : Char} {ns : List Nat} {cs : List Char}
      (first : unit? a b c d = some (0xd800 + high)) (isHigh : high < 0x400)
      (second : unit? a' b' c' d' = some (0xdc00 + low)) (isLow : low < 0x400)
      (rest : Spells ns cs) :
      Spells ((0x10000 + high * 0x400 + low) :: ns)
        ('\\' :: 'u' :: a :: b :: c :: d :: '\\' :: 'u' :: a' :: b' :: c' :: d' :: cs)

/-- **The text of a string**, between double quotes. -/
inductive IsString (s : String) : List Char → Prop where
  | intro {cs : List Char} (spells : Spells (Text.codePoints s.toList) cs) :
      IsString s ('"' :: cs ++ ['"'])

/-! ## Values -/

mutual

/-- **The texts of a value.** -/
inductive IsText : Json → List Char → Prop where
  | null : IsText .null "null".toList
  | isTrue : IsText (.bool true) "true".toList
  | isFalse : IsText (.bool false) "false".toList
  | int (i : Int) : IsText (.int i) (toString i).toList
  | float (x : Float) : IsText (.float x) (numberStyle.text x).toList
  | string {s : String} {cs : List Char} (text : IsString s cs) : IsText (.string s) cs
  | array {items : List Json} {cs : List Char} (inside : AreItems items cs) :
      IsText (.array items) ('[' :: cs ++ [']'])
  | object {fields : List (String × Json)} {cs : List Char} (inside : AreFields fields cs) :
      IsText (.object fields) ('\x7b' :: cs ++ ['\x7d'])

/-- The texts of items, with commas between them. -/
inductive AreItems : List Json → List Char → Prop where
  | none : AreItems [] []
  | last {j : Json} {cs : List Char} (item : IsText j cs) : AreItems [j] cs
  | more {j : Json} {js : List Json} {cs ds : List Char} (item : IsText j cs) (some : js ≠ [])
      (rest : AreItems js ds) : AreItems (j :: js) (cs ++ ',' :: ' ' :: ds)

/-- The texts of fields, with commas between them: each is a name, a colon and a value. -/
inductive AreFields : List (String × Json) → List Char → Prop where
  | none : AreFields [] []
  | last {name : String} {j : Json} {ns cs : List Char} (key : IsString name ns)
      (value : IsText j cs) : AreFields [(name, j)] (ns ++ ':' :: ' ' :: cs)
  | more {name : String} {j : Json} {fields : List (String × Json)} {ns cs ds : List Char}
      (key : IsString name ns) (value : IsText j cs) (some : fields ≠ [])
      (rest : AreFields fields ds) :
      AreFields ((name, j) :: fields) (ns ++ ':' :: ' ' :: (cs ++ ',' :: ' ' :: ds))

end

/-- The text of an object begins with a brace. -/
theorem IsText.head?_object {fields : List (String × Json)} {cs : List Char}
    (h : IsText (.object fields) cs) : cs.head? = some '\x7b' := by
  cases h
  rfl

/-! ## The printer -/

/-- The digits of a unit are those of its number. -/
theorem exists_hex_four {n : Nat} (h : n < 0x10000) :
    ∃ a b c d, Text.hex 4 n = [a, b, c, d] ∧ unit? a b c d = some n := by
  refine ⟨_, _, _, _, hex_four h, ?_⟩
  simp only [unit?, hexDigit?_digitChar (by omega : n / 4096 < 16),
    hexDigit?_digitChar (Nat.mod_lt _ (by decide) : n / 256 % 16 < 16),
    hexDigit?_digitChar (Nat.mod_lt _ (by decide) : n / 16 % 16 < 16),
    hexDigit?_digitChar (Nat.mod_lt _ (by decide) : n % 16 < 16), Option.bind_eq_bind,
    Option.bind_some, Option.pure_def, Option.some.injEq]
  omega

section

variable {ns : List Nat} {cs : List Char} (rest : Spells ns cs)

include rest

theorem spells_unitEscape {n : Nat} (h : n < 0x10000) :
    Spells (n :: ns) (unitEscape n ++ cs) := by
  obtain ⟨a, b, c, d, hhex, hunit⟩ := exists_hex_four h
  rw [unitEscape, hhex]
  exact .unit hunit rest

theorem spells_escapeAscii {c : Char} (h : c.toNat < 0x80) :
    Spells (c.toNat :: ns) (escapeAscii c ++ cs) := by
  unfold escapeAscii
  split_ifs with hquote hbackslash hnewline hreturn htab hback hfeed hcontrol
  · exact hquote ▸ .letter (e := '"') rfl rest
  · exact hbackslash ▸ .letter (e := '\\') rfl rest
  · exact hnewline ▸ .letter (e := 'n') rfl rest
  · exact hreturn ▸ .letter (e := 'r') rfl rest
  · exact htab ▸ .letter (e := 't') rfl rest
  · exact hback ▸ .letter (e := 'b') (c := Char.ofNat 8) rfl rest
  · exact hfeed ▸ .letter (e := 'f') (c := Char.ofNat 12) rfl rest
  · exact spells_unitEscape rest (by omega)
  · exact .plain (by omega) hquote hbackslash rest

/-- **Each code point is spelled** by what is printed of it. -/
theorem spells_escapePoint {n : Nat} (h : n < 0x110000) :
    Spells (n :: ns) (escapePoint n ++ cs) := by
  unfold escapePoint
  split_ifs with hascii hplane
  · have hchar : (Char.ofNat n).toNat = n := by
      have hall : ∀ n < 0x80, (Char.ofNat n).toNat = n := by decide
      exact hall n hascii
    have hspells := spells_escapeAscii rest (c := Char.ofNat n) (by omega)
    rwa [hchar] at hspells
  · exact spells_unitEscape rest hplane
  · have hhigh : (n - 0x10000) / 0x400 < 0x400 := by omega
    have hlow : (n - 0x10000) % 0x400 < 0x400 := Nat.mod_lt _ (by decide)
    obtain ⟨a, b, c, d, hfirst, hunit⟩ :=
      exists_hex_four (by omega : 0xd800 + (n - 0x10000) / 0x400 < 0x10000)
    obtain ⟨a', b', c', d', hsecond, hunit'⟩ :=
      exists_hex_four (by omega : 0xdc00 + (n - 0x10000) % 0x400 < 0x10000)
    have hn : n = 0x10000 + (n - 0x10000) / 0x400 * 0x400 + (n - 0x10000) % 0x400 := by omega
    have hspells := Spells.pair hunit hhigh hunit' hlow rest
    rw [← hn] at hspells
    rw [unitEscape, unitEscape, hfirst, hsecond]
    exact hspells

end

/-- Code points are below the end of the last plane. -/
theorem lt_of_mem_codePoints {cs : List Char} {n : Nat} (h : n ∈ Text.codePoints cs) :
    n < 0x110000 := by
  have hchar (c : Char) : c.toNat < 0x110000 := by
    rcases c.valid with h | h
    · exact Nat.lt_trans h (by decide)
    · exact h.2
  have hplain (c : Char) : Text.pointOfPlain c < 0x110000 := by
    unfold Text.pointOfPlain
    split
    · exact Nat.lt_of_le_of_lt (Nat.sub_le ..) (hchar c)
    · exact hchar c
  have hmarked (c : Char) : Text.pointOfMarked c < 0x110000 := by
    unfold Text.pointOfMarked
    split
    · decide
    · exact hchar c
  fun_induction Text.codePoints cs with
  | case1 => cases h
  | case2 c => exact List.mem_singleton.1 h ▸ hplain c
  | case3 c d cs _ ih => exact (List.mem_cons.1 h).elim (fun h => h ▸ hmarked c) ih
  | case4 c d cs _ ih => exact (List.mem_cons.1 h).elim (fun h => h ▸ hplain c) ih

/-- **A string is printed as a text of it.** -/
theorem isString_stringLine (s : String) : IsString s (stringLine s).toList := by
  have hspells (ns : List Nat) (h : ∀ n ∈ ns, n < 0x110000) :
      Spells ns (ns.flatMap escapePoint) := by
    induction ns with
    | nil => exact .done
    | cons n ns ih =>
      rw [List.forall_mem_cons] at h
      exact spells_escapePoint (ih h.2) h.1
  have htext : (stringLine s).toList =
      '"' :: (Text.codePoints s.toList).flatMap escapePoint ++ ['"'] := by
    simp [stringLine]
  rw [htext]
  exact .intro (hspells _ fun _ => lt_of_mem_codePoints)

mutual

/-- **The line of a value is a text of it.** -/
theorem isText_line : ∀ j : Json, IsText j j.line.toList
  | .null => .null
  | .bool true => .isTrue
  | .bool false => .isFalse
  | .int i => .int i
  | .float x => .float x
  | .string s => .string (isString_stringLine s)
  | .array items => by
    simp only [line, String.toList_append]
    exact .array (areItems_itemLines items)
  | .object fields => by
    simp only [line, String.toList_append]
    exact .object (areFields_fieldLines fields)

theorem areItems_itemLines :
    ∀ items : List Json, AreItems items (", ".intercalate (itemLines items)).toList
  | [] => .none
  | [j] => by
    simpa [itemLines] using AreItems.last (isText_line j)
  | j :: k :: js => by
    have hrest := areItems_itemLines (k :: js)
    rw [itemLines, itemLines, String.intercalate_cons_cons, ← itemLines, String.toList_append,
      String.toList_append, List.append_assoc]
    exact .more (isText_line j) (List.cons_ne_nil _ _) hrest

theorem areFields_fieldLines :
    ∀ fields : List (String × Json), AreFields fields (", ".intercalate (fieldLines fields)).toList
  | [] => .none
  | [(name, j)] => by
    simpa [fieldLines] using AreFields.last (isString_stringLine name) (isText_line j)
  | (name, j) :: field :: fields => by
    have hrest := areFields_fieldLines (field :: fields)
    have hmore := AreFields.more (isString_stringLine name) (isText_line j)
      (List.cons_ne_nil _ _) hrest
    obtain ⟨name', k⟩ := field
    rw [fieldLines] at hmore ⊢
    rw [fieldLines, String.intercalate_cons_cons]
    simpa using hmore

end

end Json

end SqlScript
