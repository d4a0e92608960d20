import SqlScript.Number.Reader

/-!
# Numerals

How numbers are written in a literal: whole numbers in four bases, numbers with a point or an
exponent, and imaginary numbers. Single underscores may stand between digits. Each reader leaves
what follows the numeral, or says what is wrong with it.

* `afterNumeral`: what follows a numeral.
* `Numeral`, `Numeral.ofText`: the number that a numeral stands for.
* `afterNumeral_suffix`: a numeral is the start of its text.
-/

namespace SqlScript.Literal

/-- A character of a name, as far as that is seen at once. -/
def isNameLike (c : Char) : Bool := c.isAlphanum || c == '_' || 0x80 ≤ c.toNat

/-- What is said about a numeral of a kind. -/
def badNumeral (kind : String) : String := s!"invalid {kind} literal"

/-- What is said about a digit of a higher base. -/
def badDigit (kind : String) (c : Char) : String := s!"invalid digit '{c}' in {kind} literal"

/-! ## Where a numeral ends -/

/-- The words that may follow a number without a blank. -/
def wordsAfterNumerals : List String := ["and", "else", "for", "or", "not"]

/-- The words of two letters that may follow a number, whatever comes next. -/
def pairsAfterNumerals : List String := ["if", "in", "is"]

/-- Whether a text goes on with a word that may follow a number. -/
def wordFollows (cs : List Char) : Bool :=
  pairsAfterNumerals.any (·.toList.isPrefixOf cs) || wordsAfterNumerals.any fun w =>
    w.toList.isPrefixOf cs && !(cs.drop w.length).head?.any isNameLike

/-- The end of a numeral, which no ASCII character of a name follows, unless that begins one of the
words. -/
def numeralEnd (kind : String) (cs : List Char) : Except String (List Char) :=
  let inWord := cs.head?.any fun c => c.isAlphanum || c == '_'
  if inWord && !wordFollows cs then .error (badNumeral kind) else .ok cs

/-- Leaves out decimal digits. -/
def afterDigits (cs : List Char) : Except String (List Char) :=
  match _h : cs.dropWhile Char.isDigit with
  | '_' :: rest =>
    if rest.head?.any Char.isDigit then afterDigits rest else .error (badNumeral "decimal")
  | rest => .ok rest
  termination_by cs.length
  decreasing_by
    have := (List.dropWhile_suffix Char.isDigit (l := cs)).length_le
    rw [_h, List.length_cons] at this
    omega

/-- Leaves out the letter of an imaginary number. -/
def afterUnit : List Char → Except String (List Char)
  | 'j' :: cs | 'J' :: cs => numeralEnd "imaginary" cs
  | cs => numeralEnd "decimal" cs

/-- Leaves out an exponent. A letter without digits is none, and can begin a word. -/
def afterExponent (cs : List Char) : Except String (List Char) := do
  match cs with
  | [] => afterUnit cs
  | e :: rest =>
    if e != 'e' && e != 'E' then afterUnit cs
    else
      let digits := match rest with
        | '+' :: digits | '-' :: digits => digits
        | digits => digits
      if digits.head?.any Char.isDigit then afterUnit (← afterDigits digits)
      else if digits.length < rest.length then throw (badNumeral "decimal")
      else numeralEnd "decimal" cs

/-- Leaves out what stands behind a point. -/
def afterPoint (cs : List Char) : Except String (List Char) := do
  if cs.head?.any Char.isDigit then afterExponent (← afterDigits cs) else afterExponent cs

/-- Leaves out what can follow the digits of a decimal number. -/
def afterWholePart : List Char → Except String (List Char)
  | '.' :: cs => afterPoint cs
  | cs => afterExponent cs

/-- What is said about a text that should go on with a digit of a base. -/
def badBaseDigit (kind : String) (cs : List Char) : String :=
  match cs.head? with
  | some c => if c.isDigit then badDigit kind c else badNumeral kind
  | none => badNumeral kind

/-- Leaves out the digits of a base, with an underscore in front of them if there is one. -/
def afterBaseDigits (isBaseDigit : Char → Bool) (kind : String) (cs : List Char) :
    Except String (List Char) :=
  match _hd : if cs.head? = some '_' then cs.tail else cs with
  | [] => .error (badBaseDigit kind [])
  | d :: ds =>
    if !isBaseDigit d then .error (badBaseDigit kind (d :: ds))
    else
      match _hr : ds.dropWhile isBaseDigit with
      | '_' :: rest => afterBaseDigits isBaseDigit kind ('_' :: rest)
      | rest =>
        if rest.head?.any Char.isDigit then .error (badBaseDigit kind rest)
        else numeralEnd kind rest
  termination_by cs.length
  decreasing_by
    have hd : (d :: ds).length ≤ cs.length := by
      rw [← _hd]
      split <;> simp
    have hr := (List.dropWhile_suffix isBaseDigit (l := ds)).length_le
    rw [_hr] at hr
    simp only [List.length_cons] at hd hr ⊢
    omega

/-- Leaves out zeros, and the underscores between them. -/
def afterZeros : List Char → Except String (List Char)
  | '0' :: cs => afterZeros cs
  | '_' :: cs => if cs.head?.any Char.isDigit then afterZeros cs else .error (badNumeral "decimal")
  | cs => .ok cs

/-- Leaves out a decimal number behind its first zero. Other digits may only follow if the number
is not a whole one. -/
def afterZero (cs : List Char) : Except String (List Char) := do
  let rest ← afterZeros cs
  if rest.head?.any Char.isDigit then
    let rest ← afterDigits rest
    if rest.head?.any (".eEjJ".toList.contains ·) then afterWholePart rest
    else
      throw <| "leading zeros in decimal integer literals are not permitted; "
        ++ "use an 0o prefix for octal integers"
  else afterWholePart rest

/-- A digit of hexadecimal numbers. -/
def isHexDigit (c : Char) : Bool := c.isDigit || ('a' ≤ c && c ≤ 'f') || ('A' ≤ c && c ≤ 'F')

/-- A digit of octal numbers. -/
def isOctalDigit (c : Char) : Bool := '0' ≤ c && c ≤ '7'

/-- A digit of binary numbers. -/
def isBinaryDigit (c : Char) : Bool := c == '0' || c == '1'

/-- **What follows a numeral**, which begins with a digit or with a point and a digit. -/
def afterNumeral : List Char → Except String (List Char)
  | '.' :: cs => afterPoint cs
  | '0' :: 'x' :: cs | '0' :: 'X' :: cs => afterBaseDigits isHexDigit "hexadecimal" cs
  | '0' :: 'o' :: cs | '0' :: 'O' :: cs => afterBaseDigits isOctalDigit "octal" cs
  | '0' :: 'b' :: cs | '0' :: 'B' :: cs => afterBaseDigits isBinaryDigit "binary" cs
  | '0' :: cs => afterZero cs
  | cs => do afterWholePart (← afterDigits cs)

/-! ## The number of a numeral -/

/-- **The number that a numeral stands for**, as far as it matters. -/
inductive Numeral where
  | whole (n : Nat)
  | real
  | imaginary
  deriving DecidableEq, Repr

/-- The value of the digits of a base. -/
def baseValue (base : Nat) (ds : List Char) : Nat :=
  ds.foldl (fun n c => base * n + if c.isDigit then c.toNat - 48 else c.toNat % 32 + 9) 0

/-- How many digits a whole decimal number can have. -/
def maxNumeralDigits : Nat := 4300

/-- What is said about a whole number with too many digits. -/
def tooManyDigits (count : Nat) : String :=
  s!"Exceeds the limit ({maxNumeralDigits} digits) for integer string conversion: "
    ++ s!"value has {count} digits; use sys.set_int_max_str_digits() to increase the limit"
    ++ " - Consider hexadecimal for huge integer literals to avoid decimal conversion limits."

/-- The number of a decimal numeral without underscores. -/
def Numeral.ofDecimal (ds : List Char) : Except String Numeral :=
  if ds.any ("jJ".toList.contains ·) then .ok .imaginary
  else if ds.any (".eE".toList.contains ·) then .ok .real
  else if maxNumeralDigits < ds.length && ds.head? != some '0' then .error (tooManyDigits ds.length)
  else .ok (.whole (Number.asciiValue ds))

/-- **The number of a numeral.** -/
def Numeral.ofText (text : List Char) : Except String Numeral :=
  match text.filter (· != '_') with
  | '0' :: 'x' :: ds | '0' :: 'X' :: ds => .ok (.whole (baseValue 16 ds))
  | '0' :: 'o' :: ds | '0' :: 'O' :: ds => .ok (.whole (baseValue 8 ds))
  | '0' :: 'b' :: ds | '0' :: 'B' :: ds => .ok (.whole (baseValue 2 ds))
  | ds => Numeral.ofDecimal ds

/-! ## Numerals are starts of texts -/

/-- The end of a numeral leaves out nothing. -/
theorem eq_of_numeralEnd {kind : String} {cs rest : List Char}
    (h : numeralEnd kind cs = .ok rest) : rest = cs := by
  simp only [numeralEnd] at h
  split at h
  · cases h
  · exact (Except.ok.inj h).symm

/-- What follows digits is the end of the text, and so with all the readers. -/
theorem afterDigits_suffix {cs rest : List Char} (h : afterDigits cs = .ok rest) :
    rest <:+ cs := by
  fun_induction afterDigits cs with
  | case1 cs more heq hd ih =>
    refine (ih h).trans ?_
    have := List.dropWhile_suffix Char.isDigit (l := cs)
    rw [heq] at this
    exact (List.suffix_cons _ _).trans this
  | case2 => cases h
  | case3 cs =>
    obtain rfl := Except.ok.inj h
    exact List.dropWhile_suffix _

theorem afterUnit_suffix {cs rest : List Char} (h : afterUnit cs = .ok rest) : rest <:+ cs := by
  unfold afterUnit at h
  split at h <;> obtain rfl := eq_of_numeralEnd h
  · exact List.suffix_cons _ _
  · exact List.suffix_cons _ _
  · exact List.suffix_refl _

/-- What goes well in two steps goes well in each. -/
theorem ok_of_bind {m : Except String α} {f : α → Except String β} {b : β}
    (h : (m >>= f) = .ok b) : ∃ a, m = .ok a ∧ f a = .ok b := by
  cases m with
  | error => cases h
  | ok a => exact ⟨a, rfl, h⟩

theorem afterExponent_suffix {cs rest : List Char} (h : afterExponent cs = .ok rest) :
    rest <:+ cs := by
  unfold afterExponent at h
  split at h
  · exact afterUnit_suffix h
  split at h
  · exact afterUnit_suffix h
  rename_i e more _
  have hs : ∀ digits : List Char, digits <:+ more →
      (if digits.head?.any Char.isDigit then afterDigits digits >>= afterUnit
        else if digits.length < more.length then throw (badNumeral "decimal")
        else numeralEnd "decimal" (e :: more)) = .ok rest → rest <:+ e :: more := by
    intro digits hd h
    split at h
    · obtain ⟨after, ha, hu⟩ := ok_of_bind h
      exact ((afterUnit_suffix hu).trans (afterDigits_suffix ha)).trans
        (hd.trans (List.suffix_cons _ _))
    split at h
    · cases h
    · obtain rfl := eq_of_numeralEnd h
      exact List.suffix_refl _
  split at h
  · exact hs _ (List.suffix_cons _ _) h
  · exact hs _ (List.suffix_cons _ _) h
  · exact hs _ (List.suffix_refl _) h

theorem afterPoint_suffix {cs rest : List Char} (h : afterPoint cs = .ok rest) : rest <:+ cs := by
  unfold afterPoint at h
  split at h
  · obtain ⟨after, ha, h⟩ := ok_of_bind h
    exact (afterExponent_suffix h).trans (afterDigits_suffix ha)
  · exact afterExponent_suffix h

theorem afterWholePart_suffix {cs rest : List Char} (h : afterWholePart cs = .ok rest) :
    rest <:+ cs := by
  unfold afterWholePart at h
  split at h
  · exact (afterPoint_suffix h).trans (List.suffix_cons _ _)
  · exact afterExponent_suffix h

theorem afterZeros_suffix {cs rest : List Char} (h : afterZeros cs = .ok rest) : rest <:+ cs := by
  fun_induction afterZeros cs with
  | case1 cs ih => exact (ih h).trans (List.suffix_cons _ _)
  | case2 cs _ ih => exact (ih h).trans (List.suffix_cons _ _)
  | case3 => cases h
  | case4 =>
    obtain rfl := Except.ok.inj h
    exact List.suffix_refl _

theorem afterZero_suffix {cs rest : List Char} (h : afterZero cs = .ok rest) : rest <:+ cs := by
  unfold afterZero at h
  obtain ⟨zeros, hz, h⟩ := ok_of_bind h
  refine List.IsSuffix.trans ?_ (afterZeros_suffix hz)
  split at h
  · obtain ⟨digits, hd, h⟩ := ok_of_bind h
    split at h
    · exact (afterWholePart_suffix h).trans (afterDigits_suffix hd)
    · cases h
  · exact afterWholePart_suffix h

theorem afterBaseDigits_suffix {isBaseDigit : Char → Bool} {kind : String} {cs rest : List Char}
    (h : afterBaseDigits isBaseDigit kind cs = .ok rest) : rest <:+ cs := by
  have start (cs : List Char) : (if cs.head? = some '_' then cs.tail else cs) <:+ cs := by
    split
    · exact List.tail_suffix cs
    · exact List.suffix_refl _
  fun_induction afterBaseDigits isBaseDigit kind cs with
  | case1 => cases h
  | case2 => cases h
  | case3 cs d ds hd _ more hr ih =>
    refine (ih h).trans ?_
    have hs := List.dropWhile_suffix isBaseDigit (l := ds)
    rw [hr] at hs
    exact (hs.trans (List.suffix_cons d ds)).trans (hd ▸ start cs)
  | case4 => cases h
  | case5 cs d ds hd =>
    obtain rfl := eq_of_numeralEnd h
    exact ((List.dropWhile_suffix isBaseDigit).trans (List.suffix_cons d ds)).trans
      (hd ▸ start cs)

/-- **A numeral is the start of its text.** -/
theorem afterNumeral_suffix {cs rest : List Char} (h : afterNumeral cs = .ok rest) :
    rest <:+ cs := by
  unfold afterNumeral at h
  split at h
  · exact (afterPoint_suffix h).trans (List.suffix_cons _ _)
  iterate 6
    exact (afterBaseDigits_suffix h).trans ((List.suffix_cons _ _).trans (List.suffix_cons _ _))
  · exact (afterZero_suffix h).trans (List.suffix_cons _ _)
  · obtain ⟨digits, hd, h⟩ := ok_of_bind h
    exact (afterWholePart_suffix h).trans (afterDigits_suffix hd)

end SqlScript.Literal
