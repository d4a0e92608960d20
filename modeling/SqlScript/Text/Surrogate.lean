/-!
# Code points

A text is a row of code points. Nearly all are characters, but a JSON text can name one half of a
surrogate pair without the other, and a file name can hold a byte that belongs to no character.
Such a half is kept as one of the private characters from U+10D800 on. So that a real character of
that range is not taken for a half, a mark follows it, which is a private character as well and
stands for nothing; the real mark is kept as the character after it, and marked too.

* `codePoints`, `ofCodePoints`: a text as code points, and the text of code points.
* `ofUnicode`, `toUnicode`: the text of characters that are all real, and those characters.
* `size`, `takeWhole`, `unmarked`: lengths, starts and looks that no mark counts in.
* `UnencodableRun`, `unencodable?`: the first halves that have no bytes.
* `codePoints_ofCodePoints`: no text is mistaken for another.
-/

namespace SqlScript.Text

/-- **Half of a surrogate pair**, which is no character. -/
def isSurrogate (n : Nat) : Bool := 0xd800 ≤ n && n < 0xe000

/-- What is added to a half to make it a private character. -/
def surrogateShift : Nat := 0x100000

/-- The character that stands for half of a surrogate pair. -/
def loneSurrogate (half : Nat) : Char := Char.ofNat (surrogateShift + half)

/-- The place of the mark, which makes the private character before it a real one. -/
def markPoint : Nat := 0x10e000

/-- The mark. -/
def mark : Char := Char.ofNat markPoint

/-- Whether a character is the mark. -/
def isMark (c : Char) : Bool := c.toNat == markPoint

/-- The characters that stand for a code point. -/
def ofCodePoint (n : Nat) : List Char :=
  if isSurrogate n then [loneSurrogate n]
  else if isSurrogate (n - surrogateShift) then [Char.ofNat n, mark]
  else if n = markPoint then [Char.ofNat (markPoint + 1), mark]
  else [Char.ofNat n]

/-- **The text of code points.** -/
def ofCodePoints (ns : List Nat) : List Char := ns.flatMap ofCodePoint

/-- The code point that a character without a mark stands for. -/
def pointOfPlain (c : Char) : Nat :=
  if isSurrogate (c.toNat - surrogateShift) then c.toNat - surrogateShift else c.toNat

/-- The code point that a character with a mark stands for. -/
def pointOfMarked (c : Char) : Nat := if c.toNat = markPoint + 1 then markPoint else c.toNat

/-- **The code points of a text.** -/
def codePoints : List Char → List Nat
  | [] => []
  | [c] => [pointOfPlain c]
  | c :: d :: cs =>
    if isMark d then pointOfMarked c :: codePoints cs
    else pointOfPlain c :: codePoints (d :: cs)

/-- **The text of characters**, all of which are real. -/
def ofUnicode (cs : List Char) : List Char := ofCodePoints (cs.map Char.toNat)

/-- The characters of a text, all of which are real; halves are left out. -/
def toUnicode (cs : List Char) : List Char :=
  ((codePoints cs).filter (!isSurrogate ·)).map Char.ofNat

/-- The characters of a text as they look, without marks. -/
def unmarked (cs : List Char) : List Char := cs.filter (!isMark ·)

/-- **The length of a text** in code points. -/
def size (cs : List Char) : Nat := (unmarked cs).length

/-- The first code points of a text, as many as a number says. -/
def takeWhole : Nat → List Char → List Char
  | _, [] => []
  | n, c :: cs =>
    if isMark c then c :: takeWhole n cs
    else match n with
      | 0 => []
      | n + 1 => c :: takeWhole n cs

/-- The text with three replacement characters for each half, as for three unknown bytes. -/
def replaceSurrogates (cs : List Char) : List Char :=
  ofCodePoints ((codePoints cs).flatMap fun n =>
    if isSurrogate n then List.replicate 3 0xfffd else [n])

/-! ## Bytes -/

/-- Whether a half stands for a byte of a file name that is no part of a character. -/
def isByteSurrogate (n : Nat) : Bool := 0xdc80 ≤ n && n ≤ 0xdcff

/-- How many bytes a code point has in a file name. -/
def pointBytes (n : Nat) : Nat :=
  if n < 0x80 || isByteSurrogate n then 1 else if n < 0x800 then 2 else if n < 0x10000 then 3 else 4

/-- **The length of a file name** in bytes. -/
def nameBytes (s : String) : Nat := ((codePoints s.toList).map pointBytes).foldl (· + ·) 0

/-- Halves in a row that have no bytes: the first of them, and the places of the first and the
last. -/
structure UnencodableRun where
  half : Nat
  first : Nat
  last : Nat
  deriving DecidableEq, Repr

/-- What is said about halves that have no bytes. -/
def UnencodableRun.message (r : UnencodableRun) : String :=
  let digits := String.ofList (Nat.toDigits 16 r.half)
  let place :=
    if r.first = r.last then s!"character '\\u{digits}' in position {r.first}"
    else s!"characters in position {r.first}-{r.last}"
  s!"'utf-8' codec can't encode {place}: surrogates not allowed"

/-- The first halves without bytes among code points from a place on. The halves that `hasByte`
tells of are bytes themselves, but count among the halves in a row. -/
def unencodableFrom? (hasByte : Nat → Bool) (place : Nat) : List Nat → Option UnencodableRun
  | [] => none
  | n :: ns =>
    if isSurrogate n && !hasByte n then
      some ⟨n, place, place + (ns.takeWhile isSurrogate).length⟩
    else unencodableFrom? hasByte (place + 1) ns

/-- **The first halves of a text that have no bytes.** -/
def unencodable? (hasByte : Nat → Bool) (s : String) : Option UnencodableRun :=
  unencodableFrom? hasByte 0 (codePoints s.toList)

/-! ## No text is mistaken for another -/

/-- A code point that texts can hold. -/
def IsCodePoint (n : Nat) : Prop := n < 0x110000

/-- A code point that is no half is found again in its character. -/
theorem toNat_ofNat {n : Nat} (h : IsCodePoint n) (hs : isSurrogate n = false) :
    (Char.ofNat n).toNat = n := by
  have hv : n.isValidChar := by
    simp only [isSurrogate, Bool.and_eq_false_iff, decide_eq_false_iff_not] at hs
    unfold IsCodePoint at h
    unfold Nat.isValidChar
    omega
  rw [Char.ofNat, dif_pos hv]
  rfl

theorem isMark_mark : isMark mark = true := by decide

/-- What follows a character without a mark is read on its own. -/
theorem codePoints_cons {c : Char} {cs : List Char}
    (hc : ∀ d, cs.head? = some d → isMark d = false) :
    codePoints (c :: cs) = pointOfPlain c :: codePoints cs := by
  cases cs with
  | nil => rfl
  | cons d cs => simp [codePoints, hc d rfl]

/-- A mark is read with the character before it. -/
theorem codePoints_cons_mark (c : Char) (cs : List Char) :
    codePoints (c :: mark :: cs) = pointOfMarked c :: codePoints cs := by
  simp [codePoints, isMark_mark]

/-- The character of a half is a place of a private character. -/
theorem toNat_loneSurrogate {n : Nat} (h : isSurrogate n = true) :
    (loneSurrogate n).toNat = surrogateShift + n := by
  simp only [isSurrogate, Bool.and_eq_true, decide_eq_true_eq] at h
  refine toNat_ofNat ?_ ?_
  · unfold IsCodePoint surrogateShift
    omega
  · rw [isSurrogate, Bool.and_eq_false_iff]
    exact .inr (decide_eq_false (by unfold surrogateShift; omega))

/-- A code point is read back, if no mark comes next. -/
theorem codePoints_ofCodePoint_append {n : Nat} (h : IsCodePoint n) {cs : List Char}
    (hc : ∀ c, cs.head? = some c → isMark c = false) :
    codePoints (ofCodePoint n ++ cs) = n :: codePoints cs := by
  unfold ofCodePoint
  split
  · rename_i hs
    rw [List.singleton_append, codePoints_cons hc, pointOfPlain, toNat_loneSurrogate hs]
    simp [hs]
  rename_i hs
  have hs : isSurrogate n = false := by simpa using hs
  split
  · rename_i hp
    rw [List.cons_append, List.singleton_append, codePoints_cons_mark, pointOfMarked,
      toNat_ofNat h hs, if_neg]
    intro hn
    subst hn
    exact absurd hp (by decide)
  rename_i hp
  split
  · rename_i hn
    subst hn
    rw [List.cons_append, List.singleton_append, codePoints_cons_mark]
    congr 1
  · rw [List.singleton_append, codePoints_cons hc, pointOfPlain, toNat_ofNat h hs, if_neg hp]

/-- No text begins with a mark. -/
theorem isMark_head_ofCodePoints {ns : List Nat} (h : ∀ n ∈ ns, IsCodePoint n) {c : Char}
    (hc : (ofCodePoints ns).head? = some c) : isMark c = false := by
  cases ns with
  | nil => simp [ofCodePoints] at hc
  | cons n ns =>
    have hn := h n List.mem_cons_self
    rw [ofCodePoints, List.flatMap_cons] at hc
    unfold ofCodePoint at hc
    split at hc
    · rename_i hs
      simp only [List.singleton_append, List.head?_cons, Option.some.injEq] at hc
      rw [← hc, isMark, toNat_loneSurrogate hs]
      simp only [isSurrogate, Bool.and_eq_true, decide_eq_true_eq] at hs
      simp only [surrogateShift, markPoint, beq_eq_false_iff_ne]
      omega
    rename_i hs
    have hs : isSurrogate n = false := by simpa using hs
    split at hc
    · rename_i hp
      simp only [List.cons_append, List.head?_cons, Option.some.injEq] at hc
      rw [← hc, isMark, toNat_ofNat hn hs]
      rw [isSurrogate, Bool.and_eq_true, decide_eq_true_eq, decide_eq_true_eq] at hp
      refine beq_eq_false_iff_ne.mpr ?_
      unfold markPoint
      unfold surrogateShift at hp
      omega
    split at hc
    · generalize hd : Char.ofNat (markPoint + 1) = d at hc
      simp only [List.cons_append, List.head?_cons, Option.some.injEq] at hc
      rw [← hc, ← hd]
      decide
    · rename_i hm
      simp only [List.singleton_append, List.head?_cons, Option.some.injEq] at hc
      rw [← hc, isMark, toNat_ofNat hn hs]
      exact beq_eq_false_iff_ne.mpr hm

/-- **No text is mistaken for another**: the code points of a text are those that it was made
of. -/
theorem codePoints_ofCodePoints {ns : List Nat} (h : ∀ n ∈ ns, IsCodePoint n) :
    codePoints (ofCodePoints ns) = ns := by
  induction ns with
  | nil => rfl
  | cons n ns ih =>
    have hs : ∀ m ∈ ns, IsCodePoint m := fun m hm => h m (List.mem_cons_of_mem _ hm)
    have hm : ∀ c, (ofCodePoints ns).head? = some c → isMark c = false :=
      fun c hc => isMark_head_ofCodePoints hs hc
    have hn := codePoints_ofCodePoint_append (h n List.mem_cons_self) hm
    rw [ih hs] at hn
    exact hn

end SqlScript.Text
