import SqlScript.Proofs.Rereading

/-!
# What a comment's opener takes back

A comment opens with two characters, and the splitter finds out at the second one. The first one was
collected by then, and is taken back out of the buffer. The reader remembers which character came
before, the buffer which one was collected last, and the two follow rules of their own; but where a
comment opens they agree.

* `Region.opening?`: the two characters that open a comment.
* `Splitter.step_of_lookback`: a reader looks back at a slash or a dash outside every region only if
  that was the last character collected.
* `Splitter.step?`, `Splitter.foldlM_step?`: the splitter that checks what it takes back never
  fails.
* `Splitter.opener_takenBack`: **what is taken back is the opener.**
-/

namespace SqlScript

/-- **The two characters that open a comment**, by its region. -/
def Region.opening? : Region → Option (Char × Char)
  | .blockComment => some ('/', '*')
  | .lineComment => some ('-', '-')
  | _ => none

/-- A comment opens behind its first character with its second one. -/
theorem Lexer.advance_of_opens {s : Lexer} {c : Char} (hr : s.region = .normal)
    (h : (s.advance c).region.isComment = true) :
    ∃ r first, r.opening? = some (first, c) ∧ s.previous = some first ∧ s.advance c = enter r := by
  by_cases hblock : c = '*' ∧ s.previous = some '/'
  · refine ⟨.blockComment, '/', by rw [hblock.1]; rfl, hblock.2, ?_⟩
    simp only [advance, hr, hblock, and_self, if_true]
  · by_cases hline : c = '-' ∧ s.previous = some '-'
    · refine ⟨.lineComment, '-', by rw [hline.1]; rfl, hline.2, ?_⟩
      simp only [advance, hr]
      rw [if_neg hblock, if_pos hline]
    · rw [advance_of_normal hr hblock hline, Region.ofQuote?_ne_comment] at h
      cases h

namespace Splitter

/-! ## The lookback and the buffer -/

/-- **A lookback at a slash or a dash**, outside every region, is one at the last character, which
was collected outside every region. -/
theorem step_of_lookback {s : Splitter} {c first : Char} (hfirst : first = '/' ∨ first = '-')
    (hr : (s.step c).lexer.region = .normal) (hp : (s.step c).lexer.previous = some first) :
    c = first ∧ s.lexer.region = .normal ∧
      s.step c = { s with lexer := ⟨.normal, some first⟩, buffer := first :: s.buffer } := by
  have hquote : Region.ofQuote? first = none := by rcases hfirst with rfl | rfl <;> decide
  generalize hs' : s.step c = s' at hr hp
  have hstep : Step s c s' := hs' ▸ step_spec s c
  cases hstep with
  | opens | closes => cases hp
  | ends =>
    obtain rfl := Option.some.inj hp
    exact absurd hfirst (by decide)
  | separates _ hsep =>
    obtain rfl := Option.some.inj hp
    exact absurd hsep (by rcases hfirst with rfl | rfl <;> decide)
  | keeps hnormal =>
    obtain rfl := Option.some.inj hp
    exact ⟨rfl, hnormal, by rw [hquote]; rfl⟩
  | quotes hq =>
    -- behind quotes the lookback is at the closing one
    rw [Lexer.advance_of_isQuoted hq] at hp hr
    obtain rfl := Option.some.inj hp
    rw [hquote, if_neg (nomatch ·)] at hr
    rw [hr] at hq
    cases hq
  | skips _ hcomment =>
    rw [hr] at hcomment
    cases hcomment

/-- Where a comment opens in a text, its first character was read just before, outside every region,
and is the last one collected. -/
theorem exists_first {cs : List Char} {first : Char} (hfirst : first = '/' ∨ first = '-')
    (hr : (scan {} cs).lexer.region = .normal) (hp : (scan {} cs).lexer.previous = some first) :
    ∃ earlier, cs = earlier ++ [first] ∧ (scan {} earlier).lexer.region = .normal ∧
      scan {} cs = { scan {} earlier with
        lexer := ⟨.normal, some first⟩
        buffer := first :: (scan {} earlier).buffer } := by
  obtain rfl | ⟨earlier, c, rfl⟩ := cs.eq_nil_or_concat
  · cases hp
  · rw [List.concat_eq_append, scan_append] at hr hp ⊢
    obtain ⟨rfl, hnormal, hstep⟩ := step_of_lookback hfirst hr hp
    exact ⟨earlier, rfl, hnormal, hstep⟩

theorem first_of_opening? {r : Region} {first second : Char}
    (h : r.opening? = some (first, second)) : first = '/' ∨ first = '-' := by
  cases r with
  | blockComment | lineComment =>
    obtain ⟨rfl, -⟩ := Prod.mk.inj (Option.some.inj h)
    decide
  | normal | doubleQuote | singleQuote => cases h

/-- The step that opens a comment leaves everything but the reader as it was in front of the
opener. -/
theorem step_of_opens {s : Splitter} {c : Char} (hr : s.lexer.region = .normal)
    (h : (s.step c).lexer.region.isComment = true) :
    s.step c = { s with lexer := s.lexer.advance c, buffer := s.buffer.tail } := by
  rw [lexer_step] at h
  simp only [step, hr, h, if_true]

/-! ## Taking back -/

/-- **A step that checks what it takes back**: where a comment opens there has to be something in
the buffer, and that has to be the opener's first character. -/
def step? (s : Splitter) (c : Char) : Option Splitter :=
  if s.lexer.region = .normal ∧ (s.lexer.advance c).region.isComment = true then
    match s.buffer, (s.lexer.advance c).region.opening? with
    | last :: _, some (first, _) => if last = first then some (s.step c) else none
    | _, _ => none
  else some (s.step c)

/-- A faithful splitter takes back what it should. -/
theorem IsFaithful.step?_eq {s : Splitter} (h : s.IsFaithful) (c : Char) :
    s.step? c = some (s.step c) := by
  unfold step?
  split
  · rename_i hopens
    obtain ⟨r, first, hopening, hp, hnext⟩ := Lexer.advance_of_opens hopens.1 hopens.2
    obtain ⟨buffer, hbuffer⟩ := List.head?_eq_some_iff.1
      ((h.opener hopens.1 first (first_of_opening? hopening)).2 hp)
    have hregion : (s.lexer.advance c).region = r := by rw [hnext]; rfl
    simp only [hbuffer, hregion, hopening, if_true]
  · rfl

/-- **Nothing is ever taken back that is not there**: through any text, the splitter that checks
does what the splitter does. -/
theorem foldlM_step? {s : Splitter} (h : s.IsFaithful) (cs : List Char) :
    cs.foldlM step? s = some (s.scan cs) := by
  induction cs generalizing s with
  | nil => rfl
  | cons c cs ih =>
    rw [List.foldlM_cons, h.step?_eq, scan_cons]
    exact ih (isFaithful_step h c)

/-- **What is taken back is the opener.** A splitter that checks what it takes back gets through
every text. Wherever in it a comment opens, the character read just before is the first one of the
opener. It was read outside every region and is the last one in the buffer; and without it the
buffer and the statements are what they were in front of it. -/
theorem opener_takenBack (text : String) :
    text.toList.foldlM step? {} = some (scan {} text.toList) ∧
      ∀ before c after, text.toList = before ++ c :: after →
        (scan {} before).lexer.region = .normal →
        ((scan {} before).step c).lexer.region.isComment = true →
        ∃ earlier first r, before = earlier ++ [first] ∧ r.opening? = some (first, c) ∧
          (scan {} earlier).lexer.region = .normal ∧
          (scan {} before).buffer = first :: (scan {} earlier).buffer ∧
          (scan {} before).step c = { scan {} earlier with lexer := .enter r } := by
  refine ⟨foldlM_step? isFaithful_new text.toList, fun before c after _ hr hcomment => ?_⟩
  have hopens := hcomment
  rw [lexer_step] at hopens
  obtain ⟨r, first, hopening, hp, hnext⟩ := Lexer.advance_of_opens hr hopens
  obtain ⟨earlier, hbefore, hnormal, hscan⟩ := exists_first (first_of_opening? hopening) hr hp
  refine ⟨earlier, first, r, hbefore, hopening, hnormal, by rw [hscan], ?_⟩
  rw [step_of_opens hr hcomment, hnext, hscan]
  rfl

/-- Behind a dash that a comment separates from the opener's, and behind a quoted one. -/
theorem opener_takenBack_dashes :
    "'-'-/**/--".toList = "'-'-/**/-".toList ++ '-' :: [] ∧
      (scan {} "'-'-/**/-".toList).lexer.region = .normal ∧
      ((scan {} "'-'-/**/-".toList).step '-').lexer.region.isComment = true ∧
      ∃ earlier first r, "'-'-/**/-".toList = earlier ++ [first] ∧
        r.opening? = some (first, '-') ∧ (scan {} earlier).lexer.region = .normal ∧
        (scan {} "'-'-/**/-".toList).buffer = first :: (scan {} earlier).buffer ∧
        (scan {} "'-'-/**/-".toList).step '-' = { scan {} earlier with lexer := .enter r } := by
  have htext : "'-'-/**/--".toList = "'-'-/**/-".toList ++ '-' :: [] := by decide +kernel
  have hr : (scan {} "'-'-/**/-".toList).lexer.region = .normal := by decide +kernel
  have hcomment : ((scan {} "'-'-/**/-".toList).step '-').lexer.region.isComment = true := by
    decide +kernel
  exact ⟨htext, hr, hcomment, (opener_takenBack "'-'-/**/--").2 _ _ _ htext hr hcomment⟩

end Splitter

end SqlScript
