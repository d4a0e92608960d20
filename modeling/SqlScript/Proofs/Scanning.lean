import SqlScript.Splitter

/-!
# The splitter as a scanner

The splitter decides with one character of lookback and takes the first character of a comment's
opener back out of what it collected. A plain scanner looks ahead instead: it stands outside every
region, sees what begins there, and goes on behind it. Both give the same statements.

* `Scan.afterBlock`, `Scan.afterLine`, `Scan.throughQuote`: what lies behind a comment, and a
  quoted text with what lies behind it.
* `Scan.statementsFrom`, `Scan.statements`: the scanner.
* `statements_scan`: from outside every region on, the splitter does what the scanner does, as long
  as no comment opener lies across the place where it stands.
* `split_eq_scan`: **the splitter is the scanner.**
-/

namespace SqlScript

namespace Scan

/-! ## The scanner -/

/-- The text behind the first `*/`, if there is one. -/
def afterBlock : List Char → Option (List Char)
  | [] => none
  | '*' :: '/' :: cs => some cs
  | _ :: cs => afterBlock cs

/-- The text behind the first newline, if there is one. -/
def afterLine : List Char → Option (List Char)
  | [] => none
  | c :: cs => if c = '\n' then some cs else afterLine cs

/-- A text through the first `quote`, and the text behind that; without a `quote`, all of it. -/
def throughQuote (quote : Char) : List Char → List Char × List Char
  | [] => ([], [])
  | c :: cs =>
    if c = quote then ([c], cs)
    else (c :: (throughQuote quote cs).1, (throughQuote quote cs).2)

/-- The collected text with a separator: a space, unless it is empty or ends in a blank. -/
def separate (buffer : List Char) : List Char :=
  match buffer.getLast? with
  | none => buffer
  | some c => if Text.isBlank c then buffer else buffer ++ [' ']

/-- The statement that was collected, if it is more than blanks. -/
def emit (buffer : List Char) : List (List Char) :=
  if Text.trim buffer = [] then [] else [Text.trim buffer]

theorem length_afterBlock {cs rest : List Char} (h : afterBlock cs = some rest) :
    rest.length < cs.length := by
  induction cs using afterBlock.induct with
  | case1 => simp [afterBlock] at h
  | case2 cs =>
    simp only [afterBlock, Option.some.injEq] at h
    subst h
    rw [List.length_cons, List.length_cons]
    omega
  | case3 c cs hc ih =>
    rw [afterBlock] at h
    · have := ih h; simp only [List.length_cons]; omega
    · exact hc

theorem length_afterLine {cs rest : List Char} (h : afterLine cs = some rest) :
    rest.length < cs.length := by
  induction cs with
  | nil => simp [afterLine] at h
  | cons c cs ih =>
    rw [afterLine] at h
    split at h
    · simp only [Option.some.injEq] at h; subst h; simp
    · have := ih h; simp only [List.length_cons]; omega

theorem length_throughQuote (quote : Char) (cs : List Char) :
    (throughQuote quote cs).2.length ≤ cs.length := by
  induction cs with
  | nil => simp [throughQuote]
  | cons c cs ih =>
    rw [throughQuote]
    split
    · simp
    · simp only [List.length_cons]; omega

/-- **The scanner**, outside every region, after it collected `buffer`. A comment is dropped for a
separator, a quoted text is kept, a semicolon ends a statement. A region without an end reaches to
the end of the text. -/
def statementsFrom (buffer : List Char) : List Char → List (List Char)
  | [] => emit buffer
  | '/' :: '*' :: cs =>
    match h : afterBlock cs with
    | none => emit buffer
    | some rest =>
      have := length_afterBlock h
      statementsFrom (separate buffer) rest
  | '-' :: '-' :: cs =>
    match h : afterLine cs with
    | none => emit buffer
    | some rest =>
      have := length_afterLine h
      statementsFrom (separate buffer) rest
  | c :: cs =>
    if c = '\'' ∨ c = '"' then
      have := length_throughQuote c cs
      statementsFrom (buffer ++ c :: (throughQuote c cs).1) (throughQuote c cs).2
    else if c = ';' then emit buffer ++ statementsFrom [] cs
    else if c = '\n' ∨ c = '\r' ∨ c = '\t' then statementsFrom (separate buffer) cs
    else statementsFrom (buffer ++ [c]) cs
termination_by cs => cs.length

theorem statementsFrom_block (buffer cs : List Char) :
    statementsFrom buffer ('/' :: '*' :: cs) = match afterBlock cs with
      | none => emit buffer
      | some rest => statementsFrom (separate buffer) rest := by
  rw [statementsFrom]
  split <;> simp_all

theorem statementsFrom_line (buffer cs : List Char) :
    statementsFrom buffer ('-' :: '-' :: cs) = match afterLine cs with
      | none => emit buffer
      | some rest => statementsFrom (separate buffer) rest := by
  rw [statementsFrom]
  split <;> simp_all

/-- **The statements of a text**, by the scanner. -/
def statements (text : String) : List String :=
  (statementsFrom [] text.toList).map String.ofList

end Scan

/-! ## The reader outside every region -/

/-- **A reader outside every region**, in front of a text, with no comment opener lying across the
place where it stands. -/
structure Lexer.IsClear (s : Lexer) (cs : List Char) : Prop where
  region : s.region = .normal
  slash : s.previous = some '/' → cs.head? ≠ some '*'
  dash : s.previous = some '-' → cs.head? ≠ some '-'

/-- A comment delimiter never shares a character with what follows it. -/
theorem Lexer.isClear_enter (cs : List Char) : (Lexer.enter .normal).IsClear cs :=
  ⟨rfl, (nomatch ·), (nomatch ·)⟩

theorem Region.ofQuote?_ne_comment (c : Char) :
    ((Region.ofQuote? c).getD .normal).isComment = false := by
  unfold Region.ofQuote?
  split
  · rfl
  · split <;> rfl

theorem Region.ofQuote?_of_ne {c : Char} (h : ¬(c = '\'' ∨ c = '"')) :
    Region.ofQuote? c = none := by
  have h1 : c ≠ '"' := fun e => h (.inr e)
  have h2 : c ≠ '\'' := fun e => h (.inl e)
  simp [Region.ofQuote?, h1, h2]

namespace Lexer

theorem advance_of_isClear {s : Lexer} {c : Char} {cs : List Char} (h : s.IsClear (c :: cs)) :
    s.advance c = ⟨(Region.ofQuote? c).getD .normal, some c⟩ := by
  have h1 : ¬(c = '*' ∧ s.previous = some '/') := by
    rintro ⟨rfl, hp⟩; exact h.slash hp rfl
  have h2 : ¬(c = '-' ∧ s.previous = some '-') := by
    rintro ⟨rfl, hp⟩; exact h.dash hp rfl
  simp only [advance, h.region, h1, h2, if_false]

/-- Behind a character that opens nothing with the next one, the reader is clear again. -/
theorem isClear_after {c : Char} {cs : List Char} (hb : ∀ rest, c = '/' → cs = '*' :: rest → False)
    (hl : ∀ rest, c = '-' → cs = '-' :: rest → False) : IsClear ⟨.normal, some c⟩ cs := by
  refine ⟨rfl, ?_, ?_⟩
  · intro hc hh
    obtain ⟨rest, hr⟩ := List.head?_eq_some_iff.1 hh
    exact hb rest (Option.some.inj hc) hr
  · intro hc hh
    obtain ⟨rest, hr⟩ := List.head?_eq_some_iff.1 hh
    exact hl rest (Option.some.inj hc) hr

end Lexer

namespace Splitter

/-! ## What the splitter collects -/

/-- A statement that ends is what was collected, if it is more than blanks. -/
theorem finish_finished (s : Splitter) :
    s.finish.finished.reverse = s.finished.reverse ++ Scan.emit s.buffer.reverse := by
  unfold finish Scan.emit
  by_cases h : Text.trim s.buffer.reverse = []
  · simp [h]
  · simp [h, List.isEmpty_iff]

/-- The statements depend on what is collected and finished only. -/
theorem statements_eq (s : Splitter) :
    s.statements = s.finished.reverse ++ Scan.emit s.buffer.reverse := finish_finished s

theorem reverse_addSpace (buffer : List Char) :
    (addSpace buffer).reverse = Scan.separate buffer.reverse := by
  cases buffer with
  | nil => rfl
  | cons c buffer =>
    unfold addSpace Scan.separate
    by_cases h : Text.isBlank c <;> simp [h]

/-- One step from outside every region, if it opens no comment. -/
theorem step_of_isClear {s : Splitter} {c : Char} {cs : List Char} (h : s.lexer.IsClear (c :: cs)) :
    s.step c =
      if c = ';' then finish { s with lexer := ⟨(Region.ofQuote? c).getD .normal, some c⟩ }
      else if isSeparator c then
        { s with
          lexer := ⟨(Region.ofQuote? c).getD .normal, some c⟩
          buffer := addSpace s.buffer }
      else
        { s with
          lexer := ⟨(Region.ofQuote? c).getD .normal, some c⟩
          buffer := c :: s.buffer } := by
  simp [step, Lexer.advance_of_isClear h, h.region, Region.ofQuote?_ne_comment]

/-- The two characters of a block comment's opener leave nothing behind. -/
theorem step_step_block {s : Splitter} {cs : List Char} (h : s.lexer.IsClear ('/' :: cs)) :
    (s.step '/').step '*' = { s with lexer := .enter .blockComment } := by
  rw [step_of_isClear h]
  rfl

/-- The two characters of a line comment's opener leave nothing behind. -/
theorem step_step_line {s : Splitter} {cs : List Char} (h : s.lexer.IsClear ('-' :: cs)) :
    (s.step '-').step '-' = { s with lexer := .enter .lineComment } := by
  rw [step_of_isClear h]
  rfl

/-! ## Through a region -/

/-- **Through a block comment**, from a place in it that is not between the characters of its
end. -/
theorem statements_scan_block (cs : List Char) {s : Splitter}
    (hr : s.lexer.region = .blockComment)
    (hp : s.lexer.previous = some '*' → cs.head? ≠ some '/') :
    (s.scan cs).statements = match Scan.afterBlock cs with
      | none => s.statements
      | some rest =>
        (scan { s with lexer := .enter .normal, buffer := addSpace s.buffer } rest).statements := by
  -- the lookback is a star only in front of something that is no slash, or the comment ends here
  induction cs using Scan.afterBlock.induct generalizing s with
  | case1 => rfl
  | case2 cs => simp [Scan.afterBlock, step, Lexer.advance, hr, Lexer.enter]
  | case3 c cs hc ih =>
    have hclose : ¬(c = '/' ∧ s.lexer.previous = some '*') := by
      rintro ⟨rfl, h⟩; exact hp h rfl
    have hstep : s.step c = { s with lexer := ⟨.blockComment, some c⟩ } := by
      simp [step, Lexer.advance, hr, hclose]
    rw [Scan.afterBlock, scan_cons, hstep, ih rfl]
    · rfl
    · intro hc' hh
      obtain ⟨rest, hrest⟩ := List.head?_eq_some_iff.1 hh
      exact hc rest (Option.some.inj hc') hrest
    · exact hc

/-- **Through a line comment.** -/
theorem statements_scan_line (cs : List Char) {s : Splitter}
    (hr : s.lexer.region = .lineComment) :
    (s.scan cs).statements = match Scan.afterLine cs with
      | none => s.statements
      | some rest =>
        (scan { s with lexer := .enter .normal, buffer := addSpace s.buffer } rest).statements := by
  induction cs generalizing s with
  | nil => rfl
  | cons c cs ih =>
    rw [Scan.afterLine, scan_cons]
    by_cases hc : c = '\n'
    · simp [hc, step, Lexer.advance, hr, Lexer.enter]
    · have hstep : s.step c = { s with lexer := ⟨.lineComment, some c⟩ } := by
        simp [step, Lexer.advance, hr, hc]
      rw [hstep, ih rfl, if_neg hc]
      rfl

theorem step_of_ofQuote? {quote : Char} {s : Splitter}
    (hr : Region.ofQuote? quote = some s.lexer.region) (c : Char) :
    s.step c =
      { s with
        lexer := ⟨if c = quote then .normal else s.lexer.region, some c⟩
        buffer := c :: s.buffer } := by
  have hc : Region.ofQuote? c = some s.lexer.region ↔ c = quote := by
    rw [← hr]
    unfold Region.ofQuote? at hr ⊢
    grind
  have hq : s.lexer.region = .doubleQuote ∨ s.lexer.region = .singleQuote := by
    unfold Region.ofQuote? at hr
    grind
  rcases hq with h | h <;> simp [step, Lexer.advance, h, ← hc]

/-- **Through a quoted text**: everything up to the closing quote is kept. -/
theorem statements_scan_quoted {quote : Char} (cs : List Char) {s : Splitter}
    (hr : Region.ofQuote? quote = some s.lexer.region) :
    (s.scan cs).statements =
      (scan { s with
        lexer := ⟨.normal, some quote⟩
        buffer := (Scan.throughQuote quote cs).1.reverse ++ s.buffer }
          (Scan.throughQuote quote cs).2).statements := by
  induction cs generalizing s with
  | nil => rfl
  | cons c cs ih =>
    rw [Scan.throughQuote, scan_cons, step_of_ofQuote? hr]
    by_cases hc : c = quote
    · simp [hc]
    · -- the region stays the one of this quote, whatever is looked back at
      simp only [hc, if_false]
      refine (ih (s := ⟨⟨s.lexer.region, some c⟩, c :: s.buffer, s.finished⟩) hr).trans ?_
      simp

/-! ## The whole text -/

/-- **From outside every region on, the splitter does what the scanner does.** -/
theorem statements_scan (cs : List Char) {s : Splitter} (h : s.lexer.IsClear cs) :
    (s.scan cs).statements = s.finished.reverse ++ Scan.statementsFrom s.buffer.reverse cs := by
  generalize hb : s.buffer.reverse = buffer
  -- along the scanner's calls, each of which passes a whole region: in front of each the splitter
  -- stands outside every region again, and has collected what the scanner has
  induction buffer, cs using Scan.statementsFrom.induct generalizing s with
  | case1 buffer => rw [scan_nil, statements_eq, Scan.statementsFrom, hb]
  | case2 buffer cs hn =>
    rw [scan_cons, scan_cons, step_step_block h, statements_scan_block cs rfl (by simp [Lexer.enter]),
      Scan.statementsFrom_block, hn]
    simp only [statements_eq, hb]
  | case3 buffer cs rest hs _ ih =>
    rw [scan_cons, scan_cons, step_step_block h, statements_scan_block cs rfl (by simp [Lexer.enter]),
      Scan.statementsFrom_block, hs]
    exact ih (Lexer.isClear_enter rest) (by rw [reverse_addSpace, hb])
  | case4 buffer cs hn =>
    rw [scan_cons, scan_cons, step_step_line h, statements_scan_line cs rfl,
      Scan.statementsFrom_line, hn]
    simp only [statements_eq, hb]
  | case5 buffer cs rest hs _ ih =>
    rw [scan_cons, scan_cons, step_step_line h, statements_scan_line cs rfl,
      Scan.statementsFrom_line, hs]
    exact ih (Lexer.isClear_enter rest) (by rw [reverse_addSpace, hb])
  | case6 buffer c cs hblock hline hq _ ih =>
    -- a quote begins no comment, so behind the closing one the splitter is clear
    have hn : c ≠ '/' ∧ c ≠ '-' ∧ c ≠ ';' ∧ isSeparator c = false := by
      rcases hq with rfl | rfl <;> decide
    obtain ⟨region, hr⟩ : ∃ region, Region.ofQuote? c = some region := by
      rcases hq with rfl | rfl <;> exact ⟨_, rfl⟩
    rw [scan_cons, step_of_isClear h, Scan.statementsFrom, if_pos hq]
    simp only [hn, if_false, hr, Option.getD_some, Bool.false_eq_true]
    rw [statements_scan_quoted cs hr]
    refine ih ⟨rfl, ?_, ?_⟩ (by simp [← hb])
    · intro hc; exact absurd (Option.some.inj hc) hn.1
    · intro hc; exact absurd (Option.some.inj hc) hn.2.1
    · exact hblock
    · exact hline
  | case7 buffer cs hblock hline hq ih =>
    rw [scan_cons, step_of_isClear h, Scan.statementsFrom, if_neg hq, if_pos rfl, if_pos rfl,
      Region.ofQuote?_of_ne hq, Option.getD_none]
    · have hclear : (Lexer.mk .normal (some ';')).IsClear cs := Lexer.isClear_after hblock hline
      rw [ih (s := finish { s with lexer := ⟨.normal, some ';'⟩ }) hclear rfl, finish_finished, hb,
        List.append_assoc]
    · exact hblock
    · exact hline
  | case8 buffer c cs hblock hline hq hsemi hsep ih =>
    have hs : isSeparator c = true := by rcases hsep with rfl | rfl | rfl <;> rfl
    rw [scan_cons, step_of_isClear h, Scan.statementsFrom, if_neg hq, if_neg hsemi, if_neg hsemi,
      if_pos hs, if_pos hsep, Region.ofQuote?_of_ne hq]
    · exact ih (Lexer.isClear_after hblock hline) (by rw [reverse_addSpace, hb])
    · exact hblock
    · exact hline
  | case9 buffer c cs hblock hline hq hsemi hsep ih =>
    have hs : ¬isSeparator c = true := by simpa [isSeparator, or_assoc] using hsep
    rw [scan_cons, step_of_isClear h, Scan.statementsFrom, if_neg hq, if_neg hsemi, if_neg hsemi,
      if_neg hs, if_neg hsep, Region.ofQuote?_of_ne hq]
    · exact ih (Lexer.isClear_after hblock hline) (by simp [hb])
    · exact hblock
    · exact hline

end Splitter

/-- **The splitter is the scanner**: for every text, deciding with one character of lookback and
looking ahead from outside every region give the same statements. -/
theorem split_eq_scan (text : String) : split text = Scan.statements text := by
  have h := Splitter.statements_scan text.toList (s := {}) ⟨rfl, (nomatch ·), (nomatch ·)⟩
  rw [split, splitChars, h]
  rfl

end SqlScript
