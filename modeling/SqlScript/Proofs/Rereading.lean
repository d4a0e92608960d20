import SqlScript.Proofs.Scanning

/-!
# What the splitter collected, read again

A statement is read more than once: the splitter collects it out of a script, and later it is read
on its own, to count its placeholders or to be split again. In between comments went and line breaks
became spaces, which brings characters together that stood apart. Still the second reading finds
every character in the region where the first one found it.

* `Lexer.IsPlain`: a text without comments, and outside quotes without semicolons and line breaks.
* `Splitter.scan_of_isPlain`: the splitter keeps a plain text as it is.
* `Lexer.IsFresh`: a reader that reads any text as a new one does.
* `Splitter.Step`, `Splitter.step_spec`: what a step of the splitter can do.
* `Splitter.IsFaithful`: what is collected is plain, and read on its own it ends in the region where
  the splitter is.
* `Splitter.isFaithful_step`, `Splitter.isFaithful_scan`: **the splitter stays faithful.**
-/

namespace SqlScript

namespace Lexer

/-! ## Plain texts -/

/-- **A plain text**, from a reader on: nothing in it is part of a comment, and outside quotes it
has no semicolon, line break or tab. -/
def IsPlain (s : Lexer) : List Char → Prop
  | [] => True
  | c :: cs => (s.advance c).region.isComment = false ∧
      (s.region = .normal → c ≠ ';' ∧ Splitter.isSeparator c = false) ∧ (s.advance c).IsPlain cs

/-- Whether a text is plain can be read off it. -/
instance decidableIsPlain : (s : Lexer) → (cs : List Char) → Decidable (s.IsPlain cs)
  | _, [] => isTrue trivial
  | s, c :: cs =>
    have := decidableIsPlain (s.advance c) cs
    inferInstanceAs (Decidable (_ ∧ _ ∧ _))

theorem isPlain_append {s : Lexer} {as bs : List Char} :
    s.IsPlain (as ++ bs) ↔ s.IsPlain as ∧ (s.scan as).IsPlain bs := by
  induction as generalizing s with
  | nil => simp [IsPlain]
  | cons c as ih => simp only [List.cons_append, IsPlain, ih, scan_cons, and_assoc]

/-- A plain text does not lead into a comment. -/
theorem isComment_scan_of_isPlain {s : Lexer} {cs : List Char} (hs : s.region.isComment = false)
    (h : s.IsPlain cs) : (s.scan cs).region.isComment = false := by
  induction cs generalizing s with
  | nil => exact hs
  | cons c cs ih => exact ih h.1 h.2.2

/-- From outside every region, unless a comment opens. -/
theorem advance_of_normal {s : Lexer} {c : Char} (hr : s.region = .normal)
    (hblock : ¬(c = '*' ∧ s.previous = some '/')) (hline : ¬(c = '-' ∧ s.previous = some '-')) :
    s.advance c = ⟨(Region.ofQuote? c).getD .normal, some c⟩ := by
  simp only [advance, hr, hblock, hline, if_false]

/-- From within quotes. -/
theorem advance_of_isQuoted {s : Lexer} (hq : s.region.isQuoted = true) (c : Char) :
    s.advance c = ⟨if Region.ofQuote? c = some s.region then .normal else s.region, some c⟩ := by
  unfold advance
  cases hr : s.region with
  | doubleQuote | singleQuote => rfl
  | normal | blockComment | lineComment => rw [hr] at hq; cases hq

/-- Outside comments the reader remembers every character, and only quotes change its region. -/
theorem advance_cases {s : Lexer} {c : Char} (hs : s.region.isComment = false)
    (h : (s.advance c).region.isComment = false) :
    (s.advance c).previous = some c ∧
      (Region.ofQuote? c = none → (s.advance c).region = s.region) := by
  cases hq : s.region.isQuoted with
  | true =>
    rw [advance_of_isQuoted hq]
    exact ⟨rfl, fun hc => by simp [hc]⟩
  | false =>
    have hr : s.region = .normal := by
      revert hs hq
      cases s.region <;> decide
    -- a comment that opens would be one
    have hblock : ¬(c = '*' ∧ s.previous = some '/') := by
      intro hc
      simp only [advance, hr, hc, and_self, if_true] at h
      cases h
    have hline : ¬(c = '-' ∧ s.previous = some '-') := by
      intro hc
      simp only [advance, hr, hc, and_self, if_true] at h
      cases h
    rw [advance_of_normal hr hblock hline]
    exact ⟨rfl, fun hc => by rw [hc, hr]; rfl⟩

/-! ## Fresh readers -/

/-- **A reader that reads any text as a new one does**: it is outside every region, and what it
remembers opens no comment. -/
structure IsFresh (s : Lexer) : Prop where
  region : s.region = .normal
  slash : s.previous ≠ some '/'
  dash : s.previous ≠ some '-'

theorem isFresh_new : IsFresh {} := ⟨rfl, (nomatch ·), (nomatch ·)⟩

theorem IsFresh.isClear {s : Lexer} (h : s.IsFresh) (cs : List Char) : s.IsClear cs :=
  ⟨h.region, fun hp => absurd hp h.slash, fun hp => absurd hp h.dash⟩

theorem IsFresh.advance_eq {s : Lexer} (h : s.IsFresh) (c : Char) :
    s.advance c = ({} : Lexer).advance c := by
  rw [advance_of_isClear (h.isClear [c]), advance_of_isClear (isFresh_new.isClear [c])]

theorem IsFresh.region_scan {s : Lexer} (h : s.IsFresh) (cs : List Char) :
    (s.scan cs).region = (({} : Lexer).scan cs).region := by
  cases cs with
  | nil => exact h.region
  | cons c cs => rw [scan_cons, scan_cons, h.advance_eq]

theorem IsFresh.isPlain_iff {s : Lexer} (h : s.IsFresh) (cs : List Char) :
    s.IsPlain cs ↔ ({} : Lexer).IsPlain cs := by
  cases cs with
  | nil => exact Iff.rfl
  | cons c cs => simp only [IsPlain, h.advance_eq, h.region]

/-- Behind a character that opens neither a comment nor a quoted text, a reader outside every region
is fresh. -/
theorem isFresh_after {c : Char} (hslash : c ≠ '/') (hdash : c ≠ '-') : IsFresh ⟨.normal, some c⟩ :=
  ⟨rfl, fun h => hslash (Option.some.inj h), fun h => hdash (Option.some.inj h)⟩

end Lexer

/-! ## Blanks -/

/-- A blank opens and closes nothing. -/
theorem Text.ne_of_isBlank {c : Char} (h : Text.isBlank c = true) :
    c ≠ '/' ∧ c ≠ '-' ∧ c ≠ '*' ∧ c ≠ '?' ∧ c ≠ '\'' ∧ c ≠ '"' := by
  refine ⟨?_, ?_, ?_, ?_, ?_, ?_⟩ <;> rintro rfl <;> revert h <;> decide

theorem Region.ofQuote?_of_isBlank {c : Char} (h : Text.isBlank c = true) :
    Region.ofQuote? c = none := by
  obtain ⟨-, -, -, -, hsingle, hdouble⟩ := Text.ne_of_isBlank h
  exact Region.ofQuote?_of_ne fun hq => hq.elim hsingle hdouble

namespace Lexer

/-- A blank outside every region is passed over. -/
theorem advance_of_isBlank {s : Lexer} {c : Char} (hr : s.region = .normal)
    (hc : Text.isBlank c = true) : s.advance c = ⟨.normal, some c⟩ := by
  obtain ⟨-, hdash, hstar, -⟩ := Text.ne_of_isBlank hc
  rw [advance_of_normal hr (fun h => hstar h.1) (fun h => hdash h.1),
    Region.ofQuote?_of_isBlank hc]
  rfl

variable {blanks : List Char}

/-- A fresh reader is fresh behind blanks. -/
theorem IsFresh.scan_blanks {s : Lexer} (hs : s.IsFresh)
    (hblanks : ∀ c ∈ blanks, Text.isBlank c = true) : (s.scan blanks).IsFresh := by
  induction blanks generalizing s with
  | nil => exact hs
  | cons c blanks ih =>
    have hc := hblanks c List.mem_cons_self
    obtain ⟨hslash, hdash, -⟩ := Text.ne_of_isBlank hc
    have hnext : (s.advance c).IsFresh := by
      rw [advance_of_isClear (hs.isClear [c]), Region.ofQuote?_of_isBlank hc]
      exact isFresh_after hslash hdash
    exact ih hnext fun d hd => hblanks d (List.mem_cons_of_mem _ hd)

/-- Plain blanks leave the reader where it is. -/
theorem region_scan_blanks {s : Lexer} (hs : s.region.isComment = false)
    (hblanks : ∀ c ∈ blanks, Text.isBlank c = true) (h : s.IsPlain blanks) :
    (s.scan blanks).region = s.region := by
  induction blanks generalizing s with
  | nil => rfl
  | cons c blanks ih =>
    have hc := Region.ofQuote?_of_isBlank (hblanks c List.mem_cons_self)
    rw [scan_cons, ih h.1 (fun d hd => hblanks d (List.mem_cons_of_mem _ hd)) h.2.2]
    exact (advance_cases hs h.1).2 hc

/-- **Trimming keeps a text plain**, and keeps where it ends. -/
theorem isPlain_trim {cs : List Char} (h : ({} : Lexer).IsPlain cs) :
    ({} : Lexer).IsPlain (Text.trim cs) ∧
      (({} : Lexer).scan (Text.trim cs)).region = (({} : Lexer).scan cs).region := by
  obtain ⟨front, hfront, hleft⟩ := Text.exists_trimLeft cs
  obtain ⟨back, hback, hright⟩ := Text.exists_trimRight (Text.trimLeft cs)
  have hfresh := isFresh_new.scan_blanks hfront
  -- the blanks in front are read by a new reader, which is fresh behind them
  have hmiddle : ({} : Lexer).IsPlain (Text.trimLeft cs) := by
    rw [hleft, isPlain_append] at h
    exact (hfresh.isPlain_iff _).1 h.2
  rw [hright, isPlain_append] at hmiddle
  refine ⟨hmiddle.1, ?_⟩
  have hregion := region_scan_blanks (isComment_scan_of_isPlain rfl hmiddle.1) hback hmiddle.2
  calc (({} : Lexer).scan (Text.trim cs)).region
      = (({} : Lexer).scan (Text.trimRight (Text.trimLeft cs) ++ back)).region := by
        rw [scan_append]; exact hregion.symm
    _ = (({} : Lexer).scan (Text.trimLeft cs)).region := by rw [← hright]
    _ = ((({} : Lexer).scan front).scan (Text.trimLeft cs)).region :=
        (hfresh.region_scan _).symm
    _ = (({} : Lexer).scan cs).region := by rw [← scan_append, ← hleft]

end Lexer

namespace Splitter

/-! ## The splitter on plain texts -/

/-- **The splitter keeps a plain text as it is.** -/
theorem scan_of_isPlain {s : Splitter} {cs : List Char} (hs : s.lexer.region.isComment = false)
    (h : s.lexer.IsPlain cs) :
    s.scan cs = { s with lexer := s.lexer.scan cs, buffer := cs.reverse ++ s.buffer } := by
  induction cs generalizing s with
  | nil => rfl
  | cons c cs ih =>
    obtain ⟨hc, hnormal, hcs⟩ := h
    have hstep : s.step c = { s with lexer := s.lexer.advance c, buffer := c :: s.buffer } := by
      unfold step
      cases hr : s.lexer.region with
      | normal =>
        obtain ⟨hsemi, hsep⟩ := hnormal hr
        simp only [hc, hsemi, hsep, if_false, Bool.false_eq_true]
      | doubleQuote | singleQuote => rfl
      | blockComment | lineComment => rw [hr] at hs; cases hs
    rw [scan_cons, hstep, ih hc hcs]
    simp

/-! ## What a step can do -/

/-- **What a step of the splitter can do.** -/
inductive Step (s : Splitter) (c : Char) : Splitter → Prop
  /-- Opens a comment, whose first character is taken back. -/
  | opens {first : Char} {r : Region} : s.lexer.region = .normal → first = '/' ∨ first = '-' →
      s.lexer.previous = some first → c ≠ '?' → r.isComment = true →
      Step s c { s with lexer := .enter r, buffer := s.buffer.tail }
  /-- Ends a statement. -/
  | ends : s.lexer.region = .normal → c = ';' →
      Step s c (finish { s with lexer := ⟨.normal, some ';'⟩ })
  | separates : s.lexer.region = .normal → isSeparator c = true →
      Step s c { s with lexer := ⟨.normal, some c⟩, buffer := addSpace s.buffer }
  | keeps : s.lexer.region = .normal → ¬(c = '*' ∧ s.lexer.previous = some '/') →
      ¬(c = '-' ∧ s.lexer.previous = some '-') → c ≠ ';' → isSeparator c = false →
      Step s c { s with
        lexer := ⟨(Region.ofQuote? c).getD .normal, some c⟩
        buffer := c :: s.buffer }
  /-- Keeps a character of a quoted text. -/
  | quotes : s.lexer.region.isQuoted = true →
      Step s c { s with lexer := s.lexer.advance c, buffer := c :: s.buffer }
  /-- Ends a comment. -/
  | closes : s.lexer.region.isComment = true →
      Step s c { s with lexer := .enter .normal, buffer := addSpace s.buffer }
  /-- Drops a character of a comment. -/
  | skips : s.lexer.region.isComment = true → (s.lexer.advance c).region.isComment = true →
      Step s c { s with lexer := s.lexer.advance c }

/-- A semicolon outside every region ends a statement. -/
theorem step_semicolon {s : Splitter} (hr : s.lexer.region = .normal) :
    s.step ';' = finish { s with lexer := ⟨.normal, some ';'⟩ } := by
  have hadvance : s.lexer.advance ';' = ⟨.normal, some ';'⟩ :=
    Lexer.advance_of_normal hr (fun h => absurd h.1 (by decide)) fun h => absurd h.1 (by decide)
  simp [step, hr, hadvance, Region.isComment]

theorem isSeparator_iff {c : Char} : isSeparator c = true ↔ c = '\n' ∨ c = '\r' ∨ c = '\t' := by
  simp [isSeparator, or_assoc]

theorem isBlank_of_isSeparator {c : Char} (h : isSeparator c = true) : Text.isBlank c = true := by
  rcases isSeparator_iff.1 h with rfl | rfl | rfl <;> decide

/-- A blank outside every region is a separator or is kept. -/
theorem step_of_isBlank {s : Splitter} {c : Char} (hr : s.lexer.region = .normal)
    (hc : Text.isBlank c = true) :
    s.step c = { s with
      lexer := ⟨.normal, some c⟩
      buffer := if isSeparator c then addSpace s.buffer else c :: s.buffer } := by
  have hsemi : c ≠ ';' := by
    rintro rfl
    exact absurd hc (by decide)
  cases hsep : isSeparator c <;>
    simp [step, hr, Lexer.advance_of_isBlank hr hc, hsemi, hsep, Region.isComment]

theorem step_separator {s : Splitter} {c : Char} (hr : s.lexer.region = .normal)
    (hsep : isSeparator c = true) :
    s.step c = { s with lexer := ⟨.normal, some c⟩, buffer := addSpace s.buffer } := by
  rw [step_of_isBlank hr (isBlank_of_isSeparator hsep), if_pos hsep]

theorem step_spec (s : Splitter) (c : Char) : Step s c (s.step c) := by
  cases hr : s.lexer.region with
  | normal =>
    -- a comment that opens takes back the character in front, which was collected
    by_cases hblock : c = '*' ∧ s.lexer.previous = some '/'
    · have hstep : s.step c =
          { s with lexer := .enter .blockComment, buffer := s.buffer.tail } := by
        simp [step, Lexer.advance, hr, hblock, Lexer.enter, Region.isComment]
      rw [hstep]
      exact .opens hr (.inl rfl) hblock.2 (by rw [hblock.1]; decide) rfl
    · by_cases hline : c = '-' ∧ s.lexer.previous = some '-'
      · have hstep : s.step c =
            { s with lexer := .enter .lineComment, buffer := s.buffer.tail } := by
          simp [step, Lexer.advance, hr, hline, Lexer.enter, Region.isComment]
        rw [hstep]
        exact .opens hr (.inr rfl) hline.2 (by rw [hline.1]; decide) rfl
      · have hadvance := Lexer.advance_of_normal hr hblock hline
        have hstep : s.step c =
            if c = ';' then finish { s with lexer := ⟨(Region.ofQuote? c).getD .normal, some c⟩ }
            else if isSeparator c then
              { s with
                lexer := ⟨(Region.ofQuote? c).getD .normal, some c⟩
                buffer := addSpace s.buffer }
            else
              { s with
                lexer := ⟨(Region.ofQuote? c).getD .normal, some c⟩
                buffer := c :: s.buffer } := by
          simp [step, hr, hadvance, Region.ofQuote?_ne_comment]
        rw [hstep]
        split
        · rename_i hsemi
          subst hsemi
          exact .ends hr rfl
        · rename_i hsemi
          split
          · rename_i hsep
            rw [Region.ofQuote?_of_isBlank (isBlank_of_isSeparator hsep)]
            exact .separates hr hsep
          · rename_i hsep
            exact .keeps hr hblock hline hsemi (Bool.eq_false_iff.2 hsep)
  | doubleQuote | singleQuote =>
    have hstep : s.step c = { s with lexer := s.lexer.advance c, buffer := c :: s.buffer } := by
      simp [step, hr]
    rw [hstep]
    exact .quotes (by rw [hr]; rfl)
  | blockComment =>
    by_cases hc : c = '/' ∧ s.lexer.previous = some '*'
    · have hstep : s.step c = { s with lexer := .enter .normal, buffer := addSpace s.buffer } := by
        simp [step, Lexer.advance, hr, hc, Lexer.enter]
      rw [hstep]
      exact .closes (by rw [hr]; rfl)
    · have hadvance : s.lexer.advance c = ⟨.blockComment, some c⟩ := by
        simp only [Lexer.advance, hr, hc, if_false]
      have hstep : s.step c = { s with lexer := s.lexer.advance c } := by simp [step, hr, hadvance]
      rw [hstep]
      exact .skips (by rw [hr]; rfl) (by rw [hadvance]; rfl)
  | lineComment =>
    by_cases hc : c = '\n'
    · have hstep : s.step c = { s with lexer := .enter .normal, buffer := addSpace s.buffer } := by
        simp [step, Lexer.advance, hr, hc, Lexer.enter]
      rw [hstep]
      exact .closes (by rw [hr]; rfl)
    · have hadvance : s.lexer.advance c = ⟨.lineComment, some c⟩ := by
        simp only [Lexer.advance, hr, hc, if_false]
      have hstep : s.step c = { s with lexer := s.lexer.advance c } := by simp [step, hr, hadvance]
      rw [hstep]
      exact .skips (by rw [hr]; rfl) (by rw [hadvance]; rfl)

/-! ## The invariant -/

/-- A reader of what is collected in a buffer, on its own. -/
def reread (buffer : List Char) : Lexer := ({} : Lexer).scan buffer.reverse

theorem reread_cons (c : Char) (buffer : List Char) :
    reread (c :: buffer) = (reread buffer).advance c := by
  rw [reread, List.reverse_cons, Lexer.scan_append]
  rfl

/-- What is collected stays plain with one more character. -/
theorem isPlain_cons {c : Char} {buffer : List Char} :
    ({} : Lexer).IsPlain (c :: buffer).reverse ↔ ({} : Lexer).IsPlain buffer.reverse ∧
      ((reread buffer).advance c).region.isComment = false ∧
      ((reread buffer).region = .normal → c ≠ ';' ∧ isSeparator c = false) := by
  rw [List.reverse_cons, Lexer.isPlain_append]
  simp only [Lexer.IsPlain, and_true]
  rfl

/-- **A faithful splitter**: what it has collected is plain; read on its own it ends in the region
where the splitter is, or outside every region if that is a comment; and in front of a comment's
second character it ends in the first one exactly if the script does. -/
structure IsFaithful (s : Splitter) : Prop where
  plain : ({} : Lexer).IsPlain s.buffer.reverse
  region : (reread s.buffer).region =
    if s.lexer.region.isComment then .normal else s.lexer.region
  opener : s.lexer.region = .normal → ∀ c, c = '/' ∨ c = '-' →
    (s.buffer.head? = some c ↔ s.lexer.previous = some c)

theorem isFaithful_new : IsFaithful {} :=
  ⟨trivial, rfl, fun _ _ _ => ⟨(nomatch ·), (nomatch ·)⟩⟩

/-- A reader of what is collected remembers the last character of it. -/
theorem previous_reread {buffer : List Char} (h : ({} : Lexer).IsPlain buffer.reverse) :
    (reread buffer).previous = buffer.head? := by
  cases buffer with
  | nil => rfl
  | cons c buffer =>
    obtain ⟨hbuffer, hc, -⟩ := isPlain_cons.1 h
    rw [reread_cons]
    exact (Lexer.advance_cases (Lexer.isComment_scan_of_isPlain rfl hbuffer) hc).1

/-- A separator ends in a blank, if it ends in anything. -/
theorem isBlank_of_head?_addSpace {buffer : List Char} {c : Char}
    (h : (addSpace buffer).head? = some c) : Text.isBlank c = true := by
  unfold addSpace at h
  split at h
  · cases h
  · split at h
    · rename_i hblank
      obtain rfl := Option.some.inj h
      exact hblank
    · obtain rfl := Option.some.inj h
      decide

/-- A separator keeps what is collected plain, and outside every region. -/
theorem isPlain_addSpace {buffer : List Char} (hplain : ({} : Lexer).IsPlain buffer.reverse)
    (hregion : (reread buffer).region = .normal) :
    ({} : Lexer).IsPlain (addSpace buffer).reverse ∧
      (reread (addSpace buffer)).region = .normal := by
  unfold addSpace
  split
  · exact ⟨trivial, rfl⟩
  · split
    · exact ⟨hplain, hregion⟩
    · have hadvance := Lexer.advance_of_normal (c := ' ') hregion (fun h => absurd h.1 (by decide))
        fun h => absurd h.1 (by decide)
      rw [isPlain_cons, reread_cons ' ', hadvance]
      exact ⟨⟨hplain, rfl, fun _ => by decide⟩, rfl⟩

/-- **A separator keeps the splitter faithful**, since no comment opens behind a blank. -/
theorem isFaithful_addSpace {s : Splitter} {previous : Option Char}
    (hplain : ({} : Lexer).IsPlain s.buffer.reverse)
    (hregion : (reread s.buffer).region = .normal)
    (hprevious : ∀ c, c = '/' ∨ c = '-' → previous ≠ some c) :
    IsFaithful { s with lexer := ⟨.normal, previous⟩, buffer := addSpace s.buffer } := by
  obtain ⟨hspace, hnormal⟩ := isPlain_addSpace hplain hregion
  refine ⟨hspace, hnormal, fun _ c hc => ⟨fun hhead => ?_, fun hp => absurd hp (hprevious c hc)⟩⟩
  have hblank := Text.ne_of_isBlank (isBlank_of_head?_addSpace hhead)
  rcases hc with rfl | rfl
  · exact absurd rfl hblank.1
  · exact absurd rfl hblank.2.1

/-- **A character that is kept keeps the splitter faithful**, if a reader of what is collected goes
on as the splitter does. -/
theorem isFaithful_cons {s : Splitter} {c : Char} {next : Lexer}
    (hplain : ({} : Lexer).IsPlain s.buffer.reverse)
    (hadvance : (reread s.buffer).advance c = next) (hcomment : next.region.isComment = false)
    (hlast : next.previous = some c)
    (hkept : (reread s.buffer).region = .normal → c ≠ ';' ∧ isSeparator c = false) :
    IsFaithful { s with lexer := next, buffer := c :: s.buffer } := by
  refine ⟨isPlain_cons.2 ⟨hplain, by rw [hadvance]; exact hcomment, hkept⟩, ?_, fun _ d _ => ?_⟩
  · rw [reread_cons, hadvance]
    simp only [hcomment, if_false, Bool.false_eq_true]
  · simp only [hlast, List.head?_cons]

/-- Taking the first character of a comment's opener back leaves a text that ends outside every
region. -/
theorem region_reread_tail {first : Char} {buffer : List Char} (hfirst : first = '/' ∨ first = '-')
    (hplain : ({} : Lexer).IsPlain (first :: buffer).reverse)
    (hregion : (reread (first :: buffer)).region = .normal) :
    (reread buffer).region = .normal := by
  obtain ⟨hbuffer, hcomment, -⟩ := isPlain_cons.1 hplain
  have hquote : Region.ofQuote? first = none := by rcases hfirst with rfl | rfl <;> decide
  have hback := Lexer.isComment_scan_of_isPlain rfl hbuffer
  rw [reread_cons] at hregion
  exact ((Lexer.advance_cases hback hcomment).2 hquote).symm.trans hregion

/-- **The splitter stays faithful with every step.** -/
theorem isFaithful_step {s : Splitter} (h : s.IsFaithful) (c : Char) : (s.step c).IsFaithful := by
  have hplain := h.plain
  have hregion := h.region
  generalize hs' : s.step c = s'
  have hstep : Step s c s' := hs' ▸ step_spec s c
  cases hstep with
  | @opens first r hr hfirst hp _ hcomment =>
    -- what is taken back is the opener's first character, since nothing else was collected since
    obtain ⟨buffer, hb⟩ := List.head?_eq_some_iff.1 ((h.opener hr first hfirst).2 hp)
    rw [hr] at hregion
    rw [hb] at hplain hregion
    have htail := region_reread_tail hfirst hplain hregion
    rw [hb]
    refine ⟨(isPlain_cons.1 hplain).1, ?_, fun hn => ?_⟩
    · simp only [List.tail_cons, htail, Lexer.enter, hcomment, if_true]
    · have hn' : r = .normal := hn
      rw [hn'] at hcomment
      cases hcomment
  | ends =>
    refine ⟨trivial, rfl, fun _ c hc => ⟨fun hhead => ?_, fun hp => ?_⟩⟩
    · cases hhead
    · obtain rfl := Option.some.inj hp
      exact absurd hc (by decide)
  | separates hr hsep =>
    rw [hr] at hregion
    refine isFaithful_addSpace hplain hregion fun d hd hp => ?_
    obtain rfl := Option.some.inj hp
    have hblank := Text.ne_of_isBlank (isBlank_of_isSeparator hsep)
    exact hd.elim hblank.1 hblank.2.1
  | keeps hr hblock hline hsemi hsep =>
    -- no comment opens in what is collected either: it ends as the script does
    rw [hr] at hregion
    have hprevious := previous_reread hplain
    refine isFaithful_cons hplain (Lexer.advance_of_normal hregion (fun hc => ?_) fun hc => ?_)
      (Region.ofQuote?_ne_comment c) rfl fun _ => ⟨hsemi, hsep⟩
    · exact hblock ⟨hc.1, (h.opener hr '/' (.inl rfl)).1 (hprevious ▸ hc.2)⟩
    · exact hline ⟨hc.1, (h.opener hr '-' (.inr rfl)).1 (hprevious ▸ hc.2)⟩
  | quotes hq =>
    have hcomment : s.lexer.region.isComment = false := by
      revert hq
      cases s.lexer.region <;> decide
    rw [hcomment] at hregion
    have hsame : (reread s.buffer).region = s.lexer.region := hregion
    have hnext := Lexer.advance_of_isQuoted hq c
    refine isFaithful_cons hplain ?_ ?_ (by rw [hnext]) fun hn => ?_
    · rw [hnext, Lexer.advance_of_isQuoted (by rw [hsame]; exact hq), hsame]
    · rw [hnext]
      simp only
      split
      · rfl
      · exact hcomment
    · rw [← hsame, hn] at hq
      cases hq
  | closes hc =>
    rw [hc] at hregion
    refine isFaithful_addSpace hplain hregion fun d _ hp => ?_
    cases hp
  | skips hc hnext =>
    rw [hc] at hregion
    refine ⟨hplain, by simp only [hnext, if_true]; exact hregion, fun hn => ?_⟩
    rw [hn] at hnext
    cases hnext

/-- **What a splitter collects out of any text is read again as it was read first.** -/
theorem isFaithful_scan {s : Splitter} (h : s.IsFaithful) (cs : List Char) :
    (s.scan cs).IsFaithful := by
  induction cs generalizing s with
  | nil => exact h
  | cons c cs ih => exact ih (isFaithful_step h c)

end Splitter

end SqlScript
