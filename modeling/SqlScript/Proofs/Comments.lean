import SqlScript.Proofs.Placeholders

/-!
# Comments and line breaks

A comment may hold anything but its own end: quotes, semicolons, question marks, the openers of
other comments. None of it counts. To the splitter and to the count of placeholders a comment is a
line break, so it cannot change what is executed.

* `Scan.afterBlock_append`, `Scan.afterLine_append`: a comment ends at its first end.
* `countPlaceholdersFrom_block`, `countPlaceholdersFrom_line`: through a comment no placeholder is
  counted.
* `IsBreak`: a text that only parts what is before it from what is behind it.
* `isBreak_newline`, `isBreak_block`, `isBreak_line`: line breaks and both kinds of comments are
  breaks.
* `splitChars_break`, `countPlaceholdersFrom_break`: one break is worth another.
* `comment_eq_newline`: **a comment is worth a line break.**
-/

namespace SqlScript

/-! ## Where a comment ends -/

namespace Scan

/-- A block comment ends at the first `*/`, also behind a body that ends in a star. -/
theorem afterBlock_append {body : List Char} (h : ¬['*', '/'] <:+: body) (rest : List Char) :
    afterBlock (body ++ '*' :: '/' :: rest) = some rest := by
  induction body with
  | nil => rfl
  | cons c body ih =>
    have hbody : ¬['*', '/'] <:+: body := fun hin => h (hin.trans (List.suffix_cons c body).isInfix)
    rw [List.cons_append, afterBlock, ih hbody]
    rintro behind rfl hbehind
    -- a slash right behind the star would stand in the body, since the end begins with a star
    cases body with
    | nil => cases hbehind
    | cons d body =>
      obtain rfl : d = '/' := (List.cons.inj hbehind).1
      exact h ⟨[], body, rfl⟩

/-- A line comment ends at the first newline. -/
theorem afterLine_append {body : List Char} (h : '\n' ∉ body) (rest : List Char) :
    afterLine (body ++ '\n' :: rest) = some rest := by
  induction body with
  | nil => rfl
  | cons c body ih =>
    have hc : c ≠ '\n' := fun e => h (e ▸ List.mem_cons_self)
    have hbody : '\n' ∉ body := fun hin => h (List.mem_cons_of_mem c hin)
    rw [List.cons_append, afterLine, if_neg hc, ih hbody]

end Scan

/-! ## Placeholders through a comment -/

/-- A character that is no placeholder only moves the reader on. -/
theorem countPlaceholdersFrom_cons {s : Lexer} {c : Char} (h : ¬(s.region = .normal ∧ c = '?'))
    (cs : List Char) :
    countPlaceholdersFrom s (c :: cs) = countPlaceholdersFrom (s.advance c) cs := by
  rw [countPlaceholdersFrom, if_neg h, Nat.zero_add]

/-- **Through a block comment** no placeholder is counted, from a place in it that is not between
the characters of its end. -/
theorem countPlaceholdersFrom_block (cs : List Char) {s : Lexer} (hr : s.region = .blockComment)
    (hp : s.previous = some '*' → cs.head? ≠ some '/') :
    countPlaceholdersFrom s cs = match Scan.afterBlock cs with
      | none => 0
      | some rest => countPlaceholdersFrom (.enter .normal) rest := by
  -- the lookback is a star only in front of something that is no slash, or the comment ends here
  induction cs using Scan.afterBlock.induct generalizing s with
  | case1 => rfl
  | case2 cs => simp [Scan.afterBlock, countPlaceholdersFrom, Lexer.advance, hr, Lexer.enter]
  | case3 c cs hc ih =>
    have hclose : ¬(c = '/' ∧ s.previous = some '*') := by
      rintro ⟨rfl, h⟩; exact hp h rfl
    have hnext : s.advance c = ⟨.blockComment, some c⟩ := by
      simp only [Lexer.advance, hr, hclose, if_false]
    have hcount : ¬(s.region = .normal ∧ c = '?') := by simp [hr]
    rw [Scan.afterBlock, countPlaceholdersFrom_cons hcount, hnext]
    · refine ih rfl fun hstar hhead => ?_
      obtain ⟨rest, hrest⟩ := List.head?_eq_some_iff.1 hhead
      exact hc rest (Option.some.inj hstar) hrest
    · exact hc

/-- **Through a line comment** no placeholder is counted. -/
theorem countPlaceholdersFrom_line (cs : List Char) {s : Lexer} (hr : s.region = .lineComment) :
    countPlaceholdersFrom s cs = match Scan.afterLine cs with
      | none => 0
      | some rest => countPlaceholdersFrom (.enter .normal) rest := by
  induction cs generalizing s with
  | nil => rfl
  | cons c cs ih =>
    have hcount : ¬(s.region = .normal ∧ c = '?') := by simp [hr]
    rw [Scan.afterLine, countPlaceholdersFrom_cons hcount]
    by_cases hc : c = '\n'
    · simp only [Lexer.advance, hr, hc, if_true]
    · rw [if_neg hc, ih (by simp only [Lexer.advance, hr, hc, if_false])]

/-! ## What a reader remembers -/

namespace Lexer

/-- A step remembers the character that it reads, or nothing. -/
theorem previous_advance (s : Lexer) (c : Char) :
    (s.advance c).previous = none ∨ (s.advance c).previous = some c := by
  unfold advance enter
  cases s.region <;> dsimp only <;> repeat' split
  all_goals first | exact .inl rfl | exact .inr rfl

/-- What a reader remembers of a text is its last character, if anything. -/
theorem getLast?_of_previous_scan {cs : List Char} {c : Char}
    (h : (({} : Lexer).scan cs).previous = some c) : cs.getLast? = some c := by
  rcases List.eq_nil_or_concat cs with rfl | ⟨front, d, rfl⟩
  · cases h
  · rw [List.concat_eq_append, scan_append, scan_cons, scan_nil] at h
    rw [List.concat_eq_append, List.getLast?_concat]
    rcases previous_advance (({} : Lexer).scan front) d with hnone | hsome
    · rw [hnone] at h
      cases h
    · exact hsome.symm.trans h

/-- A reader outside every region is clear in front of a character that completes no opener. -/
theorem isClear_cons {s : Lexer} (hregion : s.region = .normal) (c : Char) (cs : List Char)
    (hstar : c ≠ '*') (hdash : c = '-' → s.previous ≠ some '-') : s.IsClear (c :: cs) := by
  refine ⟨hregion, fun _ hhead => ?_, fun hp hhead => ?_⟩
  · exact hstar (Option.some.inj hhead)
  · exact hdash (Option.some.inj hhead) hp

end Lexer

/-! ## Breaks -/

/-- **A break**: a text that only parts what is before it from what is behind it. Outside every
region it leaves at most a space in the statement that is being collected, it holds no placeholder,
and what is behind it is read as by a new reader. -/
structure IsBreak (gap : List Char) : Prop where
  statements : ∀ buffer rest,
    Scan.statementsFrom buffer (gap ++ rest) = Scan.statementsFrom (Scan.separate buffer) rest
  placeholders : ∀ {s : Lexer} {rest : List Char}, s.IsClear (gap ++ rest) →
    countPlaceholdersFrom s (gap ++ rest) = countPlaceholdersFrom {} rest

/-- A line break is a break. -/
theorem isBreak_newline : IsBreak ['\n'] where
  statements buffer rest := by
    rw [List.singleton_append, Scan.statementsFrom]
    · rfl
    · intro _ h
      cases h
    · intro _ h
      cases h
  placeholders {s rest} hs := by
    rw [List.singleton_append] at hs ⊢
    rw [countPlaceholdersFrom_cons (by simp), Lexer.advance_of_isClear hs]
    exact countPlaceholdersFrom_of_isFresh (Lexer.isFresh_after (by decide) (by decide)) rest

/-- **A block comment is a break**, whatever it holds but its own end. -/
theorem isBreak_block {body : List Char} (h : ¬['*', '/'] <:+: body) :
    IsBreak ('/' :: '*' :: (body ++ ['*', '/'])) where
  statements buffer rest := by
    simp only [List.cons_append, List.append_assoc, List.nil_append]
    rw [Scan.statementsFrom_block, Scan.afterBlock_append h]
  placeholders {s rest} hs := by
    simp only [List.cons_append, List.append_assoc, List.nil_append] at hs ⊢
    have hopen : (s.advance '/').advance '*' = .enter .blockComment := by
      rw [Lexer.advance_of_isClear hs]
      rfl
    rw [countPlaceholdersFrom_cons (by simp), countPlaceholdersFrom_cons (by simp), hopen,
      countPlaceholdersFrom_block _ rfl (by simp [Lexer.enter]), Scan.afterBlock_append h]
    rfl

/-- **A line comment with its newline is a break**, whatever it holds but a newline. -/
theorem isBreak_line {body : List Char} (h : '\n' ∉ body) :
    IsBreak ('-' :: '-' :: (body ++ ['\n'])) where
  statements buffer rest := by
    simp only [List.cons_append, List.append_assoc, List.nil_append]
    rw [Scan.statementsFrom_line, Scan.afterLine_append h]
  placeholders {s rest} hs := by
    simp only [List.cons_append, List.append_assoc, List.nil_append] at hs ⊢
    have hopen : (s.advance '-').advance '-' = .enter .lineComment := by
      rw [Lexer.advance_of_isClear hs]
      rfl
    rw [countPlaceholdersFrom_cons (by simp), countPlaceholdersFrom_cons (by simp), hopen,
      countPlaceholdersFrom_line _ rfl, Scan.afterLine_append h]
    rfl

/-! ## One break for another -/

section

variable {before gap gap' rest : List Char}

/-- **One break is worth another to the splitter**, where the reader is clear in front of both. -/
theorem splitChars_break (hgap : IsBreak gap) (hgap' : IsBreak gap')
    (h : (({} : Lexer).scan before).IsClear (gap ++ rest))
    (h' : (({} : Lexer).scan before).IsClear (gap' ++ rest)) :
    splitChars (before ++ (gap ++ rest)) = splitChars (before ++ (gap' ++ rest)) := by
  have hlexer : (Splitter.scan {} before).lexer = ({} : Lexer).scan before :=
    Splitter.lexer_scan {} before
  rw [← hlexer] at h h'
  calc splitChars (before ++ (gap ++ rest))
      = ((Splitter.scan {} before).scan (gap ++ rest)).statements := by
        rw [splitChars, Splitter.scan_append]
    _ = ((Splitter.scan {} before).scan (gap' ++ rest)).statements := by
        rw [Splitter.statements_scan _ h, Splitter.statements_scan _ h', hgap.statements,
          hgap'.statements]
    _ = splitChars (before ++ (gap' ++ rest)) := by rw [splitChars, Splitter.scan_append {} before]

/-- **One break is worth another to the count of placeholders.** -/
theorem countPlaceholdersFrom_break (hgap : IsBreak gap) (hgap' : IsBreak gap')
    (h : (({} : Lexer).scan before).IsClear (gap ++ rest))
    (h' : (({} : Lexer).scan before).IsClear (gap' ++ rest)) :
    countPlaceholdersFrom {} (before ++ (gap ++ rest)) =
      countPlaceholdersFrom {} (before ++ (gap' ++ rest)) := by
  rw [countPlaceholdersFrom_append, hgap.placeholders h, countPlaceholdersFrom_append,
    hgap'.placeholders h']

/-- A break in the place of a line break, behind a text that ends outside every region. -/
theorem break_eq_newline (hgap : IsBreak gap)
    (hbefore : (({} : Lexer).scan before).region = .normal)
    (h : (({} : Lexer).scan before).IsClear (gap ++ rest)) :
    splitChars (before ++ (gap ++ rest)) = splitChars (before ++ (['\n'] ++ rest)) ∧
      countPlaceholdersFrom {} (before ++ (gap ++ rest)) =
        countPlaceholdersFrom {} (before ++ (['\n'] ++ rest)) := by
  have hnewline : (({} : Lexer).scan before).IsClear (['\n'] ++ rest) :=
    Lexer.isClear_cons hbefore '\n' rest (by decide) (absurd · (by decide))
  exact ⟨splitChars_break hgap isBreak_newline h hnewline,
    countPlaceholdersFrom_break hgap isBreak_newline h hnewline⟩

end

/-- **A comment is worth a line break.** Behind a text that ends outside every region, a block
comment without `*/` in its body, and behind one that does not end in a dash also a line comment
with its newline, leave the same statements and the same number of placeholders as a newline in
their place. -/
theorem comment_eq_newline {before : String}
    (hbefore : (({} : Lexer).scan before.toList).region = .normal) (rest : String) :
    (∀ body : String, ¬"*/".toList <:+: body.toList →
      split (before ++ "/*" ++ body ++ "*/" ++ rest) = split (before ++ "\n" ++ rest) ∧
      countPlaceholders (before ++ "/*" ++ body ++ "*/" ++ rest) =
        countPlaceholders (before ++ "\n" ++ rest)) ∧
    (∀ body : String, '\n' ∉ body.toList → before.toList.getLast? ≠ some '-' →
      split (before ++ "--" ++ body ++ "\n" ++ rest) = split (before ++ "\n" ++ rest) ∧
      countPlaceholders (before ++ "--" ++ body ++ "\n" ++ rest) =
        countPlaceholders (before ++ "\n" ++ rest)) := by
  refine ⟨fun body hbody => ?_, fun body hbody hlast => ?_⟩
  · obtain ⟨hsplit, hcount⟩ := break_eq_newline (isBreak_block hbody) hbefore
      (Lexer.isClear_cons hbefore '/' ('*' :: (body.toList ++ ['*', '/']) ++ rest.toList)
        (by decide) (absurd · (by decide)))
    exact ⟨by simpa [split] using congrArg (List.map String.ofList) hsplit,
      by simpa [countPlaceholders] using hcount⟩
  · have hdash : (({} : Lexer).scan before.toList).previous ≠ some '-' :=
      fun h => hlast (Lexer.getLast?_of_previous_scan h)
    obtain ⟨hsplit, hcount⟩ := break_eq_newline (isBreak_line hbody) hbefore
      (Lexer.isClear_cons hbefore '-' ('-' :: (body.toList ++ ['\n']) ++ rest.toList)
        (by decide) fun _ => hdash)
    exact ⟨by simpa [split] using congrArg (List.map String.ofList) hsplit,
      by simpa [countPlaceholders] using hcount⟩

/-- Behind a slash: a block comment whose body looks like the rest of a script, and a line comment
with a quote, a placeholder and an opener in it. -/
theorem comment_eq_newline_slash :
    split ("SELECT 4 /" ++ "/*" ++ "/'; DROP TABLE t; -- ? *" ++ "*/" ++ "2") =
        split ("SELECT 4 /" ++ "\n" ++ "2") ∧
      countPlaceholders ("SELECT 4 /" ++ "--" ++ "'?; /*" ++ "\n" ++ "?") =
        countPlaceholders ("SELECT 4 /" ++ "\n" ++ "?") :=
  have h : (({} : Lexer).scan "SELECT 4 /".toList).region = .normal := by decide +kernel
  ⟨((comment_eq_newline h "2").1 "/'; DROP TABLE t; -- ? *" (by decide +kernel)).1,
    ((comment_eq_newline h "?").2 "'?; /*" (by decide +kernel) (by decide +kernel)).2⟩

end SqlScript
