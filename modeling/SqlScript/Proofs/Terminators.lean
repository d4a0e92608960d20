import SqlScript.Report
import SqlScript.Proofs.Rereading

/-!
# Statements given on their own

A statement that is given on its own is sent without the blanks at its ends and without one
semicolon at its end. Nobody looks at where they stand: the semicolon may belong to a comment, and
one of the blanks may be the newline that ends one. Still the text that is sent has the statements
of the text that was given, unless that ends within quotes.

* `IsTerminator`: the characters that are taken off the end of a text.
* `Splitter.statements_step_terminator`, `Splitter.statements_scan_terminators`: outside quotes they
  neither add a statement nor change one.
* `splitChars_trimLeft`, `splitChars_statementText`: what is taken off either end does not count.
* `splitChars_eq_nil_iff`: what is sent has a statement exactly if what was given has one.
* `split_parseStatement`: **trimming does not change the statement**, and the test for an empty text
  is right about the text that is sent.
-/

namespace SqlScript

/-! ## What is taken off -/

/-- **A terminator**: a character that is taken off the end of a statement. -/
def IsTerminator (c : Char) : Prop := Text.isBlank c = true ∨ c = ';'

/-- A terminator opens and closes nothing but a line comment. -/
theorem IsTerminator.ne {c : Char} (h : IsTerminator c) : c ≠ '/' ∧ c ≠ '-' ∧ c ≠ '*' := by
  rcases h with h | rfl
  · obtain ⟨hslash, hdash, hstar, -⟩ := Text.ne_of_isBlank h
    exact ⟨hslash, hdash, hstar⟩
  · decide

theorem IsTerminator.ofQuote? {c : Char} (h : IsTerminator c) : Region.ofQuote? c = none := by
  rcases h with h | rfl
  · exact Region.ofQuote?_of_isBlank h
  · decide

/-- What is sent of a statement is a start of it, behind the blanks in front; what is left are
terminators. -/
theorem exists_terminators (cs : List Char) :
    ∃ behind, (∀ c ∈ behind, IsTerminator c) ∧ Text.trimLeft cs = statementText cs ++ behind := by
  obtain ⟨blanks, hblanks, htrim⟩ := Text.exists_trimRight (Text.trimLeft cs)
  change Text.trimLeft cs = Text.trim cs ++ blanks at htrim
  unfold statementText
  simp only
  split
  · rename_i hlast
    obtain ⟨front, hfront⟩ := List.getLast?_eq_some_iff.1 hlast
    rw [hfront, List.dropLast_concat]
    obtain ⟨inner, hinner, h⟩ := Text.exists_trimRight front
    refine ⟨inner ++ ';' :: blanks, fun c hc => ?_, ?_⟩
    · rcases List.mem_append.1 hc with hc | hc
      · exact .inl (hinner c hc)
      · rcases List.mem_cons.1 hc with hc | hc
        · exact .inr hc
        · exact .inl (hblanks c hc)
    · calc Text.trimLeft cs = front ++ [';'] ++ blanks := by rw [htrim, hfront]
        _ = Text.trimRight front ++ inner ++ [';'] ++ blanks := by rw [← h]
        _ = Text.trimRight front ++ (inner ++ ';' :: blanks) := by simp
  · exact ⟨blanks, fun c hc => .inl (hblanks c hc), htrim⟩

/-- Terminators neither open nor close a quoted text. -/
theorem Lexer.isQuoted_advance_terminator (s : Lexer) {c : Char} (hc : IsTerminator c) :
    (s.advance c).region.isQuoted = s.region.isQuoted := by
  obtain ⟨hslash, hdash, hstar⟩ := hc.ne
  have hquote := hc.ofQuote?
  cases hr : s.region with
  | normal => simp [advance, hr, hdash, hstar, hquote]
  | doubleQuote | singleQuote => simp [advance, hr, hquote]
  | blockComment => simp [advance, hr, hslash]
  | lineComment =>
    by_cases hnewline : c = '\n'
    · simp [advance, hr, hnewline, enter, Region.isQuoted]
    · simp [advance, hr, hnewline]

theorem Lexer.isQuoted_scan_terminators (s : Lexer) {cs : List Char}
    (hcs : ∀ c ∈ cs, IsTerminator c) : (s.scan cs).region.isQuoted = s.region.isQuoted := by
  induction cs generalizing s with
  | nil => rfl
  | cons c cs ih =>
    rw [scan_cons, ih _ fun d hd => hcs d (List.mem_cons_of_mem _ hd),
      isQuoted_advance_terminator s (hcs c List.mem_cons_self)]

/-! ## Blanks around what is collected -/

namespace Text

/-- Blanks in front of a text are trimmed. -/
theorem trim_blanks_append {blanks : List Char} (h : ∀ c ∈ blanks, isBlank c = true)
    (cs : List Char) : trim (blanks ++ cs) = trim cs := by
  rw [trim, trim, trimLeft, List.dropWhile_append_of_pos h, trimLeft]

/-- A blank behind a text is trimmed. -/
theorem trim_append_blank {c : Char} (h : isBlank c = true) (cs : List Char) :
    trim (cs ++ [c]) = trim cs := by
  have hright : ∀ ds : List Char, trimRight (ds ++ [c]) = trimRight ds := by
    intro ds
    rw [trimRight, List.reverse_append, List.reverse_singleton, List.singleton_append,
      List.dropWhile_cons_of_pos h, trimRight]
  unfold trim trimLeft
  rw [List.dropWhile_append]
  split
  · rename_i hempty
    rw [List.isEmpty_iff.1 hempty, List.dropWhile_cons_of_pos h]
    rfl
  · exact hright _

end Text

theorem Scan.emit_blanks_append {blanks : List Char} (h : ∀ c ∈ blanks, Text.isBlank c = true)
    (cs : List Char) : emit (blanks ++ cs) = emit cs := by
  rw [emit, emit, Text.trim_blanks_append h]

theorem Scan.emit_append_blank {c : Char} (h : Text.isBlank c = true) (cs : List Char) :
    emit (cs ++ [c]) = emit cs := by
  rw [emit, emit, Text.trim_append_blank h]

/-- A separator is a blank or nothing. -/
theorem Splitter.addSpace_cases (buffer : List Char) :
    addSpace buffer = buffer ∨ addSpace buffer = ' ' :: buffer := by
  unfold addSpace
  split
  · exact .inl rfl
  · split
    · exact .inl rfl
    · exact .inr rfl

/-- A separator does not change the statement that is emitted. -/
theorem Splitter.emit_addSpace (buffer : List Char) :
    Scan.emit (addSpace buffer).reverse = Scan.emit buffer.reverse := by
  rcases addSpace_cases buffer with h | h
  · rw [h]
  · rw [h, List.reverse_cons, Scan.emit_append_blank (by decide)]

namespace Splitter

/-! ## Terminators -/

/-- **A blank outside every region** is collected as a blank, or not at all. -/
theorem step_blank {s : Splitter} {c : Char} (hr : s.lexer.region = .normal)
    (hc : Text.isBlank c = true) :
    ∃ buffer, s.step c = { s with lexer := ⟨.normal, some c⟩, buffer } ∧
      (buffer = s.buffer ∨ ∃ d, Text.isBlank d = true ∧ buffer = d :: s.buffer) := by
  refine ⟨_, step_of_isBlank hr hc, ?_⟩
  split
  · rcases addSpace_cases s.buffer with h | h
    · exact .inl h
    · exact .inr ⟨' ', by decide, h⟩
  · exact .inr ⟨c, hc, rfl⟩

/-- **A terminator outside quotes neither adds a statement nor changes one**: outside every region
it ends what is collected, or adds a blank to it, and in a comment it does at most end the
comment. -/
theorem statements_step_terminator {s : Splitter} (hq : s.lexer.region.isQuoted = false) {c : Char}
    (hc : IsTerminator c) : (s.step c).statements = s.statements := by
  cases hr : s.lexer.region with
  | normal =>
    -- a blank at the end of what is collected is trimmed, and a semicolon empties it
    rcases hc with hblank | rfl
    · obtain ⟨buffer, hstep, hbuffer⟩ := step_blank hr hblank
      rw [hstep, statements_eq, statements_eq]
      rcases hbuffer with rfl | ⟨d, hd, rfl⟩
      · rfl
      · rw [List.reverse_cons, Scan.emit_append_blank hd]
    · have hempty :
          Scan.emit (finish { s with lexer := ⟨.normal, some ';'⟩ }).buffer.reverse = [] := rfl
      rw [step_semicolon hr, statements_eq, hempty, List.append_nil]
      rfl
  | doubleQuote | singleQuote => rw [hr] at hq; cases hq
  | blockComment =>
    have hstep : s.step c = { s with lexer := ⟨.blockComment, some c⟩ } := by
      simp [step, Lexer.advance, hr, hc.ne.1]
    rw [hstep]
    rfl
  | lineComment =>
    by_cases hnewline : c = '\n'
    · have hstep : s.step c = { s with lexer := .enter .normal, buffer := addSpace s.buffer } := by
        simp [step, Lexer.advance, hr, hnewline, Lexer.enter]
      rw [hstep, statements_eq, statements_eq, emit_addSpace]
    · have hstep : s.step c = { s with lexer := ⟨.lineComment, some c⟩ } := by
        simp [step, Lexer.advance, hr, hnewline]
      rw [hstep]
      rfl

theorem statements_scan_terminators {s : Splitter} (hq : s.lexer.region.isQuoted = false)
    {cs : List Char} (hcs : ∀ c ∈ cs, IsTerminator c) : (s.scan cs).statements = s.statements := by
  induction cs generalizing s with
  | nil => rfl
  | cons c cs ih =>
    have hc := hcs c List.mem_cons_self
    have hnext : (s.step c).lexer.region.isQuoted = false := by
      rw [lexer_step, Lexer.isQuoted_advance_terminator _ hc, hq]
    rw [scan_cons, ih hnext fun d hd => hcs d (List.mem_cons_of_mem _ hd),
      statements_step_terminator hq hc]

/-! ## Blanks in front -/

/-- A splitter that has read nothing but blanks has collected nothing but blanks. -/
theorem scan_blanks {s : Splitter} {blanks : List Char} (hs : s.lexer.IsFresh)
    (hbuffer : ∀ c ∈ s.buffer, Text.isBlank c = true)
    (hblanks : ∀ c ∈ blanks, Text.isBlank c = true) :
    (s.scan blanks).lexer.IsFresh ∧ (s.scan blanks).finished = s.finished ∧
      ∀ c ∈ (s.scan blanks).buffer, Text.isBlank c = true := by
  induction blanks generalizing s with
  | nil => exact ⟨hs, rfl, hbuffer⟩
  | cons c blanks ih =>
    have hc := hblanks c List.mem_cons_self
    obtain ⟨hslash, hdash, -⟩ := Text.ne_of_isBlank hc
    obtain ⟨buffer, hstep, hcases⟩ := step_blank hs.region hc
    have hcollected : ∀ d ∈ buffer, Text.isBlank d = true := by
      rcases hcases with rfl | ⟨e, he, rfl⟩
      · exact hbuffer
      · exact fun d hd => (List.mem_cons.1 hd).elim (· ▸ he) (hbuffer d)
    rw [scan_cons, hstep]
    exact ih (Lexer.isFresh_after hslash hdash) hcollected fun d hd =>
      hblanks d (List.mem_cons_of_mem _ hd)

end Splitter

namespace Scan

/-- A character in front of which no comment opens. -/
theorem statementsFrom_cons {c : Char} {cs : List Char}
    (hblock : ∀ rest, c = '/' → cs = '*' :: rest → False)
    (hline : ∀ rest, c = '-' → cs = '-' :: rest → False) (buffer : List Char) :
    statementsFrom buffer (c :: cs) =
      if c = '\'' ∨ c = '"' then
        statementsFrom (buffer ++ c :: (throughQuote c cs).1) (throughQuote c cs).2
      else if c = ';' then emit buffer ++ statementsFrom [] cs
      else if c = '\n' ∨ c = '\r' ∨ c = '\t' then statementsFrom (separate buffer) cs
      else statementsFrom (buffer ++ [c]) cs := by
  rw [statementsFrom]
  · exact hblock
  · exact hline

section

variable {blanks : List Char} (h : ∀ c ∈ blanks, Text.isBlank c = true)

include h

theorem separate_blanks_append (buffer : List Char) :
    separate (blanks ++ buffer) = blanks ++ separate buffer := by
  rcases List.eq_nil_or_concat buffer with rfl | ⟨front, c, rfl⟩
  · rcases List.eq_nil_or_concat blanks with rfl | ⟨first, d, rfl⟩
    · rfl
    · have hd : Text.isBlank d = true := h d (by simp)
      simp [separate, hd]
  · unfold separate
    simp only [List.concat_eq_append, ← List.append_assoc, List.getLast?_concat]
    split <;> simp

/-- **Blanks at the start of what was collected** change no statement. -/
theorem statementsFrom_blanks_append (buffer cs : List Char) :
    statementsFrom (blanks ++ buffer) cs = statementsFrom buffer cs := by
  induction buffer, cs using statementsFrom.induct with
  | case1 buffer => rw [statementsFrom, statementsFrom, emit_blanks_append h]
  | case2 buffer cs hn =>
    rw [statementsFrom_block, statementsFrom_block, hn]
    exact emit_blanks_append h buffer
  | case3 buffer cs rest hs _ ih =>
    rw [statementsFrom_block, statementsFrom_block, hs]
    simp only [separate_blanks_append h, ih]
  | case4 buffer cs hn =>
    rw [statementsFrom_line, statementsFrom_line, hn]
    exact emit_blanks_append h buffer
  | case5 buffer cs rest hs _ ih =>
    rw [statementsFrom_line, statementsFrom_line, hs]
    simp only [separate_blanks_append h, ih]
  | case6 buffer c cs hblock hline hq _ ih =>
    rw [statementsFrom_cons hblock hline, statementsFrom_cons hblock hline, if_pos hq, if_pos hq,
      List.append_assoc, ih]
  | case7 buffer cs hblock hline hq _ =>
    rw [statementsFrom_cons hblock hline, statementsFrom_cons hblock hline, if_neg hq, if_neg hq,
      if_pos rfl, if_pos rfl, emit_blanks_append h]
  | case8 buffer c cs hblock hline hq hsemi hsep ih =>
    rw [statementsFrom_cons hblock hline, statementsFrom_cons hblock hline, if_neg hq, if_neg hq,
      if_neg hsemi, if_neg hsemi, if_pos hsep, if_pos hsep, separate_blanks_append h, ih]
  | case9 buffer c cs hblock hline hq hsemi hsep ih =>
    rw [statementsFrom_cons hblock hline, statementsFrom_cons hblock hline, if_neg hq, if_neg hq,
      if_neg hsemi, if_neg hsemi, if_neg hsep, if_neg hsep, List.append_assoc, ih]

end

end Scan

/-! ## Statements of what is sent -/

/-- **Blanks in front of a text** do not count. -/
theorem splitChars_trimLeft (cs : List Char) : splitChars (Text.trimLeft cs) = splitChars cs := by
  obtain ⟨blanks, hblanks, h⟩ := Text.exists_trimLeft cs
  obtain ⟨hfresh, hfinished, hbuffer⟩ :=
    Splitter.scan_blanks (s := {}) Lexer.isFresh_new (fun _ hc => nomatch hc) hblanks
  generalize Text.trimLeft cs = text at h
  have hcollected : ∀ c ∈ (Splitter.scan {} blanks).buffer.reverse, Text.isBlank c = true :=
    fun c hc => hbuffer c (List.mem_reverse.1 hc)
  have hstart := Scan.statementsFrom_blanks_append hcollected [] text
  rw [List.append_nil] at hstart
  calc splitChars text
      = Scan.statementsFrom [] text :=
        Splitter.statements_scan text (Lexer.isFresh_new.isClear text)
    _ = ((Splitter.scan {} blanks).scan text).statements := by
        rw [Splitter.statements_scan text (hfresh.isClear text), hfinished, hstart]
        rfl
    _ = splitChars cs := by rw [h, splitChars, Splitter.scan_append]

/-- What is sent ends within quotes exactly if what was given does. -/
theorem isQuoted_scan_statementText (cs : List Char) :
    (({} : Lexer).scan (statementText cs)).region.isQuoted =
      (({} : Lexer).scan cs).region.isQuoted := by
  obtain ⟨blanks, hblanks, hleft⟩ := Text.exists_trimLeft cs
  obtain ⟨behind, hbehind, htext⟩ := exists_terminators cs
  have hfresh := Lexer.isFresh_new.scan_blanks hblanks
  calc (({} : Lexer).scan (statementText cs)).region.isQuoted
      = (({} : Lexer).scan (Text.trimLeft cs)).region.isQuoted := by
        rw [htext, Lexer.scan_append, Lexer.isQuoted_scan_terminators _ hbehind]
    _ = ((({} : Lexer).scan blanks).scan (Text.trimLeft cs)).region.isQuoted := by
        rw [hfresh.region_scan]
    _ = (({} : Lexer).scan cs).region.isQuoted := by rw [← Lexer.scan_append, ← hleft]

/-- **What is sent has the statements of what was given**, unless that ends within quotes. -/
theorem splitChars_statementText {cs : List Char}
    (h : (({} : Lexer).scan cs).region.isQuoted = false) :
    splitChars (statementText cs) = splitChars cs := by
  obtain ⟨behind, hbehind, htext⟩ := exists_terminators cs
  have hq : (Splitter.scan {} (statementText cs)).lexer.region.isQuoted = false := by
    rw [Splitter.lexer_scan]
    exact (isQuoted_scan_statementText cs).trans h
  calc splitChars (statementText cs)
      = ((Splitter.scan {} (statementText cs)).scan behind).statements :=
        (Splitter.statements_scan_terminators hq hbehind).symm
    _ = splitChars (Text.trimLeft cs) := by rw [htext, splitChars, Splitter.scan_append]
    _ = splitChars cs := splitChars_trimLeft cs

/-- A text that ends within quotes is more than blanks. -/
theorem Text.trim_ne_nil_of_isQuoted {cs : List Char}
    (h : (({} : Lexer).scan cs).region.isQuoted = true) : Text.trim cs ≠ [] := by
  intro htrim
  obtain ⟨front, hfront, hleft⟩ := Text.exists_trimLeft cs
  obtain ⟨back, hback, hright⟩ := Text.exists_trimRight (Text.trimLeft cs)
  change Text.trimLeft cs = Text.trim cs ++ back at hright
  rw [htrim, List.nil_append] at hright
  have hblanks : ∀ c ∈ front ++ back, Text.isBlank c = true := by
    intro c hc
    exact (List.mem_append.1 hc).elim (hfront c) (hback c)
  rw [hleft, hright, (Lexer.isFresh_new.scan_blanks hblanks).region] at h
  cases h

/-- A text that ends within quotes has a statement, the one with that quote. -/
theorem splitChars_ne_nil_of_isQuoted {cs : List Char}
    (h : (({} : Lexer).scan cs).region.isQuoted = true) : splitChars cs ≠ [] := by
  have hfaithful := Splitter.isFaithful_scan Splitter.isFaithful_new cs
  have hcomment : (({} : Lexer).scan cs).region.isComment = false := by
    revert h
    cases (({} : Lexer).scan cs).region <;> decide
  have hregion := hfaithful.region
  rw [Splitter.lexer_scan, show (({} : Splitter).lexer) = {} from rfl, hcomment] at hregion
  rw [← show _ = (({} : Lexer).scan cs).region from hregion] at h
  have hemit : Scan.emit (Splitter.scan {} cs).buffer.reverse ≠ [] := by
    unfold Scan.emit
    rw [if_neg (Text.trim_ne_nil_of_isQuoted h)]
    exact List.cons_ne_nil _ _
  rw [splitChars, Splitter.statements_eq]
  exact List.append_ne_nil_of_right_ne_nil _ hemit

/-- **What is sent has a statement exactly if what was given has one.** -/
theorem splitChars_eq_nil_iff (cs : List Char) :
    splitChars (statementText cs) = [] ↔ splitChars cs = [] := by
  cases h : (({} : Lexer).scan cs).region.isQuoted with
  | false => rw [splitChars_statementText h]
  | true =>
    have hsent := (isQuoted_scan_statementText cs).trans h
    exact iff_of_false (splitChars_ne_nil_of_isQuoted hsent) (splitChars_ne_nil_of_isQuoted h)

/-! ## Single statements -/

namespace Runner

variable {κ τ Conn Stmt : Type}

/-- **Runs a unit that is sent on its own**, unless there is no statement in it. -/
def runSent (r : Runner κ τ Conn Stmt) (unit : StatementUnit) (parameters : List Value) :
    Action (World κ τ) Outcome := do
  if split unit.sql = [] then
    World.say .debug "Statement is empty; nothing to execute"
    return none
  else
    let outcomes ← r.executeUnits [unit] [parameters]
    return outcomes.headD none

/-- **Runs a unit that is sent on its own and reports**; without a statement in it, it is reported
as a script of none. -/
def reportSent (r : Runner κ τ Conn Stmt) (unit : StatementUnit) (parameters : List Value) :
    Action (World κ τ) ScriptReport :=
  if split unit.sql = [] then r.report statementSource [] parameters (pure [])
  else r.report statementSource [unit] parameters (pure [parameters])

end Runner

/-- **Trimming does not change the statement.** The text that is sent for a statement has the
statements of the text that was given, unless that ends within quotes. In any case there is one in
the text that is sent exactly if there is one in the text that was given, and so a single statement
runs, and is reported, as if the text that is sent had been tested for a statement. -/
theorem split_parseStatement (text : String) :
    ((({} : Lexer).scan text.toList).region.isQuoted = false →
      split (parseStatement text).sql = split text) ∧
    (split (parseStatement text).sql = [] ↔ split text = []) ∧
    ∀ {κ τ Conn Stmt : Type} (r : Runner κ τ Conn Stmt) (parameters : List Value),
      r.runStatement text parameters = r.runSent (parseStatement text) parameters ∧
        r.reportStatement text parameters = r.reportSent (parseStatement text) parameters := by
  have hsent : split (parseStatement text).sql =
      (splitChars (statementText text.toList)).map String.ofList := by
    rw [split, parseStatement, StatementUnit.ofText, String.toList_ofList]
  have hempty : split (parseStatement text).sql = [] ↔ split text = [] := by
    rw [hsent, split, List.map_eq_nil_iff, List.map_eq_nil_iff]
    exact splitChars_eq_nil_iff text.toList
  refine ⟨fun h => ?_, hempty, fun r parameters => ⟨?_, ?_⟩⟩
  · rw [hsent, splitChars_statementText h]
    rfl
  · simp only [Runner.runStatement, Runner.runSent, hempty]
  · simp only [Runner.reportStatement, Runner.reportSent, hempty]

/-- The last semicolon stands in a comment, whose newline is one of the blanks that are taken
off. -/
theorem split_parseStatement_comment :
    (({} : Lexer).scan "\t/*;*/ SELECT ';' -- one;\n ".toList).region.isQuoted = false ∧
      (parseStatement "\t/*;*/ SELECT ';' -- one;\n ").sql = "/*;*/ SELECT ';' -- one" ∧
      split (parseStatement "\t/*;*/ SELECT ';' -- one;\n ").sql =
        split "\t/*;*/ SELECT ';' -- one;\n " ∧
      split "\t/*;*/ SELECT ';' -- one;\n " = ["SELECT ';'"] := by
  have h : (({} : Lexer).scan "\t/*;*/ SELECT ';' -- one;\n ".toList).region.isQuoted = false := by
    decide +kernel
  exact ⟨h, by decide +kernel, (split_parseStatement _).1 h, by decide +kernel⟩

end SqlScript
