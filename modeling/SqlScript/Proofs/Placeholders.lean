import SqlScript.Statement
import SqlScript.Proofs.Rereading
import Mathlib.Algebra.Ring.Nat

/-!
# Placeholders of a script and of its statements

Placeholders are counted on each statement on its own, after comments and line breaks are gone from
it. The statements together have as many as the script, and so has the script taken as one
statement.

* `countPlaceholdersFrom_append`, `countPlaceholders_trim`: counting in parts, and without blanks.
* `Splitter.placeholders`: the placeholders in all that a splitter holds.
* `Splitter.placeholders_step`, `Splitter.placeholders_scan`: a step adds the placeholder that it
  reads, if it does.
* `placeholders_parse`: **splitting neither loses nor makes up a placeholder.**
-/

namespace SqlScript

/-! ## Counting in parts -/

theorem countPlaceholdersFrom_append (s : Lexer) (as bs : List Char) :
    countPlaceholdersFrom s (as ++ bs) =
      countPlaceholdersFrom s as + countPlaceholdersFrom (s.scan as) bs := by
  induction as generalizing s with
  | nil => simp [countPlaceholdersFrom]
  | cons c as ih =>
    rw [List.cons_append, countPlaceholdersFrom, countPlaceholdersFrom, ih, Lexer.scan_cons,
      Nat.add_assoc]

/-- A text without question marks has no placeholders. -/
theorem countPlaceholdersFrom_of_forall_ne (s : Lexer) {cs : List Char} (h : ∀ c ∈ cs, c ≠ '?') :
    countPlaceholdersFrom s cs = 0 := by
  induction cs generalizing s with
  | nil => rfl
  | cons c cs ih =>
    have hc : ¬(s.region = .normal ∧ c = '?') := fun hq => h c List.mem_cons_self hq.2
    rw [countPlaceholdersFrom, if_neg hc, ih _ fun d hd => h d (List.mem_cons_of_mem _ hd)]

theorem countPlaceholdersFrom_of_isFresh {s : Lexer} (h : s.IsFresh) (cs : List Char) :
    countPlaceholdersFrom s cs = countPlaceholdersFrom {} cs := by
  cases cs with
  | nil => rfl
  | cons c cs => simp only [countPlaceholdersFrom, h.region, h.advance_eq]

/-- Blanks at the end hold no placeholders, wherever they are read. -/
theorem countPlaceholdersFrom_trimRight (s : Lexer) (cs : List Char) :
    countPlaceholdersFrom s (Text.trimRight cs) = countPlaceholdersFrom s cs := by
  obtain ⟨blanks, hblanks, h⟩ := Text.exists_trimRight cs
  have hnone := countPlaceholdersFrom_of_forall_ne (s.scan (Text.trimRight cs))
    fun c hc => (Text.ne_of_isBlank (hblanks c hc)).2.2.2.1
  calc countPlaceholdersFrom s (Text.trimRight cs)
      = countPlaceholdersFrom s (Text.trimRight cs ++ blanks) := by
        rw [countPlaceholdersFrom_append, hnone, Nat.add_zero]
    _ = countPlaceholdersFrom s cs := by rw [← h]

/-- **Trimming keeps the placeholders.** -/
theorem countPlaceholders_trim (cs : List Char) :
    countPlaceholdersFrom {} (Text.trim cs) = countPlaceholdersFrom {} cs := by
  obtain ⟨blanks, hblanks, h⟩ := Text.exists_trimLeft cs
  have hfresh := Lexer.isFresh_new.scan_blanks hblanks
  have hnone := countPlaceholdersFrom_of_forall_ne {}
    fun c hc => (Text.ne_of_isBlank (hblanks c hc)).2.2.2.1
  calc countPlaceholdersFrom {} (Text.trim cs)
      = countPlaceholdersFrom {} (Text.trimLeft cs) := countPlaceholdersFrom_trimRight {} _
    _ = countPlaceholdersFrom (({} : Lexer).scan blanks) (Text.trimLeft cs) :=
        (countPlaceholdersFrom_of_isFresh hfresh _).symm
    _ = countPlaceholdersFrom {} (blanks ++ Text.trimLeft cs) := by
        rw [countPlaceholdersFrom_append, hnone, Nat.zero_add]
    _ = countPlaceholdersFrom {} cs := by rw [← h]

/-- Dropping the terminator keeps the placeholders. -/
theorem countPlaceholders_statementText (cs : List Char) :
    countPlaceholdersFrom {} (statementText cs) = countPlaceholdersFrom {} cs := by
  unfold statementText
  simp only
  split
  · rename_i hlast
    obtain ⟨front, hfront⟩ := List.getLast?_eq_some_iff.1 hlast
    have hnone : countPlaceholdersFrom (({} : Lexer).scan front) [';'] = 0 :=
      countPlaceholdersFrom_of_forall_ne _ (by simp)
    rw [hfront, List.dropLast_concat]
    calc countPlaceholdersFrom {} (Text.trimRight front)
        = countPlaceholdersFrom {} front := countPlaceholdersFrom_trimRight {} front
      _ = countPlaceholdersFrom {} (front ++ [';']) := by
          rw [countPlaceholdersFrom_append, hnone, Nat.add_zero]
      _ = countPlaceholdersFrom {} cs := by rw [← hfront, countPlaceholders_trim]
  · exact countPlaceholders_trim cs

namespace Splitter

/-! ## The placeholders in a splitter -/

/-- The placeholders of statements, each read on its own. -/
def total (statements : List (List Char)) : Nat := (statements.map (countPlaceholdersFrom {})).sum

/-- **The placeholders in all that a splitter holds**: in the statements that are finished, and in
the one that is being collected. -/
def placeholders (s : Splitter) : Nat :=
  total s.finished + countPlaceholdersFrom {} s.buffer.reverse

/-- One more character is one more placeholder, if it is a question mark outside every region. -/
theorem countPlaceholders_cons (c : Char) (buffer : List Char) :
    countPlaceholdersFrom {} (c :: buffer).reverse = countPlaceholdersFrom {} buffer.reverse +
      if (reread buffer).region = .normal ∧ c = '?' then 1 else 0 := by
  rw [List.reverse_cons, countPlaceholdersFrom_append]
  rfl

theorem countPlaceholders_addSpace (buffer : List Char) :
    countPlaceholdersFrom {} (addSpace buffer).reverse =
      countPlaceholdersFrom {} buffer.reverse := by
  have hspace : ' ' ≠ '?' := by decide
  unfold addSpace
  split
  · rfl
  · split
    · rfl
    · rw [countPlaceholders_cons]
      simp only [hspace, and_false, if_false, Nat.add_zero]

theorem total_append (first rest : List (List Char)) :
    total (first ++ rest) = total first + total rest := by
  simp [total]

theorem total_reverse (statements : List (List Char)) :
    total statements.reverse = total statements := by
  simp [total, List.sum_reverse]

theorem total_emit (collected : List Char) :
    total (Scan.emit collected) = countPlaceholdersFrom {} collected := by
  rw [← countPlaceholders_trim collected]
  unfold Scan.emit
  split
  · rename_i hempty
    rw [hempty]
    rfl
  · simp [total]

/-- Ending a statement moves its placeholders to the finished ones. -/
theorem total_finished_finish (s : Splitter) : total s.finish.finished = s.placeholders := by
  rw [← total_reverse, finish_finished, total_append, total_reverse, total_emit]
  rfl

/-- **A step adds the placeholder that it reads**, if it reads one. -/
theorem placeholders_step {s : Splitter} (h : s.IsFaithful) (c : Char) :
    (s.step c).placeholders =
      s.placeholders + if s.lexer.region = .normal ∧ c = '?' then 1 else 0 := by
  have hregion := h.region
  generalize hs' : s.step c = s'
  have hstep : Step s c s' := hs' ▸ step_spec s c
  cases hstep with
  | @opens first r hr hfirst hp hc =>
    -- what is taken back is no question mark
    obtain ⟨buffer, hb⟩ := List.head?_eq_some_iff.1 ((h.opener hr first hfirst).2 hp)
    have hfirst' : first ≠ '?' := by rcases hfirst with rfl | rfl <;> decide
    simp only [placeholders, hb, List.tail_cons, countPlaceholders_cons, hfirst', hc, and_false,
      if_false, Nat.add_zero]
  | ends hr hc =>
    have hsemi : ';' ≠ '?' := by decide
    subst hc
    simp only [hsemi, and_false, if_false, Nat.add_zero]
    exact total_finished_finish s
  | separates hr hsep =>
    have hc := (Text.ne_of_isBlank (isBlank_of_isSeparator hsep)).2.2.2.1
    simp only [placeholders, countPlaceholders_addSpace, hc, and_false, if_false, Nat.add_zero]
  | keeps hr =>
    -- the question mark is outside every region in both readings
    rw [hr] at hregion
    have hsame : (reread s.buffer).region = .normal := hregion
    simp only [placeholders, countPlaceholders_cons, hsame, hr, Nat.add_assoc]
  | quotes hq =>
    have hnormal : s.lexer.region ≠ .normal := by
      intro hn
      rw [hn] at hq
      cases hq
    have hcomment : s.lexer.region.isComment = false := by
      revert hq
      cases s.lexer.region <;> decide
    rw [hcomment] at hregion
    have hsame : (reread s.buffer).region = s.lexer.region := hregion
    simp only [placeholders, countPlaceholders_cons, hsame, hnormal, false_and, if_false,
      Nat.add_zero]
  | closes hcomment | skips hcomment =>
    have hnormal : s.lexer.region ≠ .normal := by
      intro hn
      rw [hn] at hcomment
      cases hcomment
    simp only [placeholders, countPlaceholders_addSpace, hnormal, false_and, if_false, Nat.add_zero]

/-- **A text adds its placeholders.** -/
theorem placeholders_scan {s : Splitter} (h : s.IsFaithful) (cs : List Char) :
    (s.scan cs).placeholders = s.placeholders + countPlaceholdersFrom s.lexer cs := by
  induction cs generalizing s with
  | nil => rfl
  | cons c cs ih =>
    rw [scan_cons, ih (isFaithful_step h c), placeholders_step h, lexer_step, countPlaceholdersFrom,
      Nat.add_assoc]

end Splitter

/-! ## Scripts and statements -/

/-- The statements of a text have its placeholders. -/
theorem total_splitChars (cs : List Char) :
    Splitter.total (splitChars cs) = countPlaceholdersFrom {} cs := by
  rw [splitChars, Splitter.statements, Splitter.total_reverse, Splitter.total_finished_finish,
    Splitter.placeholders_scan Splitter.isFaithful_new]
  exact Nat.zero_add _

/-- **Splitting neither loses nor makes up a placeholder**: the units of a script have as many as
the script, and so has the unit of a text that is not split. -/
theorem placeholders_parse (text : String) :
    ((parseScript text).map (·.placeholderCount)).sum = countPlaceholders text ∧
      (parseStatement text).placeholderCount = countPlaceholders text := by
  constructor
  · have hcounts : (parseScript text).map (·.placeholderCount) =
        (splitChars text.toList).map (countPlaceholdersFrom {}) := by
      refine List.ext_getElem? fun i => ?_
      simp only [parseScript, split, List.getElem?_map, List.getElem?_mapIdx, Option.map_map]
      congr 1
      funext statement
      simp [StatementUnit.ofText, countPlaceholders]
    rw [hcounts]
    exact total_splitChars text.toList
  · have hcount := countPlaceholders_statementText text.toList
    simpa [parseStatement, StatementUnit.ofText, countPlaceholders] using hcount

end SqlScript
