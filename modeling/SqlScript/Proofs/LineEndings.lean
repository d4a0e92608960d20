import SqlScript.Proofs.NormalForm
import SqlScript.Proofs.Comments

/-!
# Line endings

The same script with lines that end in a carriage return and a newline, and with lines that end in
a newline alone, has the same statements but for the line endings inside quotes, and the same number
of placeholders. In every region the two characters leave the reader where the newline alone does.
Of what the splitter collects, the image under the replacement is kept through every step.

* `lineEnding`, `withReturns`, `crlf`: the replacement.
* `Lexer.advance_return_newline`: the two characters are one newline to the reader.
* `Text.trim_withReturns`: trimming commutes with the replacement.
* `Splitter.returned`: a splitter that has collected what another one has, with its line endings
  replaced.
* `Splitter.scan_lineEnding`, `Splitter.scan_withReturns`: what a character does to the one, its
  replacement does to the other; so does a text.
* `Lexer.isQuoted_of_isPlain`: a newline in a plain text, such as a statement, stands within quotes.
* `split_crlf`: **line endings do not matter.**
-/

namespace SqlScript

/-! ## The replacement -/

/-- A newline as a carriage return and a newline; any other character as it is. -/
def lineEnding (c : Char) : List Char := if c = '\n' then ['\r', '\n'] else [c]

/-- **A text with each newline replaced** by a carriage return and a newline. -/
def withReturns (cs : List Char) : List Char := cs.flatMap lineEnding

/-- **A text with each newline replaced**, as a string. -/
def crlf (text : String) : String := String.ofList (withReturns text.toList)

theorem lineEnding_of_ne {c : Char} (h : c ≠ '\n') : lineEnding c = [c] := if_neg h

theorem withReturns_cons (c : Char) (cs : List Char) :
    withReturns (c :: cs) = lineEnding c ++ withReturns cs := List.flatMap_cons

/-- The last character of a line ending is the character itself. -/
theorem reverse_lineEnding (c : Char) : ∃ front, (lineEnding c).reverse = c :: front := by
  unfold lineEnding
  split
  · rename_i h
    exact ⟨['\r'], by rw [h]; rfl⟩
  · exact ⟨[], rfl⟩

/-- No text becomes empty. -/
theorem withReturns_eq_nil_iff {cs : List Char} : withReturns cs = [] ↔ cs = [] := by
  cases cs with
  | nil => exact Iff.rfl
  | cons c cs =>
    obtain ⟨front, hlast⟩ := reverse_lineEnding c
    have hsome : lineEnding c ≠ [] := by
      intro hnil
      rw [hnil] at hlast
      cases hlast
    rw [withReturns_cons, List.append_eq_nil_iff]
    exact iff_of_false (fun h => hsome h.1) (List.cons_ne_nil c cs)

/-! ## The reader -/

namespace Lexer

/-- **A carriage return and a newline are one newline to the reader**, in every region and whatever
it looks back at. -/
theorem advance_return_newline (s : Lexer) : (s.advance '\r').advance '\n' = s.advance '\n' := by
  obtain ⟨region, previous⟩ := s
  cases region with
  | normal | doubleQuote | singleQuote | blockComment => simp [advance, Region.ofQuote?]
  | lineComment => simp [advance]

/-- A comment opens behind a slash or a dash only. -/
theorem exists_previous_of_isComment {s : Lexer} {c : Char} (hr : s.region = .normal)
    (h : (s.advance c).region.isComment = true) :
    ∃ first, (first = '/' ∨ first = '-') ∧ s.previous = some first := by
  by_cases hblock : c = '*' ∧ s.previous = some '/'
  · exact ⟨'/', .inl rfl, hblock.2⟩
  · by_cases hline : c = '-' ∧ s.previous = some '-'
    · exact ⟨'-', .inr rfl, hline.2⟩
    · rw [advance_of_normal hr hblock hline, Region.ofQuote?_ne_comment] at h
      cases h

theorem scan_lineEnding (s : Lexer) (c : Char) : s.scan (lineEnding c) = s.advance c := by
  by_cases h : c = '\n'
  · rw [h]
    exact advance_return_newline s
  · rw [lineEnding_of_ne h]
    rfl

end Lexer

/-- No line ending holds a placeholder, and so replacing them keeps the placeholders. -/
theorem countPlaceholdersFrom_withReturns (s : Lexer) (cs : List Char) :
    countPlaceholdersFrom s (withReturns cs) = countPlaceholdersFrom s cs := by
  induction cs generalizing s with
  | nil => rfl
  | cons c cs ih =>
    have hfirst : countPlaceholdersFrom s (lineEnding c) = countPlaceholdersFrom s [c] := by
      by_cases h : c = '\n'
      · have hending : countPlaceholdersFrom s (lineEnding '\n') = 0 :=
          countPlaceholdersFrom_of_forall_ne s (by simp [lineEnding])
        have hnewline : countPlaceholdersFrom s ['\n'] = 0 :=
          countPlaceholdersFrom_of_forall_ne s (by simp)
        rw [h, hending, hnewline]
      · rw [lineEnding_of_ne h]
    have hsplit := countPlaceholdersFrom_append s [c] cs
    rw [withReturns_cons, countPlaceholdersFrom_append, ih, Lexer.scan_lineEnding, hfirst]
    exact hsplit.symm

/-! ## Trimming -/

namespace Text

theorem isBlank_of_mem_lineEnding {c d : Char} (hc : isBlank c = true) (hd : d ∈ lineEnding c) :
    isBlank d = true := by
  by_cases h : c = '\n'
  · subst h
    rcases List.mem_cons.1 hd with rfl | hd
    · decide
    · rw [List.mem_singleton.1 hd]
      decide
  · rw [lineEnding_of_ne h, List.mem_singleton] at hd
    rw [hd]
    exact hc

/-- **Dropping blanks commutes with a replacement** that makes blanks of blanks, and keeps every
other character. -/
theorem dropWhile_flatMap {f : Char → List Char} (hblank : ∀ c, isBlank c = true →
    ∀ d ∈ f c, isBlank d = true) (hother : ∀ c, isBlank c = false → f c = [c]) (cs : List Char) :
    (cs.flatMap f).dropWhile isBlank = (cs.dropWhile isBlank).flatMap f := by
  induction cs with
  | nil => rfl
  | cons c cs ih =>
    rw [List.flatMap_cons]
    cases hc : isBlank c with
    | true =>
      rw [List.dropWhile_append_of_pos (hblank c hc), ih, List.dropWhile_cons_of_pos hc]
    | false =>
      have hnot : ¬isBlank c = true := by simp [hc]
      rw [hother c hc, List.dropWhile_cons_of_neg hnot, List.singleton_append,
        List.dropWhile_cons_of_neg hnot, List.flatMap_cons, hother c hc, List.singleton_append]

theorem lineEnding_of_isBlank_eq_false {c : Char} (h : isBlank c = false) : lineEnding c = [c] := by
  refine lineEnding_of_ne ?_
  rintro rfl
  exact absurd h (by decide)

theorem trimLeft_withReturns (cs : List Char) :
    trimLeft (withReturns cs) = withReturns (trimLeft cs) :=
  dropWhile_flatMap (fun _ hc _ hd => isBlank_of_mem_lineEnding hc hd)
    (fun _ hc => lineEnding_of_isBlank_eq_false hc) cs

/-- From the end, each line ending is met the other way round. -/
theorem trimRight_withReturns (cs : List Char) :
    trimRight (withReturns cs) = withReturns (trimRight cs) := by
  have hreverse : ∀ cs : List Char,
      (withReturns cs).reverse = cs.reverse.flatMap (List.reverse ∘ lineEnding) :=
    fun _ => List.reverse_flatMap
  have hdrop := dropWhile_flatMap (f := List.reverse ∘ lineEnding)
    (fun c hc d hd => isBlank_of_mem_lineEnding hc (List.mem_reverse.1 hd))
    (fun c hc => by rw [Function.comp_apply, lineEnding_of_isBlank_eq_false hc]; rfl) cs.reverse
  calc trimRight (withReturns cs)
      = ((cs.reverse.dropWhile isBlank).flatMap (List.reverse ∘ lineEnding)).reverse := by
        rw [trimRight, hreverse, hdrop]
    _ = (withReturns (trimRight cs)).reverse.reverse := by
        rw [hreverse, trimRight, List.reverse_reverse]
    _ = withReturns (trimRight cs) := List.reverse_reverse _

/-- **Trimming commutes with replacing line endings**, also of a text that ends in one. -/
theorem trim_withReturns (cs : List Char) : trim (withReturns cs) = withReturns (trim cs) := by
  rw [trim, trim, trimLeft_withReturns, trimRight_withReturns]

end Text

/-! ## The splitter -/

namespace Splitter

/-- What is collected, last character first, with its line endings replaced. -/
def returnedBuffer (buffer : List Char) : List Char := (withReturns buffer.reverse).reverse

/-- **A splitter that has collected what another one has**, with line endings replaced. -/
def returned (s : Splitter) : Splitter :=
  { s with buffer := returnedBuffer s.buffer, finished := s.finished.map withReturns }

theorem returnedBuffer_cons (c : Char) (buffer : List Char) :
    returnedBuffer (c :: buffer) = (lineEnding c).reverse ++ returnedBuffer buffer := by
  have happend : withReturns (buffer.reverse ++ [c]) =
      withReturns buffer.reverse ++ lineEnding c := by
    rw [withReturns, List.flatMap_append, List.flatMap_singleton]
    rfl
  rw [returnedBuffer, List.reverse_cons, happend, List.reverse_append]
  rfl

theorem returnedBuffer_cons_of_ne {c : Char} (h : c ≠ '\n') (buffer : List Char) :
    returnedBuffer (c :: buffer) = c :: returnedBuffer buffer := by
  rw [returnedBuffer_cons, lineEnding_of_ne h]
  rfl

/-- A separator is needed in the one exactly if it is in the other. -/
theorem addSpace_returnedBuffer (buffer : List Char) :
    addSpace (returnedBuffer buffer) = returnedBuffer (addSpace buffer) := by
  cases buffer with
  | nil => rfl
  | cons c buffer =>
    obtain ⟨front, hlast⟩ := reverse_lineEnding c
    have hcons : returnedBuffer (c :: buffer) = c :: (front ++ returnedBuffer buffer) := by
      rw [returnedBuffer_cons, hlast, List.cons_append]
    rw [hcons, addSpace, addSpace]
    by_cases hc : Text.isBlank c = true
    · rw [if_pos hc, if_pos hc, hcons]
    · rw [if_neg hc, if_neg hc, returnedBuffer_cons_of_ne (by decide), hcons]

/-- Behind a separator no second one is needed. -/
theorem addSpace_addSpace (buffer : List Char) : addSpace (addSpace buffer) = addSpace buffer := by
  cases hhead : (addSpace buffer).head? with
  | none =>
    rw [List.head?_eq_none_iff.1 hhead]
    rfl
  | some c =>
    have hblank := isBlank_of_head?_addSpace hhead
    obtain ⟨rest, hrest⟩ := List.head?_eq_some_iff.1 hhead
    rw [hrest, addSpace, if_pos hblank]

/-- **Statements end in both alike.** -/
theorem finish_returned (s : Splitter) : s.returned.finish = s.finish.returned := by
  have htrim : Text.trim (returnedBuffer s.buffer).reverse =
      withReturns (Text.trim s.buffer.reverse) := by
    rw [returnedBuffer, List.reverse_reverse, Text.trim_withReturns]
  have hempty : (withReturns (Text.trim s.buffer.reverse)).isEmpty =
      (Text.trim s.buffer.reverse).isEmpty := by
    rw [Bool.eq_iff_iff, List.isEmpty_iff, List.isEmpty_iff, withReturns_eq_nil_iff]
  unfold finish returned
  simp only [htrim, hempty]
  by_cases h : (Text.trim s.buffer.reverse).isEmpty = true
  · rw [if_pos h, if_pos h]
    rfl
  · rw [if_neg h, if_neg h]
    rfl

/-- Taking back the opener of a comment, which is no line ending. -/
theorem tail_returnedBuffer {first : Char} {buffer : List Char} (hhead : buffer.head? = some first)
    (hfirst : first = '/' ∨ first = '-') :
    (returnedBuffer buffer).tail = returnedBuffer buffer.tail := by
  obtain ⟨rest, rfl⟩ := List.head?_eq_some_iff.1 hhead
  have hne : first ≠ '\n' := by rcases hfirst with rfl | rfl <;> decide
  rw [returnedBuffer_cons_of_ne hne, List.tail_cons, List.tail_cons]

/-- **A line ending does to both alike**, in every region: it is one separator, or is kept as it
stands within quotes, or is dropped. -/
theorem scan_return_newline (s : Splitter) :
    s.returned.scan ['\r', '\n'] = (s.step '\n').returned := by
  cases hr : s.lexer.region with
  | normal =>
    have hreturn := step_separator (s := s.returned) (c := '\r') hr rfl
    have hnewline := step_separator (s := s.returned.step '\r') (c := '\n') (by rw [hreturn]) rfl
    rw [scan_cons, scan_cons, scan_nil, hnewline, hreturn, step_separator hr rfl]
    simp only [returned, addSpace_returnedBuffer, addSpace_addSpace]
  | doubleQuote | singleQuote =>
    simp [step, returned, Lexer.advance, hr, Region.ofQuote?, returnedBuffer_cons, lineEnding]
  | blockComment => simp [step, returned, Lexer.advance, hr]
  | lineComment => simp [step, returned, Lexer.advance, Lexer.enter, hr, addSpace_returnedBuffer]

/-- A step that only changes what is collected, in a way that commutes with the replacement, does to
both alike. -/
theorem step_returned_of_buffer {s : Splitter} {c : Char} (f : List Char → List Char)
    (hstep : ∀ t : Splitter, t.lexer = s.lexer →
      t.step c = { t with lexer := s.lexer.advance c, buffer := f t.buffer })
    (hbuffer : f (returnedBuffer s.buffer) = returnedBuffer (f s.buffer)) :
    s.returned.step c = (s.step c).returned := by
  rw [hstep s.returned rfl, hstep s rfl]
  simp only [returned, hbuffer]

/-- **Any other character does to both alike.** -/
theorem step_returned {s : Splitter} (h : s.IsFaithful) {c : Char} (hc : c ≠ '\n') :
    s.returned.step c = (s.step c).returned := by
  have hkept : c :: returnedBuffer s.buffer = returnedBuffer (c :: s.buffer) :=
    (returnedBuffer_cons_of_ne hc s.buffer).symm
  -- both read with the same reader, so each case says what a splitter with that reader does
  cases hr : s.lexer.region with
  | normal =>
    by_cases hcomment : (s.lexer.advance c).region.isComment = true
    · obtain ⟨first, hfirst, hprevious⟩ := Lexer.exists_previous_of_isComment hr hcomment
      have hhead := (h.opener hr first hfirst).2 hprevious
      refine step_returned_of_buffer List.tail ?_ (tail_returnedBuffer hhead hfirst)
      intro t ht
      simp [step, ht, hr, hcomment]
    · by_cases hsemi : c = ';'
      · rw [hsemi, step_semicolon (s := s.returned) hr, step_semicolon hr]
        exact finish_returned { s with lexer := ⟨.normal, some ';'⟩ }
      · by_cases hsep : isSeparator c = true
        · refine step_returned_of_buffer addSpace ?_ (addSpace_returnedBuffer s.buffer)
          intro t ht
          simp [step, ht, hr, hcomment, hsemi, hsep]
        · refine step_returned_of_buffer (c :: ·) ?_ hkept
          intro t ht
          simp [step, ht, hr, hcomment, hsemi, hsep]
  | doubleQuote | singleQuote =>
    refine step_returned_of_buffer (c :: ·) ?_ hkept
    intro t ht
    simp [step, ht, hr]
  | blockComment | lineComment =>
    by_cases hends : (s.lexer.advance c).region = .normal
    · refine step_returned_of_buffer addSpace ?_ (addSpace_returnedBuffer s.buffer)
      intro t ht
      simp [step, ht, hr, hends]
    · refine step_returned_of_buffer id ?_ rfl
      intro t ht
      simp [step, ht, hr, hends]

/-- **A character does to the one what its replacement does to the other.** -/
theorem scan_lineEnding {s : Splitter} (h : s.IsFaithful) (c : Char) :
    s.returned.scan (lineEnding c) = (s.step c).returned := by
  by_cases hc : c = '\n'
  · rw [hc]
    exact scan_return_newline s
  · rw [lineEnding_of_ne hc, scan_cons, scan_nil, step_returned h hc]

/-- **A text does to the one what its replacement does to the other.** -/
theorem scan_withReturns {s : Splitter} (h : s.IsFaithful) (cs : List Char) :
    s.returned.scan (withReturns cs) = (s.scan cs).returned := by
  induction cs generalizing s with
  | nil => rfl
  | cons c cs ih =>
    rw [withReturns_cons, scan_append, scan_lineEnding h, ih (isFaithful_step h c), scan_cons]

/-- The statements of the one are those of the other with line endings replaced. -/
theorem statements_returned (s : Splitter) :
    s.returned.statements = s.statements.map withReturns := by
  rw [statements, finish_returned, statements, List.map_reverse]
  rfl

end Splitter

/-! ## Scripts -/

/-- **Splitting commutes with replacing line endings.** -/
theorem splitChars_withReturns (cs : List Char) :
    splitChars (withReturns cs) = (splitChars cs).map withReturns := by
  have hscan := Splitter.scan_withReturns Splitter.isFaithful_new cs
  rw [splitChars, splitChars, ← Splitter.statements_returned, ← hscan]
  rfl

/-- **A newline in a plain text stands within quotes.** -/
theorem Lexer.isQuoted_of_isPlain {before behind : List Char}
    (h : ({} : Lexer).IsPlain (before ++ '\n' :: behind)) :
    (({} : Lexer).scan before).region.isQuoted = true := by
  obtain ⟨hbefore, -, hnewline, -⟩ := isPlain_append.1 h
  have hcomment := isComment_scan_of_isPlain rfl hbefore
  revert hcomment hnewline
  cases (({} : Lexer).scan before).region with
  | normal => exact fun hnewline => absurd (hnewline rfl).2 (by decide)
  | doubleQuote | singleQuote => exact fun _ _ => rfl
  | blockComment | lineComment => exact fun _ hcomment => nomatch hcomment

/-- **Line endings do not matter.** A script whose lines end in a carriage return and a newline has
the statements of the same script with newlines alone, with their newlines replaced likewise, and as
many placeholders. The newlines that are left in statements all stand within quotes. -/
theorem split_crlf (script : String) :
    split (crlf script) = (split script).map crlf ∧
      countPlaceholders (crlf script) = countPlaceholders script ∧
      ∀ statement ∈ split script, ∀ before behind,
        statement.toList = before ++ '\n' :: behind →
          (({} : Lexer).scan before).region.isQuoted = true := by
  refine ⟨?_, ?_, ?_⟩
  · rw [split, crlf, String.toList_ofList, splitChars_withReturns, split, List.map_map,
      List.map_map]
    refine List.map_congr_left fun statement _ => ?_
    rw [Function.comp_apply, Function.comp_apply, crlf, String.toList_ofList]
  · rw [countPlaceholders, crlf, String.toList_ofList, countPlaceholdersFrom_withReturns]
    rfl
  · intro statement hmem before behind hnewline
    obtain ⟨chars, hchars, rfl⟩ := List.mem_map.1 hmem
    have hplain := ((areNormal_splitChars script.toList).normal chars hchars).plain
    rw [String.toList_ofList] at hnewline
    rw [hnewline] at hplain
    exact Lexer.isQuoted_of_isPlain hplain

/-- A star and a slash on two lines do not end a comment, and a line ending within quotes stays. -/
example : split (crlf "a /* *\n/ */\n'b\n' --\n;\n\"c\n") = ["a 'b\r\n'", "\"c"] := by
  decide +kernel

end SqlScript
