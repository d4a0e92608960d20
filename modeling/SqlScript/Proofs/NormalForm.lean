import SqlScript.Proofs.Rereading

/-!
# The normal form of statements

The statements of a script are in normal form: splitting one of them again gives just that one, and
splitting all of them, joined by semicolons, gives them back.

* `IsNormal`: a statement in normal form.
* `AreNormal`: statements in normal form, all but the last one with closed quotes.
* `splitChars_of_isNormal`, `splitChars_intercalate`: what is in normal form is split as it is.
* `Splitter.isTidy_step`, `areNormal_splitChars`: the splitter finishes statements in normal form
  only.
* `split_split`: **the statements of a script are in normal form.**
-/

namespace SqlScript

/-- **A statement in normal form**: it is not empty, has no blanks at its ends and no comment in it,
and outside quotes it has no semicolon, line break or tab. -/
structure IsNormal (statement : List Char) : Prop where
  nonempty : statement ≠ []
  trimmed : Text.trim statement = statement
  plain : ({} : Lexer).IsPlain statement

/-- A text that ends outside every region. -/
def IsClosed (statement : List Char) : Prop := (({} : Lexer).scan statement).region = .normal

/-- **Statements in normal form**, of which only the last one may end within quotes. -/
structure AreNormal (statements : List (List Char)) : Prop where
  normal : ∀ statement ∈ statements, IsNormal statement
  closed : ∀ statement ∈ statements.dropLast, IsClosed statement

theorem emit_of_isNormal {statement : List Char} (h : IsNormal statement) :
    Scan.emit statement = [statement] := by
  rw [Scan.emit, h.trimmed, if_neg h.nonempty]

/-- What is emitted of a plain text is in normal form, and ends where the text does. -/
theorem isNormal_of_mem_emit {collected statement : List Char}
    (hplain : ({} : Lexer).IsPlain collected) (h : statement ∈ Scan.emit collected) :
    IsNormal statement ∧
      (({} : Lexer).scan statement).region = (({} : Lexer).scan collected).region := by
  unfold Scan.emit at h
  split at h
  · exact absurd h List.not_mem_nil
  · rename_i hne
    obtain rfl := List.mem_singleton.1 h
    obtain ⟨htrim, hregion⟩ := Lexer.isPlain_trim hplain
    exact ⟨⟨hne, Text.trim_trim collected, htrim⟩, hregion⟩

namespace Splitter

/-! ## Splitting statements in normal form -/

/-- Statements in normal form, joined by semicolons, are finished one after the other. -/
theorem statements_scan_intercalate {s : Splitter} {statements : List (List Char)}
    (hs : s.lexer.IsFresh) (hbuffer : s.buffer = []) (h : AreNormal statements) :
    (s.scan ([';'].intercalate statements)).statements = s.finished.reverse ++ statements := by
  -- behind each semicolon the splitter is where it began, with one more statement finished
  induction statements generalizing s with
  | nil => rw [List.intercalate_nil, scan_nil, statements_eq, hbuffer]; rfl
  | cons first rest ih =>
    have hfirst := h.normal first List.mem_cons_self
    have hscan : s.scan first =
        { s with lexer := s.lexer.scan first, buffer := first.reverse ++ s.buffer } :=
      scan_of_isPlain (by rw [hs.region]; rfl) ((hs.isPlain_iff first).2 hfirst.plain)
    rw [hbuffer, List.append_nil] at hscan
    cases rest with
    | nil =>
      rw [List.intercalate_singleton, hscan, statements_eq]
      simp only [List.reverse_reverse, emit_of_isNormal hfirst]
    | cons second rest =>
      have hclosed : IsClosed first := h.closed first (by simp)
      have hregion : (s.lexer.scan first).region = .normal := (hs.region_scan first).trans hclosed
      rw [List.intercalate_cons_cons, List.append_assoc, scan_append, hscan, List.singleton_append,
        scan_cons, step_semicolon hregion, ih (Lexer.isFresh_after (by decide) (by decide)) rfl]
      · rw [finish_finished, List.reverse_reverse, emit_of_isNormal hfirst, List.append_assoc]
        rfl
      · exact ⟨fun x hx => h.normal x (List.mem_cons_of_mem _ hx),
          fun x hx => h.closed x (by
            rw [List.dropLast_cons_of_ne_nil (List.cons_ne_nil _ _)]
            exact List.mem_cons_of_mem _ hx)⟩

/-! ## What the splitter finishes -/

/-- **A tidy splitter**: it is faithful, and what it has finished is in normal form and closed. -/
structure IsTidy (s : Splitter) : Prop extends IsFaithful s where
  finished : ∀ statement ∈ s.finished, IsNormal statement ∧ IsClosed statement

/-- A faithful splitter outside every region finishes a closed statement in normal form. -/
theorem finished_finish {s : Splitter} (h : s.IsTidy) (hr : s.lexer.region = .normal) :
    ∀ statement ∈ s.finish.finished, IsNormal statement ∧ IsClosed statement := by
  intro statement hmem
  rw [← List.mem_reverse, finish_finished, List.mem_append, List.mem_reverse] at hmem
  rcases hmem with hmem | hmem
  · exact h.finished statement hmem
  · obtain ⟨hnormal, hregion⟩ := isNormal_of_mem_emit h.plain hmem
    have hcollected : (reread s.buffer).region = .normal := by rw [h.region, hr]; rfl
    exact ⟨hnormal, hregion.trans hcollected⟩

/-- **The splitter stays tidy with every step.** -/
theorem isTidy_step {s : Splitter} (h : s.IsTidy) (c : Char) : (s.step c).IsTidy := by
  refine ⟨isFaithful_step h.toIsFaithful c, ?_⟩
  generalize hs' : s.step c = s'
  have hstep : Step s c s' := hs' ▸ step_spec s c
  cases hstep with
  | ends hr =>
    have hfinish := finished_finish h hr
    exact hfinish
  | opens | separates | keeps | quotes | closes | skips => exact h.finished

theorem isTidy_scan {s : Splitter} (h : s.IsTidy) (cs : List Char) : (s.scan cs).IsTidy := by
  induction cs generalizing s with
  | nil => exact h
  | cons c cs ih => exact ih (isTidy_step h c)

end Splitter

/-! ## The statements of a script -/

/-- A statement in normal form is split as it is. -/
theorem splitChars_of_isNormal {statement : List Char} (h : IsNormal statement) :
    splitChars statement = [statement] := by
  have hone : AreNormal [statement] := ⟨by simpa using h, fun _ hx => nomatch hx⟩
  have hsplit := Splitter.statements_scan_intercalate (s := {}) Lexer.isFresh_new rfl hone
  rwa [List.intercalate_singleton] at hsplit

/-- Statements in normal form are split as they are. -/
theorem splitChars_intercalate {statements : List (List Char)} (h : AreNormal statements) :
    splitChars ([';'].intercalate statements) = statements :=
  Splitter.statements_scan_intercalate (s := {}) Lexer.isFresh_new rfl h

/-- The statements of a script are in normal form. -/
theorem areNormal_splitChars (cs : List Char) : AreNormal (splitChars cs) := by
  have h : (Splitter.scan {} cs).IsTidy :=
    Splitter.isTidy_scan ⟨Splitter.isFaithful_new, fun _ hx => nomatch hx⟩ cs
  have hlast := fun x (hx : x ∈ _) => isNormal_of_mem_emit h.plain hx
  rw [splitChars, Splitter.statements_eq]
  generalize Splitter.scan {} cs = s at h hlast ⊢
  constructor
  · intro statement hmem
    rcases List.mem_append.1 hmem with hmem | hmem
    · exact (h.finished statement (List.mem_reverse.1 hmem)).1
    · exact (hlast statement hmem).1
  · -- the statement that the end of the text finishes, if there is one, is the last
    intro statement hmem
    have hfinished : statement ∈ s.finished.reverse := by
      unfold Scan.emit at hmem
      split at hmem
      · rw [List.append_nil] at hmem
        exact List.dropLast_subset _ hmem
      · rwa [List.dropLast_concat] at hmem
    exact (h.finished statement (List.mem_reverse.1 hfinished)).2

/-- **The statements of a script are in normal form**: split again, joined by semicolons or each on
its own, they are what they are; and all but the last leave the reader outside every region. -/
theorem split_split (script : String) :
    split (";".intercalate (split script)) = split script ∧
      (∀ statement ∈ split script, split statement = [statement] ∧ IsNormal statement.toList) ∧
      ∀ statement ∈ (split script).dropLast,
        (({} : Lexer).scan statement.toList).region = .normal := by
  have h := areNormal_splitChars script.toList
  refine ⟨?_, ?_, ?_⟩
  · have hchars : (";".intercalate (split script)).toList =
        [';'].intercalate (splitChars script.toList) := by
      rw [String.toList_intercalate, split, List.map_map]
      simp [Function.comp_def]
    rw [split, hchars, splitChars_intercalate h]
    rfl
  · intro statement hmem
    obtain ⟨chars, hchars, rfl⟩ := List.mem_map.1 hmem
    have hnormal := h.normal chars hchars
    rw [split, String.toList_ofList, splitChars_of_isNormal hnormal]
    exact ⟨rfl, hnormal⟩
  · intro statement hmem
    rw [split, ← List.map_dropLast] at hmem
    obtain ⟨chars, hchars, rfl⟩ := List.mem_map.1 hmem
    rw [String.toList_ofList]
    exact h.closed chars hchars

/-- A comment leaves a space, so that what stood around it opens no other one. -/
example : split "a -/**/- b; c" = ["a - - b", "c"] := by decide +kernel

end SqlScript
