import SqlScript.Proofs.Placeholders

/-!
# Scripts one after the other

Two scripts are joined to one by a semicolon. The second one is then read by the reader that the
first one leaves behind, with its lookback, and into what is left of its last statement. If the
first script ends outside every region, none of that reaches the second one: the semicolon ends the
statement, and what it leaves to look back at opens nothing.

* `Lexer.isFresh_semicolon`: behind a semicolon outside every region a reader is as good as new.
* `Splitter.statements_scan_of_isFresh`: a splitter that is as good as new adds the statements of
  the text to those it has.
* `splitChars_semicolon`, `countPlaceholdersFrom_semicolon`: splitting and counting in sequence.
* `StatementUnit.shift`: a unit of a script that stands behind another one.
* `parseScript_semicolon`: **scripts compose.**
-/

namespace SqlScript

/-! ## Behind the semicolon -/

/-- **Behind a semicolon outside every region a reader is as good as new**, whatever it looked back
at before. -/
theorem Lexer.isFresh_semicolon {s : Lexer} (h : s.region = .normal) : (s.advance ';').IsFresh := by
  have hblock : ¬(';' = '*' ∧ s.previous = some '/') := fun hc => absurd hc.1 (by decide)
  have hline : ¬(';' = '-' ∧ s.previous = some '-') := fun hc => absurd hc.1 (by decide)
  rw [advance_of_normal h hblock hline]
  exact isFresh_after (by decide) (by decide)

/-- **A splitter that is as good as new** and has collected nothing adds the statements of the text
to those that it has finished. -/
theorem Splitter.statements_scan_of_isFresh {s : Splitter} (h : s.lexer.IsFresh)
    (hbuffer : s.buffer = []) (cs : List Char) :
    (s.scan cs).statements = s.finished.reverse ++ splitChars cs := by
  have hnew : splitChars cs = Scan.statementsFrom [] cs :=
    Splitter.statements_scan cs (Lexer.isFresh_new.isClear cs)
  rw [statements_scan cs (h.isClear cs), hbuffer, hnew]
  rfl

/-! ## In sequence -/

section

variable {first : List Char} (h : (({} : Lexer).scan first).region = .normal)

include h

/-- **Splitting in sequence**: a semicolon behind a text that ends outside every region parts its
statements from those of what follows. -/
theorem splitChars_semicolon (second : List Char) :
    splitChars (first ++ ';' :: second) = splitChars first ++ splitChars second := by
  have hlexer : (Splitter.scan {} first).lexer = ({} : Lexer).scan first :=
    Splitter.lexer_scan {} first
  rw [← hlexer] at h
  have hfresh := Lexer.isFresh_semicolon h
  rw [← Splitter.lexer_step] at hfresh
  have hends := Splitter.step_semicolon h
  calc splitChars (first ++ ';' :: second)
      = (((Splitter.scan {} first).step ';').scan second).statements := by
        rw [splitChars, Splitter.scan_append, Splitter.scan_cons]
    _ = ((Splitter.scan {} first).step ';').finished.reverse ++ splitChars second :=
        Splitter.statements_scan_of_isFresh hfresh (by rw [hends]; rfl) second
    _ = splitChars first ++ splitChars second := by
        -- the semicolon finishes what the end of the first text would
        rw [hends]
        rfl

/-- **Counting in sequence.** -/
theorem countPlaceholdersFrom_semicolon (second : List Char) :
    countPlaceholdersFrom {} (first ++ ';' :: second) =
      countPlaceholdersFrom {} first + countPlaceholdersFrom {} second := by
  have hsemi : ¬((({} : Lexer).scan first).region = .normal ∧ ';' = '?') :=
    fun hc => absurd hc.2 (by decide)
  rw [countPlaceholdersFrom_append, countPlaceholdersFrom, if_neg hsemi, Nat.zero_add,
    countPlaceholdersFrom_of_isFresh (Lexer.isFresh_semicolon h)]

end

/-! ## Units -/

/-- **A unit of a script that stands behind `n` statements** of another one. -/
def StatementUnit.shift (n : Nat) (unit : StatementUnit) : StatementUnit :=
  { unit with index := unit.index + n }

theorem StatementUnit.ofText_add (i n : Nat) (sql : String) :
    ofText (i + n) sql = (ofText i sql).shift n := by
  unfold ofText shift
  simp only [Int.natCast_add]

/-- Numbering texts behind `n` others shifts their units. -/
theorem mapIdx_ofText_add (n : Nat) (sqls : List String) :
    sqls.mapIdx (fun i => StatementUnit.ofText (i + n)) =
      (sqls.mapIdx StatementUnit.ofText).map (·.shift n) := by
  refine List.ext_getElem? fun i => ?_
  have hshift : StatementUnit.ofText (i + n) = (·.shift n) ∘ StatementUnit.ofText i :=
    funext (StatementUnit.ofText_add i n)
  rw [List.getElem?_mapIdx, List.getElem?_map, List.getElem?_mapIdx, Option.map_map, hshift]

/-- **Scripts compose.** Behind a script that ends outside every region, whatever its last
characters are, a semicolon and a second script give the statements of both in order, as many
placeholders as both, and the units of both, those of the second one numbered on behind the
first. -/
theorem parseScript_semicolon {first : String}
    (h : (({} : Lexer).scan first.toList).region = .normal) (second : String) :
    split (first ++ ";" ++ second) = split first ++ split second ∧
      countPlaceholders (first ++ ";" ++ second) =
        countPlaceholders first + countPlaceholders second ∧
      parseScript (first ++ ";" ++ second) =
        parseScript first ++ (parseScript second).map (·.shift (split first).length) := by
  have hchars : (first ++ ";" ++ second).toList = first.toList ++ ';' :: second.toList := by simp
  have hsplit : split (first ++ ";" ++ second) = split first ++ split second := by
    rw [split, hchars, splitChars_semicolon h, List.map_append]
    rfl
  refine ⟨hsplit, ?_, ?_⟩
  · rw [countPlaceholders, hchars, countPlaceholdersFrom_semicolon h]
    rfl
  · rw [parseScript, hsplit, List.mapIdx_append, mapIdx_ofText_add]
    rfl

/-- Behind a dash, and in front of one: no comment opens across the semicolon. -/
theorem parseScript_semicolon_dash :
    (({} : Lexer).scan "SELECT ? /**/; SELECT 1 -".toList).region = .normal ∧
      split ("SELECT ? /**/; SELECT 1 -" ++ ";" ++ "- ?; ;'") =
        split "SELECT ? /**/; SELECT 1 -" ++ split "- ?; ;'" ∧
      parseScript ("SELECT ? /**/; SELECT 1 -" ++ ";" ++ "- ?; ;'") =
        [⟨0, "SELECT ?", 1⟩, ⟨1, "SELECT 1 -", 0⟩, ⟨2, "- ?", 1⟩, ⟨3, "'", 0⟩] := by
  have h : (({} : Lexer).scan "SELECT ? /**/; SELECT 1 -".toList).region = .normal := by
    decide +kernel
  obtain ⟨hsplit, -, hunits⟩ := parseScript_semicolon h "- ?; ;'"
  refine ⟨h, hsplit, hunits.trans ?_⟩
  decide +kernel

end SqlScript
