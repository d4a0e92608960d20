import SqlScript.Proofs.NormalForm
import SqlScript.Proofs.PoolAccounts
import SqlScript.Proofs.Terminators
import SqlScript.Sqlite.Prepared

/-!
# Statements that ask for an explanation

To prepare a statement is to have it explained, unless it asks for an explanation itself, which its
first word tells. A statement out of a script begins with its first word. A statement that was given
on its own may have something in front of it that the splitter would take away: a semicolon or a
comment.

* `firstWord`: what a text begins with, as far as the splitter keeps it as it is.
* `Scan.firstWord_of_statementsFrom`: the first statement begins with the first word of its text.
* `firstWord_splitChars`: so it does behind blanks, unless the text has a preamble.
* `Sqlite.firstRequest_prepare`: what preparing a statement asks for first.
* `Sqlite.preparesAlike_iff`: **a statement is prepared on its own as it is in a script** exactly if
  it asks for no explanation, or stands in front.
-/

namespace SqlScript

/-! ## First words -/

/-- **A character of a word**: no blank, and nothing that ends a statement or begins a region. -/
def isWordCharacter (c : Char) : Bool :=
  !(Text.isBlank c || c == ';' || c == '/' || c == '-' || c == '\'' || c == '"')

/-- **The first word of a text**, up to a character that belongs to no word. -/
def firstWord (cs : List Char) : List Char := cs.takeWhile isWordCharacter

theorem isWordCharacter_of_isBlank {c : Char} (h : Text.isBlank c = true) :
    isWordCharacter c = false := by
  simp [isWordCharacter, h]

theorem IsTerminator.isWordCharacter {c : Char} (h : IsTerminator c) :
    isWordCharacter c = false := by
  rcases h with h | rfl
  · exact isWordCharacter_of_isBlank h
  · decide

theorem ne_of_isWordCharacter {c : Char} (h : isWordCharacter c = true) :
    Text.isBlank c = false ∧ c ≠ ';' ∧ c ≠ '/' ∧ c ≠ '-' ∧ ¬(c = '\'' ∨ c = '"') ∧
      ¬(c = '\n' ∨ c = '\r' ∨ c = '\t') := by
  simp only [isWordCharacter, Bool.not_eq_true', Bool.or_eq_false_iff, beq_eq_false_iff_ne] at h
  obtain ⟨⟨⟨⟨⟨hblank, hsemi⟩, hslash⟩, hdash⟩, hsingle⟩, hdouble⟩ := h
  refine ⟨hblank, hsemi, hslash, hdash, not_or.2 ⟨hsingle, hdouble⟩, ?_⟩
  rintro (rfl | rfl | rfl) <;> exact absurd hblank (by decide)

theorem firstWord_cons_of_pos {c : Char} (h : isWordCharacter c = true) (cs : List Char) :
    firstWord (c :: cs) = c :: firstWord cs := List.takeWhile_cons_of_pos h

theorem firstWord_cons_of_neg {c : Char} (h : isWordCharacter c = false) (cs : List Char) :
    firstWord (c :: cs) = [] := List.takeWhile_cons_of_neg (by simp [h])

/-- A word and what follows it. -/
theorem firstWord_append_of_pos {word : List Char} (h : ∀ c ∈ word, isWordCharacter c = true)
    (cs : List Char) : firstWord (word ++ cs) = word ++ firstWord cs :=
  List.takeWhile_append_of_pos h

/-- What belongs to no word does not count behind a text. -/
theorem firstWord_append_of_neg {behind : List Char}
    (h : ∀ c ∈ behind, isWordCharacter c = false) (cs : List Char) :
    firstWord (cs ++ behind) = firstWord cs := by
  induction cs with
  | nil =>
    cases behind with
    | nil => rfl
    | cons c behind => exact firstWord_cons_of_neg (h c List.mem_cons_self) behind
  | cons c cs ih =>
    cases hc : isWordCharacter c with
    | true => rw [List.cons_append, firstWord_cons_of_pos hc, firstWord_cons_of_pos hc, ih]
    | false => rw [List.cons_append, firstWord_cons_of_neg hc, firstWord_cons_of_neg hc]

theorem firstWord_trimRight (cs : List Char) : firstWord (Text.trimRight cs) = firstWord cs := by
  obtain ⟨blanks, hblanks, h⟩ := Text.exists_trimRight cs
  rw [← firstWord_append_of_neg fun c hc => isWordCharacter_of_isBlank (hblanks c hc), ← h]

/-! ## The first word of a statement -/

namespace Scan

variable {buffer : List Char}

/-- What was collected is emitted, if it begins with no blank. -/
theorem emit_of_head? {d : Char} (hhead : buffer.head? = some d) (hd : Text.isBlank d = false) :
    emit buffer = [Text.trimRight buffer] := by
  have hleft : Text.trimLeft buffer = buffer := by
    refine Text.trimLeft_of_head? fun c hc => ?_
    obtain rfl := Option.some.inj (hc.symm.trans hhead)
    exact hd
  have hne : Text.trimRight buffer ≠ [] := by
    intro hempty
    obtain ⟨blanks, hblanks, h⟩ := Text.exists_trimRight buffer
    rw [hempty, List.nil_append] at h
    rw [h] at hhead
    rw [hblanks d (List.mem_of_head? hhead)] at hd
    cases hd
  rw [emit, Text.trim, hleft, if_neg hne]

theorem exists_separate (buffer : List Char) : ∃ space, separate buffer = buffer ++ space := by
  unfold separate
  split
  · exact ⟨[], (List.append_nil buffer).symm⟩
  · split
    · exact ⟨[], (List.append_nil buffer).symm⟩
    · exact ⟨[' '], rfl⟩

theorem head?_append_of_some {d : Char} (hhead : buffer.head? = some d) (more : List Char) :
    (buffer ++ more).head? = some d := by
  rw [List.head?_append, hhead]
  rfl

/-- **What was collected begins the next statement**, if it begins with no blank. -/
theorem exists_statementsFrom {d : Char} (hhead : buffer.head? = some d)
    (hd : Text.isBlank d = false) (cs : List Char) :
    ∃ more rest, statementsFrom buffer cs = Text.trimRight (buffer ++ more) :: rest := by
  have hemit : ∀ {buffer : List Char} (rest : List (List Char)), buffer.head? = some d →
      ∃ more rest', emit buffer ++ rest = Text.trimRight (buffer ++ more) :: rest' := by
    intro buffer rest hhead
    exact ⟨[], rest, by rw [emit_of_head? hhead hd, List.append_nil]; rfl⟩
  -- whatever is collected next is added behind
  have hmore : ∀ {buffer cs : List Char} (added : List Char),
      (∃ more rest, statementsFrom (buffer ++ added) cs =
        Text.trimRight (buffer ++ added ++ more) :: rest) →
      ∃ more rest, statementsFrom (buffer ++ added) cs =
        Text.trimRight (buffer ++ more) :: rest := by
    rintro buffer cs added ⟨more, rest, h⟩
    exact ⟨added ++ more, rest, by rw [h, List.append_assoc]⟩
  induction buffer, cs using statementsFrom.induct with
  | case1 buffer =>
    rw [statementsFrom, ← List.append_nil (emit buffer)]
    exact hemit [] hhead
  | case2 buffer cs hn =>
    rw [statementsFrom_block, hn, ← List.append_nil (emit buffer)]
    exact hemit [] hhead
  | case3 buffer cs rest hs _ ih =>
    obtain ⟨space, hspace⟩ := exists_separate buffer
    rw [hspace] at ih
    rw [statementsFrom_block, hs]
    simp only [hspace]
    exact hmore space (ih (head?_append_of_some hhead space))
  | case4 buffer cs hn =>
    rw [statementsFrom_line, hn, ← List.append_nil (emit buffer)]
    exact hemit [] hhead
  | case5 buffer cs rest hs _ ih =>
    obtain ⟨space, hspace⟩ := exists_separate buffer
    rw [hspace] at ih
    rw [statementsFrom_line, hs]
    simp only [hspace]
    exact hmore space (ih (head?_append_of_some hhead space))
  | case6 buffer c cs hblock hline hq _ ih =>
    rw [statementsFrom_cons hblock hline, if_pos hq]
    exact hmore _ (ih (head?_append_of_some hhead _))
  | case7 buffer cs hblock hline hq _ =>
    rw [statementsFrom_cons hblock hline, if_neg hq, if_pos rfl]
    exact hemit _ hhead
  | case8 buffer c cs hblock hline hq hsemi hsep ih =>
    obtain ⟨space, hspace⟩ := exists_separate buffer
    rw [hspace] at ih
    rw [statementsFrom_cons hblock hline, if_neg hq, if_neg hsemi, if_pos hsep, hspace]
    exact hmore space (ih (head?_append_of_some hhead space))
  | case9 buffer c cs hblock hline hq hsemi hsep ih =>
    rw [statementsFrom_cons hblock hline, if_neg hq, if_neg hsemi, if_neg hsep]
    exact hmore [c] (ih (head?_append_of_some hhead [c]))

/-- **What is collected behind a word does not belong to it.** -/
theorem firstWord_of_collected {word : List Char} (hword : ∀ c ∈ word, isWordCharacter c = true)
    {e d : Char} (he : isWordCharacter e = false) {added cs first : List Char}
    {rest : List (List Char)} (hhead : (word ++ [e]).head? = some d)
    (hd : Text.isBlank d = false)
    (h : statementsFrom (word ++ e :: added) cs = first :: rest) : firstWord first = word := by
  have hsplit : word ++ e :: added = word ++ [e] ++ added := by simp
  rw [hsplit] at h
  obtain ⟨more, rest', hmore⟩ := exists_statementsFrom (head?_append_of_some hhead added) hd cs
  rw [h] at hmore
  rw [(List.cons.inj hmore).1, firstWord_trimRight, List.append_assoc, List.append_assoc,
    firstWord_append_of_pos hword, List.singleton_append, firstWord_cons_of_neg he,
    List.append_nil]

variable (hbuffer : ∀ c ∈ buffer, isWordCharacter c = true) (hne : buffer ≠ [])

include hbuffer hne

theorem head?_of_word : ∃ d, buffer.head? = some d ∧ Text.isBlank d = false := by
  obtain ⟨d, tail, rfl⟩ := List.exists_cons_of_ne_nil hne
  exact ⟨d, rfl, (ne_of_isWordCharacter (hbuffer d List.mem_cons_self)).1⟩

theorem separate_of_word : separate buffer = buffer ++ [' '] := by
  obtain ⟨front, d, rfl⟩ := List.eq_nil_or_concat buffer |>.resolve_left hne
  have hd := (ne_of_isWordCharacter (hbuffer d (by simp))).1
  simp [separate, hd]

theorem firstWord_of_emit {first : List Char} {rest rest' : List (List Char)}
    (h : emit buffer ++ rest = first :: rest') : firstWord first = buffer := by
  obtain ⟨d, hhead, hd⟩ := head?_of_word hbuffer hne
  rw [emit_of_head? hhead hd] at h
  have hword := firstWord_append_of_pos hbuffer []
  rw [List.append_nil] at hword
  rw [← (List.cons.inj h).1, firstWord_trimRight, hword]
  exact List.append_nil buffer

/-- **The first statement begins with the first word of its text**, of which a start was collected
already. -/
theorem firstWord_of_statementsFrom {cs first : List Char} {rest : List (List Char)}
    (h : statementsFrom buffer cs = first :: rest) : firstWord first = buffer ++ firstWord cs := by
  have hemit : ∀ {buffer : List Char}, (∀ c ∈ buffer, isWordCharacter c = true) → buffer ≠ [] →
      emit buffer = first :: rest → firstWord first = buffer := by
    intro buffer hbuffer hne h
    rw [← List.append_nil (emit buffer)] at h
    exact firstWord_of_emit hbuffer hne h
  -- a character of no word ends the word, whether it is kept or leaves a space
  have hends : ∀ {buffer added cs : List Char} {e : Char},
      (∀ c ∈ buffer, isWordCharacter c = true) → buffer ≠ [] → isWordCharacter e = false →
      statementsFrom (buffer ++ e :: added) cs = first :: rest → firstWord first = buffer := by
    intro buffer added cs e hbuffer hne he h
    obtain ⟨d, hhead, hd⟩ := head?_of_word hbuffer hne
    exact firstWord_of_collected hbuffer he (head?_append_of_some hhead [e]) hd h
  have hspace : isWordCharacter ' ' = false := by decide
  induction buffer, cs using statementsFrom.induct with
  | case1 buffer =>
    rw [statementsFrom] at h
    rw [hemit hbuffer hne h]
    exact (List.append_nil buffer).symm
  | case2 buffer cs hn =>
    rw [statementsFrom_block, hn] at h
    rw [firstWord_cons_of_neg (by decide), List.append_nil]
    exact hemit hbuffer hne h
  | case3 buffer cs behind hs _ _ =>
    rw [statementsFrom_block, hs] at h
    simp only [separate_of_word hbuffer hne] at h
    rw [firstWord_cons_of_neg (by decide), List.append_nil]
    exact hends hbuffer hne hspace h
  | case4 buffer cs hn =>
    rw [statementsFrom_line, hn] at h
    rw [firstWord_cons_of_neg (by decide), List.append_nil]
    exact hemit hbuffer hne h
  | case5 buffer cs behind hs _ _ =>
    rw [statementsFrom_line, hs] at h
    simp only [separate_of_word hbuffer hne] at h
    rw [firstWord_cons_of_neg (by decide), List.append_nil]
    exact hends hbuffer hne hspace h
  | case6 buffer c cs hblock hline hq _ _ =>
    have hc : isWordCharacter c = false := by rcases hq with rfl | rfl <;> decide
    rw [statementsFrom_cons hblock hline, if_pos hq] at h
    rw [firstWord_cons_of_neg hc, List.append_nil]
    exact hends hbuffer hne hc h
  | case7 buffer cs hblock hline hq _ =>
    rw [statementsFrom_cons hblock hline, if_neg hq, if_pos rfl] at h
    rw [firstWord_cons_of_neg (by decide), List.append_nil]
    exact firstWord_of_emit hbuffer hne h
  | case8 buffer c cs hblock hline hq hsemi hsep _ =>
    have hc : isWordCharacter c = false := by rcases hsep with rfl | rfl | rfl <;> decide
    rw [statementsFrom_cons hblock hline, if_neg hq, if_neg hsemi, if_pos hsep,
      separate_of_word hbuffer hne] at h
    rw [firstWord_cons_of_neg hc, List.append_nil]
    exact hends hbuffer hne hspace h
  | case9 buffer c cs hblock hline hq hsemi hsep ih =>
    rw [statementsFrom_cons hblock hline, if_neg hq, if_neg hsemi, if_neg hsep] at h
    cases hc : isWordCharacter c with
    | true =>
      have hword : ∀ d ∈ buffer ++ [c], isWordCharacter d = true := by
        intro d hd
        exact (List.mem_append.1 hd).elim (hbuffer d) fun hd => List.mem_singleton.1 hd ▸ hc
      rw [ih hword (by simp) h, firstWord_cons_of_pos hc, List.append_assoc]
      rfl
    | false =>
      rw [firstWord_cons_of_neg hc, List.append_nil]
      exact hends hbuffer hne hc h

end Scan

/-! ## What may stand in front -/

/-- **Whether a text has a preamble**: behind blanks, a semicolon or a comment in front of its first
statement. -/
def hasPreamble (cs : List Char) : Bool :=
  match Text.trimLeft cs with
  | ';' :: _ | '/' :: '*' :: _ | '-' :: '-' :: _ => true
  | _ => false

/-- **The first statement of a text begins with its first word**, unless the text has a preamble;
then no word stands in front. -/
theorem firstWord_splitChars {cs first : List Char} {rest : List (List Char)}
    (h : splitChars cs = first :: rest) :
    firstWord (Text.trimLeft cs) = if hasPreamble cs then [] else firstWord first := by
  have hscan : Scan.statementsFrom [] (Text.trimLeft cs) = first :: rest := by
    rw [← h, ← splitChars_trimLeft cs]
    exact (Splitter.statements_scan (s := {}) _ (Lexer.isFresh_new.isClear _)).symm
  have hhead : ∀ c, (Text.trimLeft cs).head? = some c → Text.isBlank c = false :=
    fun c hc => Text.isBlank_of_head?_trimLeft hc
  unfold hasPreamble
  generalize Text.trimLeft cs = text at hscan hhead
  split
  · exact firstWord_cons_of_neg (by decide) _
  · exact firstWord_cons_of_neg (by decide) _
  · exact firstWord_cons_of_neg (by decide) _
  · rename_i hsemi hblock hline
    rw [if_neg Bool.false_ne_true]
    cases text with
    | nil =>
      simp [Scan.statementsFrom, Scan.emit, Text.trim, Text.trimLeft, Text.trimRight] at hscan
    | cons c text =>
      have hblank := hhead c rfl
      have hsemi : c ≠ ';' := fun hc => hsemi text (by rw [hc])
      have hsep : ¬(c = '\n' ∨ c = '\r' ∨ c = '\t') := by
        rintro (rfl | rfl | rfl) <;> exact absurd hblank (by decide)
      rw [Scan.statementsFrom_cons (fun behind hc hcs => hblock behind (by rw [hc, hcs]))
        fun behind hc hcs => hline behind (by rw [hc, hcs])] at hscan
      cases hc : isWordCharacter c with
      | true =>
        rw [if_neg (ne_of_isWordCharacter hc).2.2.2.2.1, if_neg hsemi, if_neg hsep] at hscan
        rw [Scan.firstWord_of_statementsFrom (by simpa using hc) (by simp) hscan,
          firstWord_cons_of_pos hc]
        rfl
      | false =>
        -- it is kept, and no word stands in front of it
        have hnone : ∀ d ∈ ([] : List Char), isWordCharacter d = true := List.forall_mem_nil _
        rw [firstWord_cons_of_neg hc]
        rw [if_neg hsemi, if_neg hsep] at hscan
        split at hscan
        all_goals exact (Scan.firstWord_of_collected hnone hc rfl hblank hscan).symm

/-- The first word of what is sent is that of what was given. -/
theorem firstWord_statementText (cs : List Char) :
    firstWord (Text.trimLeft (statementText cs)) = firstWord (Text.trimLeft cs) := by
  obtain ⟨behind, hbehind, htext⟩ := exists_terminators cs
  have hleft : Text.trimLeft (statementText cs) = statementText cs := by
    refine Text.trimLeft_of_head? fun c hc => ?_
    have hhead : (Text.trimLeft cs).head? = some c := by
      rw [htext]
      exact Scan.head?_append_of_some hc behind
    exact Text.isBlank_of_head?_trimLeft hhead
  rw [hleft, htext, firstWord_append_of_neg fun c hc => (hbehind c hc).isWordCharacter]

/-- A statement in normal form has no blanks in front. -/
theorem IsNormal.trimLeft {statement : List Char} (h : IsNormal statement) :
    Text.trimLeft statement = statement := by
  obtain ⟨blanks, -, hright⟩ := Text.exists_trimRight (Text.trimLeft statement)
  change Text.trimLeft statement = Text.trim statement ++ blanks at hright
  rw [h.trimmed] at hright
  have hshorter : (Text.trimLeft statement).length ≤ statement.length :=
    (List.dropWhile_sublist Text.isBlank).length_le
  have hnone : blanks = [] := by
    rw [hright, List.length_append] at hshorter
    exact List.length_eq_zero_iff.1 (by omega)
  rw [hright, hnone, List.append_nil]

/-! ## Asking for an explanation -/

theorem Text.capital_of_isBlank {c : Char} (h : Text.isBlank c = true) : Text.capital c = c := by
  simp only [Text.isBlank, Bool.or_eq_true, Bool.and_eq_true, decide_eq_true_eq, beq_iff_eq] at h
  have hsmall : ¬('a'.val ≤ c.val ∧ c.val ≤ 'z'.val) := by
    rintro ⟨hfirst, hlast⟩
    have hfirst : 97 ≤ c.toNat := UInt32.le_iff_toNat_le.1 hfirst
    have hlast : c.toNat ≤ 122 := UInt32.le_iff_toNat_le.1 hlast
    omega
  have hupper : c.toUpper = c := dif_neg hsmall
  rw [Text.capital, if_neg (by omega), if_neg (by omega), hupper]

namespace Sqlite

open SqlScript.Action

/-- The letters of the word that asks for an explanation are those of a word, in any case. -/
theorem isWordCharacter_of_capital {c : Char} (h : Text.capital c ∈ Prepared.explainWord) :
    isWordCharacter c = true := by
  cases hc : isWordCharacter c with
  | true => rfl
  | false =>
    simp only [isWordCharacter, Bool.not_eq_false', Bool.or_eq_true, beq_iff_eq] at hc
    rcases hc with ((((hblank | rfl) | rfl) | rfl) | rfl) | rfl
    · rw [Text.capital_of_isBlank hblank] at h
      have hletters : Prepared.explainWord.all (!Text.isBlank ·) = true := by decide
      have hletter := List.all_eq_true.1 hletters c h
      rw [hblank] at hletter
      cases hletter
    all_goals exact absurd h (by decide)

/-- **Whether a text asks for an explanation** is told by its first word. -/
theorem spells_explainWord (cs : List Char) :
    Text.spells Prepared.explainWord (cs.take Prepared.explainWord.length) =
      Text.spells Prepared.explainWord ((firstWord cs).take Prepared.explainWord.length) := by
  rw [firstWord, List.take_takeWhile]
  have hlength := List.length_take_le Prepared.explainWord.length cs
  generalize cs.take Prepared.explainWord.length = start at hlength
  rw [Bool.eq_iff_iff, Text.spells, Text.spells, beq_iff_eq, beq_iff_eq]
  constructor
  · intro h
    have hword : ∀ c ∈ start, isWordCharacter c = true :=
      fun c hc => isWordCharacter_of_capital (h ▸ List.mem_map_of_mem hc)
    have hall := firstWord_append_of_pos hword []
    rw [List.append_nil] at hall
    rw [show start.takeWhile isWordCharacter = start ++ [] from hall, List.append_nil, h]
  · intro h
    -- the word is as long as what it is the start of
    have hword : (start.takeWhile isWordCharacter).length = Prepared.explainWord.length := by
      rw [← h, List.length_map]
    have hall : start.takeWhile isWordCharacter = start :=
      (List.takeWhile_prefix isWordCharacter).eq_of_length_le
        (Nat.le_trans hlength (Nat.le_of_eq hword.symm))
    rwa [hall] at h

/-- **What is sent asks for an explanation** exactly if the first statement does, and has nothing in
front of it. -/
theorem asksExplanation_parseStatement {text first : String} {rest : List String}
    (h : split text = first :: rest) :
    Prepared.asksExplanation (parseStatement text).sql = true ↔
      Prepared.asksExplanation first = true ∧ hasPreamble text.toList = false := by
  obtain ⟨statement, statements, hsplit, rfl, -⟩ := List.map_eq_cons_iff.1 h
  have hmem : statement ∈ splitChars text.toList := by rw [hsplit]; exact List.mem_cons_self
  have hnormal := (areNormal_splitChars text.toList).normal statement hmem
  have hword := firstWord_splitChars hsplit
  rw [← firstWord_statementText] at hword
  simp only [Prepared.asksExplanation, parseStatement, StatementUnit.ofText, String.toList_ofList]
  rw [spells_explainWord, hword, hnormal.trimLeft, spells_explainWord statement]
  cases hasPreamble text.toList with
  | true =>
    simp only [if_true, List.take_nil]
    exact iff_of_false (by decide) (by simp)
  | false => simp

/-! ## Preparing -/

variable {σ α : Type}

/-- **The first request of an action**, if it makes any. -/
def firstRequest (a : PoolAction σ α) (w : World Call (Session σ)) : Option Call :=
  ((a w).2.trace.drop w.trace.length).head?

/-- The request that has a statement explained, with nulls for its parameters. -/
def explanationCall (connection : Nat) (sql : String) : Call :=
  .execute connection ("EXPLAIN " ++ sql) (List.replicate (countPlaceholders sql) .null)

variable (d : Driver σ) (l : Lease)

/-- **What preparing a statement asks for first**: its explanation, unless it asks for one itself;
then nothing. -/
theorem firstRequest_prepare (sql : String) (w : World Call (Session σ)) :
    firstRequest ((backend d).prepare l sql) w =
      if Prepared.asksExplanation sql then none
      else some (explanationCall l.connection sql) := by
  have hprepare : ((backend d).prepare l sql w).2 =
      (Prepared.compile d l.connection sql (countPlaceholders sql) w).2 := by
    show ((Prepared.compile d l.connection sql (countPlaceholders sql) >>= fun _ => _) w).2 = _
    rw [bind_apply]
    split
    · rename_i hcompile
      rw [hcompile]
      rfl
    · rename_i hcompile
      rw [hcompile]
  unfold firstRequest
  rw [hprepare, Prepared.compile]
  split
  · simp
  · -- whether it is answered with a cursor or a fault, it was made
    have hask : (d.ask (explanationCall l.connection sql) w).2.trace =
        w.trace ++ [explanationCall l.connection sql] := rfl
    show (List.drop _ ((d.ask (explanationCall l.connection sql) >>= fun cursor =>
      World.closeCursor .closeCursor cursor) w).2.trace).head? = _
    rw [bind_apply]
    split
    · rename_i cursor w' hw'
      rw [hw'] at hask
      have hclose : (World.closeCursor Call.closeCursor cursor w').2.trace =
          w'.trace ++ [.closeCursor] := by
        unfold World.closeCursor
        split <;> rfl
      rw [hclose, hask, List.append_assoc, List.drop_left]
      rfl
    · rename_i e w' hw'
      rw [hw'] at hask
      rw [hask, List.drop_left]
      rfl

/-- **Two texts are prepared alike**: both are explained first, or nothing is asked for either. -/
def PreparesAlike (w : World Call (Session σ)) (sql sql' : String) : Prop :=
  firstRequest ((backend d).prepare l sql) w = some (explanationCall l.connection sql) ∧
      firstRequest ((backend d).prepare l sql') w = some (explanationCall l.connection sql') ∨
    firstRequest ((backend d).prepare l sql) w = none ∧
      firstRequest ((backend d).prepare l sql') w = none

theorem preparesAlike_iff_asks (w : World Call (Session σ)) (sql sql' : String) :
    PreparesAlike d l w sql sql' ↔
      Prepared.asksExplanation sql = Prepared.asksExplanation sql' := by
  unfold PreparesAlike
  simp only [firstRequest_prepare]
  cases Prepared.asksExplanation sql <;> cases Prepared.asksExplanation sql' <;> simp

variable {d l}

/-- **A statement is prepared on its own as it is in a script** exactly if it asks for no
explanation, or has no semicolon and no comment in front of it. Otherwise it is left alone in a
script, but explained once more on its own. -/
theorem preparesAlike_iff {text : String} {unit : StatementUnit} (h : parseScript text = [unit])
    (w : World Call (Session σ)) :
    (PreparesAlike d l w (parseStatement text).sql unit.sql ↔
      ¬(Prepared.asksExplanation unit.sql = true ∧ hasPreamble text.toList = true)) ∧
    (Prepared.asksExplanation unit.sql = true → hasPreamble text.toList = true →
      firstRequest ((backend d).prepare l unit.sql) w = none ∧
        firstRequest ((backend d).prepare l (parseStatement text).sql) w =
          some (.execute l.connection ("EXPLAIN " ++ (parseStatement text).sql)
            (List.replicate (parseStatement text).placeholderCount .null))) := by
  have hsplit : split text = [unit.sql] := by
    obtain ⟨first, rest, hsplit, hunit, hrest⟩ := List.mapIdx_eq_cons_iff.1 h
    rw [hsplit, ← hunit, List.mapIdx_eq_nil_iff.1 hrest]
    rfl
  have hasks := asksExplanation_parseStatement hsplit
  refine ⟨?_, fun hunit hpreamble => ?_⟩
  · rw [preparesAlike_iff_asks, Bool.eq_iff_iff, hasks]
    cases Prepared.asksExplanation unit.sql <;> cases hasPreamble text.toList <;> decide
  · have hsent : ¬Prepared.asksExplanation (parseStatement text).sql = true := by
      rw [hasks, hpreamble]
      simp
    have hcount : (parseStatement text).placeholderCount =
        countPlaceholders (parseStatement text).sql := by
      simp only [parseStatement, StatementUnit.ofText]
    rw [firstRequest_prepare, firstRequest_prepare, if_pos hunit, if_neg hsent, hcount,
      explanationCall]
    exact ⟨rfl, rfl⟩

/-- Blanks in front do not count, nor does the case of a letter, even of one without a dot. -/
theorem preparesAlike_iff_dotless :
    parseScript "\n\texplaın -- plan\nSELECT ?;" = [⟨0, "explaın SELECT ?", 1⟩] ∧
      Prepared.asksExplanation "explaın SELECT ?" = true ∧
      PreparesAlike (Driver.silent : Driver Unit) ⟨0, 1⟩ { outside := { driver := () } }
        (parseStatement "\n\texplaın -- plan\nSELECT ?;").sql "explaın SELECT ?" := by
  have h : parseScript "\n\texplaın -- plan\nSELECT ?;" = [⟨0, "explaın SELECT ?", 1⟩] := by
    decide +kernel
  have hpreamble : hasPreamble "\n\texplaın -- plan\nSELECT ?;".toList = false := by
    decide +kernel
  refine ⟨h, by decide +kernel, (preparesAlike_iff h _).1.2 fun hboth => ?_⟩
  rw [hpreamble] at hboth
  exact Bool.false_ne_true hboth.2

/-- Behind a comment, a statement that asks for an explanation is explained once more. -/
theorem not_preparesAlike_comment :
    parseScript "/* plan */ EXPLAIN SELECT 1" = [⟨0, "EXPLAIN SELECT 1", 0⟩] ∧
      (({} : Lexer).scan "/* plan */ EXPLAIN SELECT 1".toList).region.isQuoted = false ∧
      firstRequest ((backend (Driver.silent : Driver Unit)).prepare ⟨0, 1⟩
        (parseStatement "/* plan */ EXPLAIN SELECT 1").sql) { outside := { driver := () } } =
          some (.execute 1 "EXPLAIN /* plan */ EXPLAIN SELECT 1" []) ∧
      ¬PreparesAlike (Driver.silent : Driver Unit) ⟨0, 1⟩ { outside := { driver := () } }
        (parseStatement "/* plan */ EXPLAIN SELECT 1").sql "EXPLAIN SELECT 1" := by
  have hasks : Prepared.asksExplanation (parseStatement "/* plan */ EXPLAIN SELECT 1").sql =
      false := by decide +kernel
  have hsent : (parseStatement "/* plan */ EXPLAIN SELECT 1").sql =
      "/* plan */ EXPLAIN SELECT 1" := by decide +kernel
  have hcount : countPlaceholders "/* plan */ EXPLAIN SELECT 1" = 0 := by decide +kernel
  refine ⟨by decide +kernel, by decide +kernel, ?_, ?_⟩
  · rw [firstRequest_prepare, hasks, hsent]
    simp only [Bool.false_eq_true, if_false, explanationCall, hcount]
    rfl
  · rw [preparesAlike_iff_asks, hasks]
    decide +kernel

end Sqlite

end SqlScript
