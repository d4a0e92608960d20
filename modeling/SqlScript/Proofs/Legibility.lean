import SqlScript.Console.Terminal
import SqlScript.Proofs.BareConsole
import SqlScript.Report.Printer

/-!
# Legible reports

What is printed of a report or of a split script is made of lines and tables whose data are escaped,
so that on a faithful console it is printed without a fault and every text of the data is seen as it
is. But column labels and the source of an empty or split script are printed as markup without an
escape, and a closing tag in a label makes the printing of a committed run fail.

* `IsLabel`, `isLabel_labelText`: how a statement is named.
* `StatementReport.line`, `ScriptReport.summaryLine`, `headingLine`: the lines that are printed.
* `ScriptReport.data`: the data that a report shows.
* `ScriptReport.NeedsNoEscape`: what has to be known of the texts that are not escaped.
* `prints_literally`: **reports and split scripts are printed with their data as they are.**
-/

namespace SqlScript

open Console Markup

/-! ## Labels -/

/-- **The label of a statement**: its first line, or of a line of more than 60 characters the first
57 and three dots. -/
def IsLabel (sql label : String) : Prop :=
  ∃ first rest, sql.toList = first ++ rest ∧ (∀ c ∈ first, Text.isLineBreak c = false) ∧
    (∀ c, rest.head? = some c → Text.isLineBreak c = true) ∧
    if Text.size first ≤ 60 then label = String.ofList first
    else ∃ kept cut, first = kept ++ cut ∧ Text.size kept = 57 ∧
      (∀ c, cut.head? = some c → Text.isMark c = false) ∧ label = String.ofList kept ++ "..."

/-- The first code points of a text that has enough are as many as they should be, and the marks
behind them are not cut off. -/
theorem exists_takeWhole (n : Nat) {cs : List Char} (h : n ≤ Text.size cs) :
    ∃ cut, cs = Text.takeWhole n cs ++ cut ∧ Text.size (Text.takeWhole n cs) = n ∧
      ∀ c, cut.head? = some c → Text.isMark c = false := by
  induction cs generalizing n with
  | nil => exact ⟨[], rfl, (Nat.le_zero.1 h).symm, nofun⟩
  | cons c cs ih =>
    cases hmark : Text.isMark c with
    -- a mark is a part of the code point in front of it: it counts for nothing, and stays
    | true =>
      have hsize (ds : List Char) : Text.size (c :: ds) = Text.size ds := by
        simp [Text.size, Text.unmarked, hmark]
      obtain ⟨cut, hcut, hkept, hhead⟩ := ih n (hsize cs ▸ h)
      have hwhole : Text.takeWhole n (c :: cs) = c :: Text.takeWhole n cs := by
        cases n <;> simp [Text.takeWhole, hmark]
      rw [hwhole, hsize]
      exact ⟨cut, congrArg (c :: ·) hcut, hkept, hhead⟩
    | false =>
      have hsize (ds : List Char) : Text.size (c :: ds) = Text.size ds + 1 := by
        simp [Text.size, Text.unmarked, hmark]
      cases n with
      | zero =>
        have hwhole : Text.takeWhole 0 (c :: cs) = [] := by simp [Text.takeWhole, hmark]
        rw [hwhole]
        exact ⟨c :: cs, rfl, rfl, fun d hd => Option.some.inj hd ▸ hmark⟩
      | succ n =>
        have hmore : n ≤ Text.size cs := by
          rw [hsize] at h
          omega
        obtain ⟨cut, hcut, hkept, hhead⟩ := ih n hmore
        have hwhole : Text.takeWhole (n + 1) (c :: cs) = c :: Text.takeWhole n cs := by
          simp [Text.takeWhole, hmark]
        rw [hwhole, hsize, hkept]
        exact ⟨cut, congrArg (c :: ·) hcut, rfl, hhead⟩

/-- **A statement is named by its label.** -/
theorem isLabel_labelText (sql : String) : IsLabel sql (labelText sql) := by
  refine ⟨Text.firstLine sql.toList, sql.toList.dropWhile fun c => !Text.isLineBreak c,
    List.takeWhile_append_dropWhile.symm, fun c hc => ?_, fun c hc => ?_, ?_⟩
  · simpa using List.all_eq_true.1 List.all_takeWhile c hc
  · have hhead := List.head?_dropWhile_not (fun c => !Text.isLineBreak c) sql.toList
    rw [hc] at hhead
    simpa using hhead
  · simp only [labelText, labelLimits]
    split
    · rename_i hshort
      exact if_pos hshort
    · rename_i hlong
      have henough : 57 ≤ Text.size (Text.firstLine sql.toList) := by omega
      obtain ⟨cut, hcut, hkept, hhead⟩ := exists_takeWhole 57 henough
      exact ⟨_, cut, hcut, hkept, hhead, if_neg hlong⟩

/-! ## The lines of a report -/

/-- The mark of a status, in its style. -/
def StatementStatus.stretch : StatementStatus → Stretch
  | success => { tint := some .green, parts := [.own "✓"] }
  | failed => { tint := some .red, parts := [.own "✗"] }
  | rolledBack => { tint := some .yellow, parts := [.own "↺"] }
  | skipped => { tint := some .dim, parts := [.own "-"] }

/-- **The text in a cell** of a value that is neither null nor binary. -/
def Value.cellText? : Value → Option String
  | .null => none
  | .bytes .plain _ => none
  | v => some v.display

/-- A value in a cell. -/
def Value.line : Value → Line
  | .null => [{ tint := some .dim, parts := [.own "NULL"] }]
  | .bytes .plain bs => [{ parts := [.own "<", .number bs.length, .own " bytes>"] }]
  | v => [{ parts := [.data v.display] }]

namespace StatementReport

/-- How a statement is named. -/
def line (s : StatementReport) (total : Nat) : Line :=
  [s.status.stretch,
    { parts := [.own " Statement ", .number (s.unit.index + 1), .own "/", .number total, .own ": ",
      .data (labelText s.unit.sql)] }]

/-- The number of rows. -/
def countLine (s : Snapshot) : Line :=
  [{ parts := [.own "  "] },
    { tint := some .dim, parts := [.number s.rows.length, .own " row(s)"] }]

/-- The cells of a row of a snapshot, by its columns. -/
def cells (s : Snapshot) (row : Row) : List Value := s.columns.map fun c => (row.get? c).getD .null

/-- The data that are shown of a snapshot: its column labels and the texts in its cells. -/
def rowData (s : Snapshot) : List String :=
  s.columns ++ s.rows.flatMap fun row => (cells s row).filterMap (·.cellText?)

/-- **The data that are shown of a statement**: its first line, and those of its rows. -/
def data (s : StatementReport) : List String :=
  labelText s.unit.sql :: s.shownRows.toList.flatMap rowData

end StatementReport

namespace ScriptReport

/-- A script without statements. -/
def emptyLine (r : ScriptReport) : Line :=
  [{ tint := some .yellow, parts := [.own "No statements found in ", .data r.source] }]

/-- The parameters that no statement took. -/
def discardedLine (r : ScriptReport) : Line :=
  [{ tint := some .yellow, parts :=
    [.own "⚠ ", .number r.discardedParameters, .own " unused parameter(s) discarded"] }]

/-- What became of the run. -/
def summaryLine (r : ScriptReport) : Line :=
  match r.error with
  | none =>
    [{ parts := [.own "\n"] },
      { tint := some .green, parts :=
        [.own "✓ Committed ", .number r.successfulStatements, .own " statement(s)"] },
      { parts := [.own " "] },
      { tint := some .dim, parts := [.own "(", .number r.elapsed, .own "ms)"] }]
  | some failure =>
    [{ parts := [.own "\n"] }, { tint := some .red, parts := [.own "✗ Script rolled back:"] },
      { parts := [.own " ", .data failure.message] }]

/-- **The data that are shown of a report**: the source of an empty one, or those of its statements
and the message of its failure. -/
def data (r : ScriptReport) : List String :=
  if r.totalStatements = 0 ∧ r.isSuccess then [r.source]
  else r.statements.flatMap (·.data) ++ r.error.toList.map (·.message)

/-- **The texts of a report that are printed as markup** without being escaped need no escape on a
console: the source of an empty report, and column labels. -/
structure NeedsNoEscape (c : Console) (r : ScriptReport) : Prop where
  source : r.totalStatements = 0 ∧ r.isSuccess → c.escape r.source = r.source
  columns : ∀ s ∈ r.statements, ∀ snapshot, s.shownRows = some snapshot →
    ∀ label ∈ snapshot.columns, c.escape label = label

end ScriptReport

/-! ## The lines of a split script -/

/-- A statement by its number, with the number of its placeholders. -/
def StatementUnit.line (u : StatementUnit) (total : Nat) : Line :=
  [{ parts := [.own "\n"] },
    { tint := some .cyan, parts :=
      [.own "Statement ", .number (u.index + 1), .own "/", .number total] },
    { parts := [.own " "] },
    { tint := some .dim, parts := [.own "(", .number u.placeholderCount, .own " placeholder(s))"] }]

/-- The heading of a split script. -/
def headingLine (units : List StatementUnit) (source : String) : Line :=
  [{ tint := some .bold, parts := [.data source] },
    { parts := [.own ": ", .number units.length, .own " statement(s)"] }]

/-- The line below a heading. -/
def ruleLine : Line :=
  [{ parts := [.own (String.ofList (List.replicate ruleLength '─')) (by decide +kernel)] }]

/-! ## The markup of the lines -/

/-- A natural number is written like the integer. -/
theorem repr_natCast (n : Nat) : (n : Int).repr = n.repr := rfl

variable (c : Console)

/-- A text that needs no escape is the markup of a line. -/
theorem markup_of_escape_eq {t : String} (h : c.escape t = t) :
    t = Line.markup c.escape [{ parts := [.data t] }] := by
  simp [h]

theorem Value.markup_line (v : Value) : cellMarkup c v = v.line.markup c.escape := by
  unfold cellMarkup Value.line
  split
  · rfl
  · simp [← String.toList_inj, toString, repr_natCast]
  · simp

theorem Value.data_line (v : Value) : v.line.data = v.cellText?.toList := by
  unfold Value.line Value.cellText?
  split <;> rfl

theorem StatementReport.markup_line (s : StatementReport) (total : Nat) :
    s!"{s.status.marker} {s.label c total}" = (s.line total).markup c.escape := by
  have hmarker : s.status.marker = s.status.stretch.markup c.escape := by
    cases s.status <;> rfl
  simp [line, label, hmarker, ← String.toList_inj, toString, repr_natCast]

theorem StatementReport.markup_countLine (s : Snapshot) :
    s!"  [dim]{s.rows.length} row(s)[/dim]" = (countLine s).markup c.escape := by
  simp [countLine, ← String.toList_inj, toString, repr_natCast]

theorem ScriptReport.markup_emptyLine (r : ScriptReport) (h : c.escape r.source = r.source) :
    s!"[yellow]No statements found in {r.source}[/yellow]" = r.emptyLine.markup c.escape := by
  simp [emptyLine, ← String.toList_inj, toString, h]

theorem ScriptReport.markup_discardedLine (r : ScriptReport) :
    s!"[yellow]⚠ {r.discardedParameters} unused parameter(s) discarded[/yellow]" =
      r.discardedLine.markup c.escape := by
  simp [discardedLine, ← String.toList_inj, toString]

theorem StatementUnit.markup_line (u : StatementUnit) (total : Nat) :
    s!"\n[cyan]Statement {u.index + 1}/{total}[/cyan]" ++
      s!" [dim]({u.placeholderCount} placeholder(s))[/dim]" = (u.line total).markup c.escape := by
  simp [line, ← String.toList_inj, toString, repr_natCast]

theorem markup_headingLine (units : List StatementUnit) {source : String}
    (h : c.escape source = source) : s!"[bold]{source}[/bold]: {units.length} statement(s)" =
      (headingLine units source).markup c.escape := by
  simp [headingLine, ← String.toList_inj, toString, repr_natCast, h]

theorem markup_ruleLine :
    String.ofList (List.replicate ruleLength '─') = ruleLine.markup c.escape := by
  simp [ruleLine]

/-! ## Reports are printed -/

section

variable {c} {shows : String → String → Prop} (hc : c.IsFaithful shows) {κ τ : Type}

include hc

namespace StatementReport

/-- **The rows of a snapshot are printed** with its labels and cells, if the labels need no
escape. -/
theorem displays_rows {s : Snapshot} (h : ∀ label ∈ s.columns, c.escape label = label) :
    Displays shows (printRows c s : Action (World κ τ) Unit) (rowData s) := by
  let header : List Line := s.columns.map fun label => [{ parts := [.data label] }]
  let rows : List (List Line) := s.rows.map fun row => (cells s row).map (·.line)
  -- a label is printed without an escape, so that it is data only if it needs none
  have hlabels : s.columns = header.map (·.markup c.escape) := by
    rw [List.map_map]
    refine (List.map_id s.columns).symm.trans (List.map_congr_left fun label hlabel => ?_)
    exact markup_of_escape_eq c (h label hlabel)
  have hcells : (s.rows.map fun row => s.columns.map fun label =>
      cellMarkup c ((row.get? label).getD .null)) = rows.map (·.map (·.markup c.escape)) := by
    simp only [rows, cells, List.map_map, Function.comp_def, Value.markup_line]
  have hlength : ∀ row ∈ rows, row.length = header.length := by
    simp [rows, header, cells]
  refine (hc.displays_table hlabels hcells hlength).mono ?_
  have hheader : header.flatMap Line.data = s.columns := by
    simp [header, Line.data, List.flatMap_map]
  have hrows : rows.flatMap (·.flatMap Line.data) =
      s.rows.flatMap fun row => (cells s row).filterMap (·.cellText?) := by
    simp [rows, List.flatMap_map, Value.data_line, List.filterMap_eq_flatMap_toList]
  rw [hheader, hrows]
  exact List.Subset.refl (rowData s)

/-- **A statement is printed** with its data. -/
theorem displays_print {s : StatementReport} (total : Nat)
    (h : ∀ snapshot, s.shownRows = some snapshot → ∀ label ∈ snapshot.columns,
      c.escape label = label) :
    Displays shows (s.print c total : Action (World κ τ) Unit) s.data := by
  have hlabel : [labelText s.unit.sql] ⊆ (s.line total).data := by simp [line, Line.data]
  have hline : Displays shows
      (c.printMarkup s!"{s.status.marker} {s.label c total}" : Action (World κ τ) Unit)
      [labelText s.unit.sql] :=
    (hc.displays_line (s.markup_line c total)).mono hlabel
  unfold print data
  cases hsnapshot : s.shownRows with
  | none => exact hc.displays_bind hline .nil
  | some snapshot =>
    have hrows := hc.displays_bind (displays_rows hc (h snapshot hsnapshot) (κ := κ) (τ := τ))
      (hc.displays_nothing (markup_countLine c snapshot))
    exact hc.displays_bind hline (by simpa using hrows)

end StatementReport

namespace ScriptReport

theorem displays_statements (total : Nat) {statements : List StatementReport}
    (h : ∀ s ∈ statements, ∀ snapshot, s.shownRows = some snapshot →
      ∀ label ∈ snapshot.columns, c.escape label = label) :
    Displays shows (printStatements c total statements : Action (World κ τ) Unit)
      (statements.flatMap (·.data)) := by
  induction statements with
  | nil => exact .nil
  | cons s rest ih =>
    rw [List.forall_mem_cons] at h
    exact hc.displays_bind (StatementReport.displays_print hc total h.1) (ih h.2)

theorem displays_summary (r : ScriptReport) :
    Displays shows (r.printSummary c : Action (World κ τ) Unit)
      (r.error.toList.map (·.message)) := by
  have hdata : r.error.toList.map (·.message) ⊆ r.summaryLine.data := by
    unfold summaryLine
    cases r.error <;> simp [Line.data]
  refine Displays.mono ?_ hdata
  unfold printSummary summaryLine
  cases r.error with
  | none =>
    refine hc.displays_line ?_
    simp [← String.toList_inj, toString, repr_natCast]
  | some failure =>
    refine hc.displays_line ?_
    simp [← String.toList_inj, toString]

/-- **A report is printed** with its data. -/
theorem displays_print {r : ScriptReport} (h : r.NeedsNoEscape c) :
    Displays shows (r.print c : Action (World κ τ) Unit) r.data := by
  unfold print data
  split
  · rename_i hempty
    exact hc.displays_line (r.markup_emptyLine c (h.source hempty))
  · refine hc.displays_bind (displays_statements hc r.totalStatements h.columns) ?_
    split
    · exact hc.displays_bind (hc.displays_nothing (r.markup_discardedLine c))
        (displays_summary hc r)
    · exact displays_summary hc r

end ScriptReport

/-! ## Split scripts are printed -/

theorem displays_unit (total : Nat) (u : StatementUnit) :
    Displays shows (printUnit c total u : Action (World κ τ) Unit) [u.sql] := by
  have hsql : s!"  {u.sql}" = "  " ++ u.sql ++ "" := by simp [toString]
  exact hc.displays_bind (hc.displays_nothing (u.markup_line c total)) (hc.displays_text hsql)

theorem displays_unitList (total : Nat) (units : List StatementUnit) :
    Displays shows (printUnitList c total units : Action (World κ τ) Unit)
      (units.map (·.sql)) := by
  induction units with
  | nil => exact .nil
  | cons u rest ih => exact hc.displays_bind (displays_unit hc total u) ih

/-- **A split script is printed** with its source and its statements. -/
theorem displays_units (units : List StatementUnit) {source : String}
    (h : c.escape source = source) :
    Displays shows (printUnits c units source : Action (World κ τ) Unit)
      (source :: units.map (·.sql)) := by
  have hheading : Displays shows
      (c.printMarkup s!"[bold]{source}[/bold]: {units.length} statement(s)" :
        Action (World κ τ) Unit) [source] :=
    hc.displays_line (markup_headingLine c units h)
  exact hc.displays_bind hheading (hc.displays_bind (hc.displays_nothing (markup_ruleLine c))
    (displays_unitList hc units.length units))

end

/-! ## The theorem -/

/-- **Data are shown as they are.** On a faithful console every report and every split script whose
source and column labels need no escape is printed without a fault, and all of its data are seen as
they are; a statement is named by its label. -/
theorem prints_literally {c : Console} {shows : String → String → Prop} (hc : c.IsFaithful shows)
    {κ τ : Type} :
    (∀ r : ScriptReport, r.NeedsNoEscape c →
      Displays shows (r.print c : Action (World κ τ) Unit) r.data) ∧
    (∀ (units : List StatementUnit) (source : String), c.escape source = source →
      Displays shows (printUnits c units source : Action (World κ τ) Unit)
        (source :: units.map (·.sql))) ∧
    ∀ sql, IsLabel sql (labelText sql) :=
  ⟨fun _ h => ScriptReport.displays_print hc h, fun units _ h => displays_units hc units h,
    isLabel_labelText⟩

/-- The report of a committed query with one cell. -/
def ScriptReport.ofCell (label : String) (value : Value) : ScriptReport where
  source := "q.sql"
  statements :=
    [⟨⟨0, "SELECT * FROM t", 0⟩, [], .success, some ⟨[label], [[(label, value)]]⟩⟩]
  totalStatements := 1
  discardedParameters := 0
  elapsed := 3

/-- Tags in a cell and in a listed statement, on a faithful console that prints what a terminal
prints of them. -/
theorem prints_literally_tag :
    let shows (out t : String) : Prop := t.toList <:+: out.toList
    let r := ScriptReport.ofCell "a" (.text "[/b]")
    let units : List StatementUnit := [⟨0, "SELECT '[b]'", 0⟩]
    let w : World Unit Unit := { outside := () }
    bare.IsFaithful shows ∧ r.NeedsNoEscape bare ∧ bare.escape "q.sql" = "q.sql" ∧
      r.data = ["SELECT * FROM t", "a", "[/b]"] ∧
      Displays shows (r.print bare : Action (World Unit Unit) Unit) r.data ∧
      Displays shows (printUnits bare units "q.sql" : Action (World Unit Unit) Unit)
        ["q.sql", "SELECT '[b]'"] ∧
      (r.print bare w).2.printed = (r.print terminal w).2.printed ∧
      (printUnits bare units "q.sql" w).2.printed =
        (printUnits terminal units "q.sql" w).2.printed := by
  intro shows r units w
  have hr : r.NeedsNoEscape bare := by
    refine ⟨fun h => absurd h.1 (by decide), fun s hs snapshot hsnapshot label hlabel => ?_⟩
    obtain rfl := List.mem_singleton.1 hs
    cases hsnapshot
    obtain rfl := List.mem_singleton.1 hlabel
    decide
  have hsource : bare.escape "q.sql" = "q.sql" := by decide
  obtain ⟨hreports, hunits, -⟩ := prints_literally Bare.isFaithful (κ := Unit) (τ := Unit)
  exact ⟨Bare.isFaithful, hr, hsource, by decide, hreports r hr, hunits units "q.sql" hsource,
    by decide +kernel, by decide +kernel⟩

/-- **A closing tag as a column label**: a faithful console reads it as markup, so that it is not
seen, and a terminal fails to print the report of a committed run. -/
theorem not_prints_closing :
    let shows (out t : String) : Prop := t.toList <:+: out.toList
    let r := ScriptReport.ofCell "[/b]" (.int 1)
    let w : World Unit Unit := { outside := () }
    r.isSuccess = true ∧ bare.IsFaithful shows ∧ "[/b]" ∈ r.data ∧
      ¬ Displays shows (r.print bare : Action (World Unit Unit) Unit) r.data ∧
      ∃ e, (r.print terminal w).1 = .error e := by
  intro shows r w
  have hfails : (r.print terminal w).1.toOption = none := by decide +kernel
  have hlabel : "[/b]" ∈ r.data := by decide
  refine ⟨rfl, Bare.isFaithful, hlabel, fun ⟨out, hout, hshows⟩ => ?_, ?_⟩
  · have hprinted : (r.print bare w).2.printed = out := by
      rw [hout]
      exact String.empty_append
    have hhidden : ¬ "[/b]".toList <:+: (r.print bare w).2.printed.toList := by decide +kernel
    exact hhidden (hprinted ▸ hshows _ hlabel)
  · cases hresult : (r.print terminal w).1 with
    | error e => exact ⟨e, rfl⟩
    | ok u =>
      rw [hresult] at hfails
      cases hfails

end SqlScript
