import SqlScript.Console
import SqlScript.Report
import SqlScript.Text.Lines

/-!
# Printed reports

Reports and split scripts as they are shown on a console: a line for each statement, a table for
each row set, and a line for the run.

* `StatementReport.label`: how a statement is named.
* `ScriptReport.print`: a report.
* `printUnits`: the statements that a script splits into.
* `Runner.presentScript`, `Runner.presentStatement`: runs whose reports are printed.
-/

namespace SqlScript

/-! ## Statements -/

/-- The mark of a status. -/
def StatementStatus.marker : StatementStatus → String
  | success => "[green]✓[/green]"
  | failed => "[red]✗[/red]"
  | rolledBack => "[yellow]↺[/yellow]"
  | skipped => "[dim]-[/dim]"

/-- The most characters of a statement that are shown, and how many are kept of a longer one. -/
def labelLimits : Nat × Nat := (60, 57)

/-- The first line of a statement, cut if it is long. -/
def labelText (sql : String) : String :=
  let first := Text.firstLine sql.toList
  let (most, kept) := labelLimits
  if Text.size first ≤ most then String.ofList first
  else String.ofList (Text.takeWhole kept first) ++ "..."

/-- A cell of a table, as markup. -/
def cellMarkup (c : Console) (value : Value) : String :=
  match value with
  | .null => "[dim]NULL[/dim]"
  | .bytes .plain bs => s!"<{bs.length} bytes>"
  | v => c.escape v.display

namespace StatementReport

/-- How a statement is named: by its place and its first line. -/
def label (c : Console) (s : StatementReport) (total : Nat) : String :=
  let place := s.unit.index + 1
  let text := c.escape (labelText s.unit.sql)
  s!"Statement {place}/{total}: {text}"

variable {κ τ : Type}

/-- Prints the rows of a snapshot as a table. -/
def printRows (c : Console) (s : Snapshot) : Action (World κ τ) Unit :=
  c.printTable s.columns
    (s.rows.map fun row => s.columns.map fun label => cellMarkup c ((row.get? label).getD .null))

/-- The rows that are shown of a statement: those of one that was executed and whose effect
stands. -/
def shownRows (s : StatementReport) : Option Snapshot :=
  if s.status = .success then s.outcome else none

/-- Prints what became of a statement. -/
def print (c : Console) (s : StatementReport) (total : Nat) : Action (World κ τ) Unit := do
  let marker := s.status.marker
  let label := s.label c total
  c.printMarkup s!"{marker} {label}"
  match s.shownRows with
  | some snapshot =>
    printRows c snapshot
    c.printMarkup s!"  [dim]{snapshot.rows.length} row(s)[/dim]"
  | none => return ()

end StatementReport

/-! ## Reports -/

namespace ScriptReport

variable {κ τ : Type}

/-- Prints the reports on statements. -/
def printStatements (c : Console) (total : Nat) : List StatementReport → Action (World κ τ) Unit
  | [] => return ()
  | s :: rest => do
    s.print c total
    printStatements c total rest

/-- Prints what became of the run. -/
def printSummary (c : Console) (r : ScriptReport) : Action (World κ τ) Unit :=
  match r.error with
  | none =>
    let done := s!"\n[green]✓ Committed {r.successfulStatements} statement(s)[/green]"
    c.printMarkup (done ++ s!" [dim]({r.elapsed}ms)[/dim]")
  | some failure =>
    let message := c.escape failure.message
    c.printMarkup s!"\n[red]✗ Script rolled back:[/red] {message}"

/-- **Prints a report.** -/
def print (c : Console) (r : ScriptReport) : Action (World κ τ) Unit := do
  if r.totalStatements = 0 ∧ r.isSuccess then
    c.printMarkup s!"[yellow]No statements found in {r.source}[/yellow]"
  else
    printStatements c r.totalStatements r.statements
    if r.discardedParameters ≠ 0 then
      let n := r.discardedParameters
      c.printMarkup s!"[yellow]⚠ {n} unused parameter(s) discarded[/yellow]"
    r.printSummary c

end ScriptReport

/-! ## Split scripts -/

section

variable {κ τ : Type}

/-- Prints a statement of a split script. -/
def printUnit (c : Console) (total : Nat) (unit : StatementUnit) : Action (World κ τ) Unit := do
  let place := s!"\n[cyan]Statement {unit.index + 1}/{total}[/cyan]"
  c.printMarkup (place ++ s!" [dim]({unit.placeholderCount} placeholder(s))[/dim]")
  c.printText s!"  {unit.sql}"

/-- Prints statements of a split script. -/
def printUnitList (c : Console) (total : Nat) : List StatementUnit → Action (World κ τ) Unit
  | [] => return ()
  | unit :: rest => do
    printUnit c total unit
    printUnitList c total rest

/-- The length of the line below a heading. -/
def ruleLength : Nat := 60

/-- **Prints the statements that a script splits into**, with their numbers of placeholders. -/
def printUnits (c : Console) (units : List StatementUnit) (source : String) :
    Action (World κ τ) Unit := do
  c.printMarkup s!"[bold]{source}[/bold]: {units.length} statement(s)"
  c.printMarkup (String.ofList (List.replicate ruleLength '─'))
  printUnitList c units.length units

end

/-! ## Runs that are shown -/

namespace Runner

variable {κ τ Conn Stmt : Type}

/-- Prints the report of a run, if it is to be shown. -/
def present (c : Console) (shown : Bool) (report : ScriptReport) :
    Action (World κ τ) ScriptReport := do
  if shown then
    report.print c
  return report

/-- **Runs a script**, with a report that is printed if it is to be shown. -/
def presentScript (r : Runner κ τ Conn Stmt) (c : Console) (source script : String)
    (parameters : List Value) (shown : Bool) : Action (World κ τ) ScriptReport := do
  let report ← r.reportScript source script parameters
  present c shown report

/-- **Runs a single statement**, with a report that is printed if it is to be shown. -/
def presentStatement (r : Runner κ τ Conn Stmt) (c : Console) (text : String)
    (parameters : List Value) (shown : Bool) : Action (World κ τ) ScriptReport := do
  let report ← r.reportStatement text parameters
  present c shown report

end Runner

end SqlScript
