import SqlScript.CommandLine.Program

/-!
# Actions that only print

Reports are shown on a console line by line. What is printed, and whether a line cannot be printed,
is told by the report alone, and nothing else in the world changes: no request is made, and neither
the log nor the clock is touched.

* `Action.OnlyPrints`: the actions that only print.
* `ScriptReport.onlyPrints_print`: **showing a report only prints.**
* `Runner.snd_presentScript`: what a run leaves that is shown.
-/

namespace SqlScript

namespace Action

variable {κ τ α β : Type}

/-- **An action that only prints**: what it prints and what it comes to is the same in every world,
and the world is left as it was otherwise. -/
def OnlyPrints (a : Action (World κ τ) α) : Prop :=
  ∃ text r, ∀ w, a w = (r, { w with printed := w.printed ++ text })

namespace OnlyPrints

variable {a : Action (World κ τ) α} {f : α → Action (World κ τ) β}

theorem pure (x : α) : OnlyPrints (Pure.pure x : Action (World κ τ) α) :=
  ⟨"", .ok x, fun w => by simp⟩

theorem ofExcept (r : Except Fault α) : OnlyPrints (Action.ofExcept r : Action (World κ τ) α) :=
  ⟨"", r, fun w => by simp [Action.ofExcept]⟩

theorem print (text : String) : OnlyPrints (World.print text : Action (World κ τ) Unit) :=
  ⟨text, .ok (), fun _ => rfl⟩

/-- One action after another prints one text after the other. -/
theorem bind (ha : OnlyPrints a) (hf : ∀ x, OnlyPrints (f x)) : OnlyPrints (a >>= f) := by
  obtain ⟨text, r, ha⟩ := ha
  cases r with
  | error e => exact ⟨text, .error e, fun w => bind_of_error (ha w)⟩
  | ok x =>
    obtain ⟨more, q, hf⟩ := hf x
    refine ⟨text ++ more, q, fun w => ?_⟩
    rw [bind_of_ok (ha w), hf, String.append_assoc]

/-- What an action leaves after which only printing is done, but for what is printed. -/
theorem snd_bind {b : α → Action (World κ τ) β} (hb : ∀ x, OnlyPrints (b x))
    (a : Action (World κ τ) α)
    (w : World κ τ) :
    ∃ text, ((a >>= b) w).2 = { (a w).2 with printed := (a w).2.printed ++ text } := by
  cases ha : a w with
  | mk r u =>
    cases r with
    | error e => exact ⟨"", by rw [bind_of_error ha, String.append_empty]⟩
    | ok x =>
      obtain ⟨text, q, hprints⟩ := hb x
      exact ⟨text, by rw [bind_of_ok ha, hprints]⟩

end OnlyPrints

end Action

open SqlScript.Action (OnlyPrints)

variable {κ τ : Type} (c : Console)

/-! ## Lines and tables -/

namespace Console

theorem onlyPrints_markup (markup : String) :
    OnlyPrints (c.printMarkup markup : Action (World κ τ) Unit) :=
  (OnlyPrints.ofExcept _).bind fun _ => .print _

theorem onlyPrints_table (header : List String) (rows : List (List String)) :
    OnlyPrints (c.printTable header rows : Action (World κ τ) Unit) :=
  (OnlyPrints.ofExcept _).bind fun _ => .print _

end Console

/-! ## Reports -/

theorem StatementReport.onlyPrints_print (s : StatementReport) (total : Nat) :
    OnlyPrints (s.print c total : Action (World κ τ) Unit) := by
  unfold print
  refine (c.onlyPrints_markup _).bind fun _ => ?_
  split
  · exact (c.onlyPrints_table _ _).bind fun _ => c.onlyPrints_markup _
  · exact .pure ()

namespace ScriptReport

theorem onlyPrints_statements (total : Nat) (statements : List StatementReport) :
    OnlyPrints (printStatements c total statements : Action (World κ τ) Unit) := by
  induction statements with
  | nil => exact .pure ()
  | cons s rest ih => exact (s.onlyPrints_print c total).bind fun _ => ih

theorem onlyPrints_summary (r : ScriptReport) :
    OnlyPrints (r.printSummary c : Action (World κ τ) Unit) := by
  unfold printSummary
  cases r.error <;> exact c.onlyPrints_markup _

/-- **Showing a report only prints.** -/
theorem onlyPrints_print (r : ScriptReport) :
    OnlyPrints (r.print c : Action (World κ τ) Unit) := by
  unfold print
  split
  · exact c.onlyPrints_markup _
  · refine (onlyPrints_statements c _ _).bind fun _ => ?_
    split
    · exact (c.onlyPrints_markup _).bind fun _ => r.onlyPrints_summary c
    · exact r.onlyPrints_summary c

end ScriptReport

namespace Runner

theorem onlyPrints_present (shown : Bool) (report : ScriptReport) :
    OnlyPrints (present c shown report : Action (World κ τ) ScriptReport) := by
  unfold present
  cases shown with
  | false => exact .pure report
  | true => exact (report.onlyPrints_print c).bind fun _ => .pure report

/-- A run that is shown leaves the world of its report, but for what is printed. -/
theorem snd_presentScript {Conn Stmt : Type} (r : Runner κ τ Conn Stmt) (source script : String)
    (parameters : List Value) (shown : Bool) (w : World κ τ) :
    ∃ text, (r.presentScript c source script parameters shown w).2 =
      { (r.reportScript source script parameters w).2 with
        printed := (r.reportScript source script parameters w).2.printed ++ text } :=
  OnlyPrints.snd_bind (fun report => onlyPrints_present c shown report) _ w

end Runner

end SqlScript
