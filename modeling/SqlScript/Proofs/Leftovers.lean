import SqlScript.Proofs.Clock
import SqlScript.Proofs.Fitting
import SqlScript.Proofs.Printing

/-!
# Parameters that are left over

A script deals its parameters out to its statements; a single statement takes them all. What no
statement takes is refused before anything is asked of the database, or dropped with a warning that
tells how many there are. A text without a statement takes none, and as a single statement it drops
them without a word.

* `leftOver`: the parameters that no statement takes.
* `Announces`: a message that tells a number.
* `Runner.allocateBatches_of_strict`, `Runner.allocateBatches_of_lenient`: the two rules.
* `Runner.reportScript_of_lenient`: a report tells how many were dropped, and is the same otherwise.
* `Runner.runs_leftOver`: **what becomes of parameters that are left over**, in scripts and in
  single statements.
-/

namespace SqlScript

open SqlScript.Action

/-- **The parameters that no statement takes.** -/
def leftOver (units : List StatementUnit) (parameters : List Value) : List Value :=
  (deal (placeholderCounts units) parameters).2

/-- The parameters that the statements take. -/
def takenOf (units : List StatementUnit) (parameters : List Value) : List Value :=
  parameters.take (placeholderCounts units).sum

/-- What is dealt out does not depend on what is left over. -/
theorem deal_take_sum {α : Type} (counts : List Nat) (parameters : List α) :
    deal counts (parameters.take counts.sum) = ((deal counts parameters).1, []) := by
  induction counts generalizing parameters with
  | nil => simp [deal]
  | cons n counts ih =>
    have htake : (parameters.take (n + counts.sum)).take n = parameters.take n := by
      rw [List.take_take, Nat.min_eq_left (Nat.le_add_right n counts.sum)]
    have hdrop : (parameters.take (n + counts.sum)).drop n =
        (parameters.drop n).take counts.sum := by
      rw [List.drop_take, Nat.add_sub_cancel_left]
    simp only [List.sum_cons, deal, htake, hdrop, ih]

/-- What is left over are the parameters behind those that are taken. -/
theorem leftOver_eq_drop (units : List StatementUnit) (parameters : List Value) :
    leftOver units parameters = parameters.drop (placeholderCounts units).sum := by
  unfold leftOver
  generalize placeholderCounts units = counts
  induction counts generalizing parameters with
  | nil => rfl
  | cons n counts ih => simp only [deal, ih, List.drop_drop, List.sum_cons]

theorem takenOf_append_leftOver (units : List StatementUnit) (parameters : List Value) :
    takenOf units parameters ++ leftOver units parameters = parameters := by
  rw [leftOver_eq_drop, takenOf, List.take_append_drop]

/-- The failure of parameters that are left over. -/
def excessOf (units : List StatementUnit) (parameters : List Value) : Failure :=
  Failure.excessParameters (leftOver units parameters).length (takenOf units parameters).length
    units.length

/-- The warning of parameters that are left over. -/
def excessWarning (units : List StatementUnit) (parameters : List Value) : String :=
  (excessOf units parameters).message ++ "; discarding them."

/-- **A message that tells a number**: it begins with it, and a blank ends the number. -/
def Announces (n : Nat) (message : String) : Prop :=
  ∃ rest, message.toList = (toString n).toList ++ ' ' :: rest

theorem Announces.append {n : Nat} {message : String} (h : Announces n message) (more : String) :
    Announces n (message ++ more) := by
  obtain ⟨rest, h⟩ := h
  exact ⟨rest ++ more.toList, by rw [String.toList_append, h, List.append_assoc, List.cons_append]⟩

/-- The failure of parameters that are left over tells how many they are. -/
theorem announces_excessParameters (left taken statements : Nat) :
    Announces left (Failure.excessParameters left taken statements).message := by
  let rest := s!"parameter(s) left over after allocating {taken} across {statements} statement(s)"
  refine ⟨rest.toList, ?_⟩
  simp [rest, Failure.excessParameters, Failure.excessDescription, toString]

theorem announces_excessWarning (units : List StatementUnit) (parameters : List Value) :
    Announces (leftOver units parameters).length (excessWarning units parameters) :=
  (announces_excessParameters _ _ _).append _

/-- Dealing out parameters of which some are left over. -/
theorem allocate_of_leftOver {units : List StatementUnit} {parameters : List Value}
    (h : leftOver units parameters ≠ []) (strict : Bool) :
    allocate units parameters strict =
      if strict then .error (excessOf units parameters)
      else .ok ((deal (placeholderCounts units) parameters).1,
        some (excessWarning units parameters)) := by
  have hleft : (Allocation.of units parameters).left = (leftOver units parameters).length := rfl
  have htaken : (Allocation.of units parameters).taken = (takenOf units parameters).length := by
    have hall := congrArg List.length (takenOf_append_leftOver units parameters)
    rw [List.length_append] at hall
    exact (Nat.eq_sub_of_add_eq hall).symm
  have hbatches : (Allocation.of units parameters).batches =
      (deal (placeholderCounts units) parameters).1 := rfl
  unfold allocate
  simp only [hleft, htaken, hbatches, List.length_eq_zero_iff, if_neg h]
  rfl

/-- Dealing out parameters of which none is left over. -/
theorem allocate_takenOf (units : List StatementUnit) (parameters : List Value) (strict : Bool) :
    allocate units (takenOf units parameters) strict =
      .ok ((deal (placeholderCounts units) parameters).1, none) := by
  have hdeal : deal (units.map (·.placeholderCount)) (takenOf units parameters) =
      ((deal (placeholderCounts units) parameters).1, []) := deal_take_sum _ parameters
  unfold allocate Allocation.of
  simp only [hdeal, List.length_nil, if_true]

/-- The world after a warning. -/
def World.warned {κ τ : Type} (w : World κ τ) (message : String) : World κ τ :=
  { w with log := w.log ++ [⟨.warning, message⟩] }

namespace Runner

variable {κ τ Conn Stmt : Type} {r : Runner κ τ Conn Stmt} {units : List StatementUnit}
  {parameters : List Value} {w : World κ τ}

/-! ## The two rules -/

/-- **Strictly, parameters that are left over are refused**, and the world is left as it is. -/
theorem allocateBatches_of_strict (hstrict : r.strictParameters = true)
    (h : leftOver units parameters ≠ []) (w : World κ τ) :
    r.allocateBatches units parameters w =
      (.error (.failure (excessOf units parameters)), w) := by
  unfold allocateBatches
  rw [allocate_of_leftOver h, hstrict, if_pos rfl]
  rfl

/-- **Otherwise they are dropped with a warning**, and the rest is dealt out as if they had not been
there. -/
theorem allocateBatches_of_lenient (hlenient : r.strictParameters = false)
    (h : leftOver units parameters ≠ []) (w : World κ τ) :
    r.allocateBatches units parameters w =
      r.allocateBatches units (takenOf units parameters)
        (w.warned (excessWarning units parameters)) := by
  unfold allocateBatches
  rw [allocate_of_leftOver h, hlenient, if_neg Bool.false_ne_true, allocate_takenOf]
  rfl

/-- Parameters that are all taken are dealt out without a word. -/
theorem allocateBatches_takenOf (w : World κ τ) :
    r.allocateBatches units (takenOf units parameters) w =
      (.ok (deal (placeholderCounts units) parameters).1, w) := by
  unfold allocateBatches
  rw [allocate_takenOf]
  rfl

/-! ## Reports -/

/-- How many parameters were dropped, told by their batches. -/
theorem discarded_deal (units : List StatementUnit) (parameters : List Value) :
    ScriptReport.discarded parameters.length (deal (placeholderCounts units) parameters).1 =
      (leftOver units parameters).length := by
  have hall := congrArg List.length (flatten_deal (placeholderCounts units) parameters)
  rw [List.length_append, List.length_flatten, List.sum_eq_foldl] at hall
  unfold ScriptReport.discarded
  simp only
  rw [← hall]
  show ((_ + (leftOver units parameters).length : Nat) : Int) - _ = _
  omega

/-- **A report is the same if its statements get the same batches**, but for the number of
parameters that it tells as discarded. -/
theorem report_of_batches {source : String} {parameters parameters' : List Value}
    {allocate allocate' : Action (World κ τ) (List Batch)} {batches : List Batch}
    {w w' u : World κ τ} {n : Int} (hnow : w.now = w'.now)
    (hdealt : allocate w.tick = (.ok batches, u)) (hdealt' : allocate' w'.tick = (.ok batches, u))
    (hlength : batches.length = units.length)
    (hn : ScriptReport.discarded parameters.length batches = n) :
    r.report source units parameters allocate w =
      ((r.report source units parameters' allocate' w').1.map
          fun report => { report with discardedParameters := n },
        (r.report source units parameters' allocate' w').2) := by
  have hstart : World.readClock w = (.ok w.now, w.tick) := rfl
  have hstart' : World.readClock w' = (.ok w.now, w'.tick) := by
    rw [hnow]
    rfl
  unfold Runner.report
  rw [bind_of_ok hstart, bind_of_ok hstart', bind_of_ok (attempt_of_apply hdealt),
    bind_of_ok (attempt_of_apply hdealt')]
  cases hrun : r.executeUnits units batches u with
  | mk result v =>
    simp only [bind_of_ok (attempt_of_apply hrun)]
    have hclock : (do
        let finish ← World.readClock
        Action.ofExcept (elapsedMilliseconds w.now finish) : Action (World κ τ) Int) v =
        (elapsedMilliseconds w.now v.now, v.tick) := rfl
    cases result with
    | ok outcomes =>
      cases htime : elapsedMilliseconds w.now v.now with
      | error e => simp only [bind_of_error (hclock.trans (by rw [htime])), Except.map]
      | ok ms =>
        simp only [bind_of_ok (hclock.trans (by rw [htime])), pure_apply, Except.map,
          ScriptReport.ofOutcomes, hn]
    | error e =>
      cases e with
      | outside kind message cause => rfl
      | failure f =>
        -- only a run of some statement fails, so there are batches
        have hsome : batches.isEmpty = false := by
          cases batches with
          | cons batch batches => rfl
          | nil =>
            obtain rfl := List.length_eq_zero_iff.1 hlength.symm
            have hnone := (r.executeUnits_nil u).result
            rw [hrun] at hnone
            cases hnone
        cases htime : elapsedMilliseconds w.now v.now with
        | error e => simp only [bind_of_error (hclock.trans (by rw [htime])), Except.map]
        | ok ms =>
          simp only [bind_of_ok (hclock.trans (by rw [htime])), ScriptReport.ofFailure, hsome, hn,
            Bool.false_eq_true, if_false]
          rfl

/-- **A report of a script tells how many parameters were dropped**, and is otherwise the report of
the script without them. -/
theorem reportScript_of_lenient {script : String} (hlenient : r.strictParameters = false)
    (h : leftOver (parseScript script) parameters ≠ []) (source : String) (w : World κ τ) :
    let told := r.reportScript source script (takenOf (parseScript script) parameters)
      (w.warned (excessWarning (parseScript script) parameters))
    r.reportScript source script parameters w =
      (told.1.map fun report =>
        { report with discardedParameters := (leftOver (parseScript script) parameters).length },
        told.2) := by
  have hlength : (deal (placeholderCounts (parseScript script)) parameters).1.length =
      (parseScript script).length := by
    rw [length_deal, placeholderCounts, List.length_map]
  have hdealt := (allocateBatches_of_lenient hlenient h w.tick).trans
    (allocateBatches_takenOf (r := r) (w.tick.warned _))
  exact report_of_batches rfl hdealt (allocateBatches_takenOf _) hlength (discarded_deal _ _)

/-- The time since the start of a run that did not read the clock again. -/
theorem elapsed_tick {ms : Int} (hms : elapsedMilliseconds w.now w.tick.now = .ok ms)
    {u : World κ τ} (hu : u.clock = w.tick.clock) :
    (do
      let finish ← World.readClock
      Action.ofExcept (elapsedMilliseconds w.now finish) : Action (World κ τ) Int) u =
      (.ok ms, u.tick) := by
  rw [← hms, ← World.now_congr hu]
  rfl

/-- **A report of a script whose parameters are refused** tells of that. -/
theorem reportScript_of_strict {script : String} (hstrict : r.strictParameters = true)
    (h : leftOver (parseScript script) parameters ≠ []) (source : String) {ms : Int}
    (hms : elapsedMilliseconds w.now w.tick.now = .ok ms) :
    let f := excessOf (parseScript script) parameters
    r.reportScript source script parameters w =
      (.ok (.ofFailure source (parseScript script) [] f parameters.length ms),
        { w.tick.tick with
          log := w.log ++ [⟨.debug, s!"Run of {source} failed with {f.code}"⟩] }) := by
  unfold reportScript Runner.report
  refine (bind_of_ok (show World.readClock w = (.ok w.now, w.tick) from rfl)).trans ?_
  exact (bind_of_ok (attempt_of_apply (allocateBatches_of_strict hstrict h _))).trans
    ((bind_of_ok (elapsed_tick hms rfl)).trans rfl)

/-- **A report of a single statement that is none** is that of a success. -/
theorem reportStatement_of_blank {text : String} (htext : split text = []) {ms : Int}
    (hms : elapsedMilliseconds w.now w.tick.now = .ok ms) :
    r.reportStatement text parameters w =
      (.ok (.ofOutcomes statementSource [] [] [] parameters.length ms),
        { w.tick.tick with log := w.log ++
          [⟨.debug, "Script contains no statements; nothing to execute"⟩] }) := by
  unfold reportStatement Runner.report
  rw [if_pos htext]
  refine (bind_of_ok (show World.readClock w = (.ok w.now, w.tick) from rfl)).trans ?_
  refine (bind_of_ok (show attempt (pure []) w.tick = (.ok (.ok []), w.tick) from rfl)).trans ?_
  let u : World κ τ := { w.tick with
    log := w.log ++ [⟨.debug, "Script contains no statements; nothing to execute"⟩] }
  have hran : attempt (r.executeUnits [] []) w.tick = (.ok (.ok []), u) := rfl
  have hclock := elapsed_tick hms (show u.clock = w.tick.clock from rfl)
  exact (bind_of_ok hran).trans ((bind_of_ok hclock).trans rfl)

/-! ## Runs -/

variable (r : Runner κ τ Conn Stmt) (script text : String) (parameters : List Value) (w : World κ τ)

/-- **A script is refused for its left-over parameters**: that is what is raised, or what the report
tells, with their number, and no request is made. -/
structure RefusesLeftovers : Prop where
  told : Announces (leftOver (parseScript script) parameters).length
    (excessOf (parseScript script) parameters).message
  raised : r.runScript script parameters w =
    (.error (.failure (excessOf (parseScript script) parameters)), w)
  reported (source : String) : ∃ report w',
    r.reportScript source script parameters w = (.ok report, w') ∧
      report.error = some (excessOf (parseScript script) parameters)
  unasked (c : Console) (source : String) (shown : Bool) :
    (r.presentScript c source script parameters shown w).2.trace = w.trace

/-- **A script drops its left-over parameters with a warning** that tells their number: it does what
it does without them after the warning, and a report tells their number too. -/
structure DropsLeftovers : Prop where
  told : Announces (leftOver (parseScript script) parameters).length
    (excessWarning (parseScript script) parameters)
  run : r.runScript script parameters w =
    r.runScript script (takenOf (parseScript script) parameters)
      (w.warned (excessWarning (parseScript script) parameters))
  reported (source : String) :
    let told := r.reportScript source script (takenOf (parseScript script) parameters)
      (w.warned (excessWarning (parseScript script) parameters))
    r.reportScript source script parameters w =
      (told.1.map fun report =>
        { report with discardedParameters := (leftOver (parseScript script) parameters).length },
        told.2)
  asked (c : Console) (source : String) (shown : Bool) :
    (r.presentScript c source script parameters shown w).2.trace =
      (r.presentScript c source script (takenOf (parseScript script) parameters) shown
        (w.warned (excessWarning (parseScript script) parameters))).2.trace

/-- **A single statement that is none drops its parameters without a word**: it succeeds, only its
report has their number, and the log has no warning. -/
structure OverlooksParameters : Prop where
  run : ∃ message, r.runStatement text parameters w =
    (.ok none, { w with log := w.log ++ [⟨.debug, message⟩] })
  reported : ∃ report message, r.reportStatement text parameters w =
      (.ok report, { w.tick.tick with log := w.log ++ [⟨.debug, message⟩] }) ∧
    report.isSuccess = true ∧ report.discardedParameters = parameters.length

variable {r script text parameters w}

theorem refusesLeftovers (hstrict : r.strictParameters = true)
    (h : leftOver (parseScript script) parameters ≠ []) (htime : w.HasTime) :
    r.RefusesLeftovers script parameters w := by
  obtain ⟨ms, hms⟩ := htime
  have hreport := fun source => reportScript_of_strict hstrict h source hms
  exact {
    told := announces_excessParameters _ _ _
    raised := bind_of_error (allocateBatches_of_strict hstrict h w)
    reported := fun source => ⟨_, _, hreport source, rfl⟩
    unasked := fun c source shown => by
      obtain ⟨printed, hpresent⟩ := r.snd_presentScript c source script parameters shown w
      rw [hpresent, hreport]
      rfl }

theorem dropsLeftovers (hlenient : r.strictParameters = false)
    (h : leftOver (parseScript script) parameters ≠ []) :
    r.DropsLeftovers script parameters w where
  told := announces_excessWarning _ _
  run := by
    unfold runScript
    rw [bind_apply, bind_apply, allocateBatches_of_lenient hlenient h w]
  reported source := reportScript_of_lenient hlenient h source w
  asked c source shown := by
    obtain ⟨printed, hpresent⟩ := r.snd_presentScript c source script parameters shown w
    obtain ⟨printed', hpresent'⟩ := r.snd_presentScript c source script
      (takenOf (parseScript script) parameters) shown
      (w.warned (excessWarning (parseScript script) parameters))
    rw [hpresent, hpresent', reportScript_of_lenient hlenient h source w]

theorem overlooksParameters (htext : split text = []) (htime : w.HasTime) :
    r.OverlooksParameters text parameters w := by
  obtain ⟨ms, hms⟩ := htime
  have hrun : r.runStatement text parameters w = (.ok none,
      { w with log := w.log ++ [⟨.debug, "Statement is empty; nothing to execute"⟩] }) := by
    unfold runStatement
    rw [if_pos htext]
    rfl
  exact ⟨⟨_, hrun⟩, _, _, reportStatement_of_blank htext hms, rfl, Int.sub_zero _⟩

/-- **What becomes of parameters that are left over.** A strict runner refuses a script that leaves
some over, before its first request; another one drops them with a warning. A single statement takes
all its parameters. But a text that is none drops them without a word, whether the runner is strict
or not. -/
theorem runs_leftOver (r : Runner κ τ Conn Stmt) (parameters : List Value) (w : World κ τ)
    (htime : w.HasTime) :
    (∀ script, leftOver (parseScript script) parameters ≠ [] →
      if r.strictParameters then r.RefusesLeftovers script parameters w
      else r.DropsLeftovers script parameters w) ∧
    ∀ text, if split text = [] then r.OverlooksParameters text parameters w
      else r.runStatement text parameters = (do
        let outcomes ← r.executeUnits [parseStatement text] [parameters]
        return outcomes.headD none) := by
  refine ⟨fun script h => ?_, fun text => ?_⟩
  · cases hstrict : r.strictParameters with
    | true => exact refusesLeftovers hstrict h htime
    | false => exact dropsLeftovers hstrict h
  · split
    · rename_i htext
      exact overlooksParameters htext htime
    · rename_i htext
      exact if_neg htext

/-- A script that turns out to have no statement, for a runner that is strict. -/
theorem runs_leftOver_comment :
    let r := Responder.counting.runner {} true
    let w : World Request Unit := { outside := () }
    w.HasTime ∧ leftOver (parseScript "-- nothing") [.int 1] ≠ [] ∧
      r.RefusesLeftovers "-- nothing" [.int 1] w := by
  intro r w
  have htime : w.HasTime := by decide +kernel
  have hparse : parseScript "-- nothing" = [] := by decide +kernel
  have hleft : leftOver (parseScript "-- nothing") [.int 1] ≠ [] := by
    rw [hparse]
    exact List.cons_ne_nil _ _
  exact ⟨htime, hleft, (runs_leftOver r [.int 1] w htime).1 "-- nothing" hleft⟩

/-- A strict runner drops the parameter of a text that is no statement: there is no failure, and no
warning. -/
theorem not_refuses_comment :
    let r := Responder.counting.runner {} true
    let ran := r.runStatement "-- nothing" [.int 1] { outside := () }
    r.strictParameters = true ∧ split "-- nothing" = [] ∧
      (¬ ∃ f, ran.1 = .error f) ∧ ∀ entry ∈ ran.2.log, entry.level ≠ .warning := by
  have htext : split "-- nothing" = [] := by decide +kernel
  have hoverlooks : (Responder.counting.runner {} true).OverlooksParameters "-- nothing" [.int 1]
      { outside := () } := overlooksParameters htext (by decide +kernel)
  obtain ⟨⟨message, hran⟩, -⟩ := hoverlooks
  simp only [hran]
  exact ⟨rfl, htext, nofun, by simp⟩

end Runner

end SqlScript
