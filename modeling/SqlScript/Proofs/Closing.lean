import SqlScript.Proofs.Fitting
import SqlScript.Proofs.Interrupts

/-!
# Closing cursors

The cursor of a statement is closed after its rows were read, after reading them failed, and at once
if it has no row set. What closing raises is reported for no statement: it goes on as it came, in
place of a failure of reading too. The run is rolled back and released as after any other fault.

* `StatementUnit.opening`: the requests for a statement up to its cursor.
* `Responder.FailsClosing`: a run whose first fault is raised by closing a cursor.
* `Responder.stop_of_failsClosing`: such a run stops in closing, whatever reading the cursor gives.
* `Responder.raises_closeFault`: **a fault of closing a cursor is raised as it came**, so it blames
  its statement only if the database says so itself; a report of the run is lost with it.
-/

namespace SqlScript

open SqlScript.Action

/-- **The requests for one statement up to its cursor.** -/
def StatementUnit.opening (unit : StatementUnit) (batch : Batch) :
    List (StatementUnit × Request) :=
  (unit, .prepare unit.sql) :: Responder.executeRequests unit batch

/-- Whether a run ends in a failure that blames the statement with an index. -/
def Blames {α : Type} (index : Int) (r : Except Fault α) : Prop :=
  ∃ f : Failure, r = .error (.failure f) ∧ f.statementIndex = some index

/-- A run that raises a fault blames whom the fault blames. -/
theorem blames_error {α : Type} {index : Int} {e : Fault} :
    Blames index (.error e : Except Fault α) ↔
      ∃ f : Failure, e = .failure f ∧ f.statementIndex = some index := by
  simp [Blames]

/-- A fault that is no failure of the runner leaves no report behind. -/
theorem Runner.report_of_outside {κ τ Conn Stmt : Type} {r : Runner κ τ Conn Stmt} {source : String}
    {units : List StatementUnit} {parameters : List Value}
    {allocate : Action (World κ τ) (List Batch)} {batches : List Batch} {w w₁ w₂ : World κ τ}
    {e : Fault} (hallocate : allocate w.tick = (.ok batches, w₁))
    (hrun : r.executeUnits units batches w₁ = (.error e, w₂)) (he : ∀ f, e ≠ .failure f) :
    r.report source units parameters allocate w = (.error e, w₂) := by
  unfold Runner.report
  refine (bind_of_ok (show World.readClock w = (.ok w.now, w.tick) from rfl)).trans ?_
  refine (bind_of_ok (attempt_of_apply hallocate)).trans
    ((bind_of_ok (attempt_of_apply hrun)).trans ?_)
  cases e with
  | failure f => exact absurd rfl (he f)
  | outside kind message cause => rfl

namespace Responder

variable {σ : Type}

/-! ## Where closing fails -/

/-- **A run that fails in closing a cursor**, before anything else failed: the place of the
statement, what was asked until then, what closing raises, and the state in which it leaves the
database. What reading the cursor gives is left open. -/
inductive FailsClosing (d : Responder σ) (s : σ) (items : List (StatementUnit × Batch)) (i : Nat) :
    List Request → Fault → σ → Prop
  | intro {reply : Cursor} {s' : σ} {unit : StatementUnit} {batch : Batch} {c : Course σ}
      {e : Fault} : d .acquire s = (.ok reply, s') → items[i]? = some (unit, batch) →
      d.pursue ⟨s', {}⟩ (requestsOf (items.take i) ++ unit.opening batch) = c → c.stop = none →
      c.standing.cursor.closeFault = some e →
      FailsClosing d s items i (.acquire :: (c.made ++ [.closeCursor])) e c.standing.state

variable {d : Responder σ} {s state : σ} {items : List (StatementUnit × Batch)} {i : Nat}
  {asked : List Request} {e : Fault}

/-- The requests of a run, parted at the cursor of one of its statements. -/
theorem requestsOf_eq_append {unit : StatementUnit} {batch : Batch}
    (hitem : items[i]? = some (unit, batch)) :
    requestsOf items = (requestsOf (items.take i) ++ unit.opening batch) ++
      (unit, .closeCursor) :: requestsOf (items.drop (i + 1)) := by
  obtain ⟨hi, hitem⟩ := List.getElem?_eq_some_iff.1 hitem
  have hparts : items = items.take i ++ (unit, batch) :: items.drop (i + 1) := by
    rw [← hitem, List.getElem_cons_drop, List.take_append_drop]
  calc
    requestsOf items
      = requestsOf (items.take i ++ (unit, batch) :: items.drop (i + 1)) := congrArg _ hparts
    _ = _ := by
      simp only [requestsOf, List.flatMap_append, List.flatMap_cons, requests_map,
        StatementUnit.opening, List.append_assoc, List.cons_append, List.nil_append]

/-- A fault of closing is the flaw of its cursor, whatever reading it gives. -/
theorem flaw?_of_closeFault {cursor : Cursor} (h : cursor.closeFault = some e) :
    cursor.flaw? = some (.closing, e) := by
  unfold Cursor.flaw?
  rw [h]

/-- **Where closing fails, the run stops**, whatever reading the cursor gives. -/
theorem stop_of_failsClosing (h : d.FailsClosing s items i asked e state) :
    ∃ reply s' stop, d .acquire s = (.ok reply, s') ∧
      (d.pursue ⟨s', {}⟩ (requestsOf items)).stop = some stop ∧ stop.reported = e ∧
      asked = .acquire :: (d.pursue ⟨s', {}⟩ (requestsOf items)).made ∧
      (d.pursue ⟨s', {}⟩ (requestsOf items)).standing.state = state := by
  cases h with
  | @intro reply s' unit batch c e ha hitem hc hstop he =>
    have hmeet : d.meet c.standing .closeCursor = (some (.closing, e), c.standing) := by
      rw [meet, flaw?_of_closeFault he]
    have hcourse : d.pursue ⟨s', {}⟩ (requestsOf items) =
        { made := c.made ++ [.closeCursor], stop := some ⟨unit, .closing, e⟩
          standing := c.standing } := by
      rw [requestsOf_eq_append hitem, pursue_append, hc, Course.andThen, hstop]
      simp only [pursue, hmeet]
    exact ⟨reply, s', ⟨unit, .closing, e⟩, ha, by rw [hcourse], rfl, by rw [hcourse],
      by rw [hcourse]⟩

/-- A session that stops, and that is then rolled back and released, raises what is reported of
the stop. -/
theorem session_of_stop_of_grants {reply : Cursor} {s' : σ} {stop : Stop}
    (ha : d .acquire s = (.ok reply, s'))
    (hs : (d.pursue ⟨s', {}⟩ (requestsOf items)).stop = some stop)
    (hanswer : d.Grants (d.pursue ⟨s', {}⟩ (requestsOf items)).standing.state
      [.rollback, .release]) :
    (d.session s items).requests =
        .acquire :: ((d.pursue ⟨s', {}⟩ (requestsOf items)).made ++ [.rollback, .release]) ∧
      (d.session s items).result = .error stop.reported := by
  obtain ⟨hrollback, hrelease, -⟩ := hanswer
  obtain ⟨undone, hrollback⟩ := exists_ok_of_not_refuses id hrollback
  obtain ⟨released, hrelease⟩ := exists_ok_of_not_refuses id hrelease
  unfold session
  rw [ha]
  simp only [ending, hs, undo, hrollback, hrelease, List.append_assoc, List.singleton_append]
  exact ⟨trivial, rfl⟩

/-! ## Runs -/

/-- A script that is run with some statement has its parameters dealt out. -/
theorem batches_of_scriptItems {script : String} {parameters : List Value} {strict : Bool}
    (h : scriptItems script parameters strict ≠ []) :
    parseScript script ≠ [] ∧ ∃ batches,
      (allocate (parseScript script) parameters strict).map (·.1) = .ok batches ∧
      scriptItems script parameters strict = (parseScript script).zip batches := by
  unfold scriptItems at h ⊢
  cases hbatches : (allocate (parseScript script) parameters strict).map (·.1) with
  | error f =>
    rw [hbatches] at h
    exact absurd List.zip_nil_right h
  | ok batches =>
    refine ⟨fun hnil => h ?_, batches, rfl, rfl⟩
    rw [hnil, List.zip_nil_left]

/-- A run that fails in closing a cursor is a session that does. -/
theorem session_of_failsClosing {script : String} {parameters : List Value} {strict : Bool}
    (h : d.FailsClosing s (scriptItems script parameters strict) i asked e state)
    (hanswer : d.Grants state [.rollback, .release]) :
    parseScript script ≠ [] ∧ ∃ batches,
      (allocate (parseScript script) parameters strict).map (·.1) = .ok batches ∧
      (d.session s ((parseScript script).zip batches)).requests =
        asked ++ [.rollback, .release] ∧
      (d.session s ((parseScript script).zip batches)).result = .error e := by
  obtain ⟨reply, s', stop, ha, hs, rfl, rfl, rfl⟩ := stop_of_failsClosing h
  have hsome : scriptItems script parameters strict ≠ [] := by
    intro hnil
    rw [hnil] at hs
    cases hs
  obtain ⟨hscript, batches, hbatches, hitems⟩ := batches_of_scriptItems hsome
  have hsession := session_of_stop_of_grants ha hs hanswer
  refine ⟨hscript, batches, hbatches, ?_⟩
  rw [← hitems]
  exact hsession

/-- A script whose cursor fails in closing raises what closing raised. -/
theorem runScript_of_failsClosing (loader : Loader) {script : String} {parameters : List Value}
    {strict : Bool} {w : World Request σ}
    (h : d.FailsClosing w.outside (scriptItems script parameters strict) i asked e state)
    (hanswer : d.Grants state [.rollback, .release]) :
    ((d.runner loader strict).runScript script parameters w).1 = .error e ∧
      ((d.runner loader strict).runScript script parameters w).2.trace =
        w.trace ++ (asked ++ [.rollback, .release]) := by
  obtain ⟨hscript, batches, hbatches, hrequests, hresult⟩ := session_of_failsClosing h hanswer
  obtain ⟨htrace, hraises⟩ := runScript_of_allocate (d := d) loader hscript hbatches w
  exact ⟨hraises e hresult, by rw [htrace, hrequests]⟩

/-- What closing raised is raised in place of a report, unless it is a failure of the runner. -/
theorem reportScript_of_failsClosing (loader : Loader) {script : String} {parameters : List Value}
    {strict : Bool} {w : World Request σ}
    (h : d.FailsClosing w.outside (scriptItems script parameters strict) i asked e state)
    (hanswer : d.Grants state [.rollback, .release]) (he : ∀ f, e ≠ .failure f)
    (source : String) :
    ((d.runner loader strict).reportScript source script parameters w).1 = .error e := by
  obtain ⟨hscript, batches, hbatches, -, hresult⟩ := session_of_failsClosing h hanswer
  have hdeal := yields_allocateBatches (d := d) loader strict (parseScript script) parameters w.tick
  rw [hbatches] at hdeal
  obtain ⟨start, finish, hexecute⟩ := yields_executeUnits (d := d) loader strict
    (length_of_allocate hbatches) hscript
    ((d.runner loader strict).allocateBatches (parseScript script) parameters w.tick).2
  rw [hdeal.outside, show w.tick.outside = w.outside from rfl, hresult] at hexecute
  exact congrArg Prod.fst (Runner.report_of_outside hdeal.eq hexecute.eq he)

/-- **A fault of closing a cursor is raised as it came**, by every script on every database, without
a row set, after all rows were read and after reading them failed. So it blames its statement only
if the database says so itself. The run is rolled back and released, and nothing else is asked; a
report of it is not made. -/
theorem raises_closeFault (loader : Loader) (strict : Bool) {script : String}
    {parameters : List Value} {w : World Request σ}
    (h : d.FailsClosing w.outside (scriptItems script parameters strict) i asked e state)
    (hanswer : d.Grants state [.rollback, .release]) :
    ((d.runner loader strict).runScript script parameters w).1 = .error e ∧
      ((d.runner loader strict).runScript script parameters w).2.trace =
        w.trace ++ (asked ++ [.rollback, .release]) ∧
      (Blames i ((d.runner loader strict).runScript script parameters w).1 ↔
        ∃ f : Failure, e = .failure f ∧ f.statementIndex = some (i : Int)) ∧
      ((∀ f, e ≠ .failure f) →
        ∀ source, ((d.runner loader strict).reportScript source script parameters w).1 =
          .error e) := by
  obtain ⟨hresult, htrace⟩ := runScript_of_failsClosing loader h hanswer
  refine ⟨hresult, htrace, ?_, fun he source => ?_⟩
  · rw [hresult, blames_error]
  · exact reportScript_of_failsClosing loader h hanswer he source

/-- A database whose cursors cannot be read to their end and cannot be closed. -/
def crumbling : Responder Unit
  | .execute "SELECT a" _, s =>
    (.ok { columns := some [.text "a"]
           readFault := some (.of (.database .operational) "disk")
           closeFault := some (.of (.database .operational) "close failed") }, s)
  | _, s => (.ok {}, s)

/-- The second statement of a script, a query, fails in closing. -/
theorem failsClosing_crumbling :
    crumbling.FailsClosing () (scriptItems "DELETE FROM t; SELECT a" [] false) 1
      [.acquire, .prepare "DELETE FROM t", .execute "DELETE FROM t" [], .closeCursor,
        .prepare "SELECT a", .execute "SELECT a" [], .closeCursor]
      (.of (.database .operational) "close failed") () := by
  have hparse : parseScript "DELETE FROM t; SELECT a" =
      [⟨0, "DELETE FROM t", 0⟩, ⟨1, "SELECT a", 0⟩] := by decide +kernel
  have hitems : scriptItems "DELETE FROM t; SELECT a" [] false =
      [(⟨0, "DELETE FROM t", 0⟩, []), (⟨1, "SELECT a", 0⟩, [])] := by
    rw [scriptItems, hparse]
    rfl
  rw [hitems]
  have hitem : [(⟨0, "DELETE FROM t", 0⟩, []), (⟨1, "SELECT a", 0⟩, [])][1]? =
      some ((⟨1, "SELECT a", 0⟩ : StatementUnit), ([] : Batch)) := rfl
  exact .intro rfl hitem rfl rfl rfl

theorem grants_crumbling : crumbling.Grants () [.rollback, .release] := by
  simp [Grants, Refuses, crumbling]

theorem raises_closeFault_crumbling :
    crumbling.FailsClosing () (scriptItems "DELETE FROM t; SELECT a" [] false) 1
        [.acquire, .prepare "DELETE FROM t", .execute "DELETE FROM t" [], .closeCursor,
          .prepare "SELECT a", .execute "SELECT a" [], .closeCursor]
        (.of (.database .operational) "close failed") () ∧
      crumbling.Grants () [.rollback, .release] ∧
      ((crumbling.runner {} false).runScript "DELETE FROM t; SELECT a" [] { outside := () }).1 =
        .error (.of (.database .operational) "close failed") ∧
      ((crumbling.runner {} false).runScript "DELETE FROM t; SELECT a" []
          { outside := () }).2.trace =
        [.acquire, .prepare "DELETE FROM t", .execute "DELETE FROM t" [], .closeCursor,
          .prepare "SELECT a", .execute "SELECT a" [], .closeCursor, .rollback, .release] := by
  obtain ⟨hresult, htrace, -, -⟩ := raises_closeFault {} false (w := { outside := () })
    failsClosing_crumbling grants_crumbling
  exact ⟨failsClosing_crumbling, grants_crumbling, hresult, htrace⟩

/-- A query that fails in reading and in closing is not blamed: what is raised is no failure, and
the failure of reading is lost. -/
theorem not_blames_crumbling :
    crumbling.FailsClosing () (scriptItems "DELETE FROM t; SELECT a" [] false) 1
        [.acquire, .prepare "DELETE FROM t", .execute "DELETE FROM t" [], .closeCursor,
          .prepare "SELECT a", .execute "SELECT a" [], .closeCursor]
        (.of (.database .operational) "close failed") () ∧
      (Fault.of (.database .operational) "close failed").isOrdinary = true ∧
      crumbling.Grants () [.rollback, .release] ∧
      ¬ ∃ f : Failure, ((crumbling.runner {} false).runScript "DELETE FROM t; SELECT a" []
        { outside := () }).1 = .error (.failure f) := by
  refine ⟨failsClosing_crumbling, rfl, grants_crumbling, ?_⟩
  rintro ⟨f, hf⟩
  have hresult := (runScript_of_failsClosing {} (w := { outside := () }) failsClosing_crumbling
    grants_crumbling).1
  cases hresult.symm.trans hf

end Responder

end SqlScript
