import SqlScript.Proofs.FailedReports
import SqlScript.Proofs.Shape
import Mathlib.Algebra.Ring.Nat
import Mathlib.Order.Bounds.Defs

/-!
# Parameters that fit

One list of parameters is dealt out to the statements of a script. Nobody checks before the run that
there are enough of them: the first statement that gets too few is executed with what is left, and
it is up to the database to refuse it. On a database that does, a script commits exactly if its
parameters fit.

* `dealt`, `allocate_cases`: statements with their batches, and when they are refused.
* `Fits`, `fits_take_dealt`: which batches have one value for each placeholder.
* `prepared`, `Responder.prepared_pursue`: the statements that were asked to be prepared, and which
  they are if a run stops.
* `Responder.IsExact`: a database that refuses to execute with a wrong number of parameters, and
  nothing else.
* `Responder.stop_requestsOf`: it lets a run come to its end exactly if all batches fit.
* `Responder.commits_runScript`: **a script commits exactly if its parameters fit**; otherwise it
  fails before its first request, or at the first statement that gets too few.
-/

namespace SqlScript

/-! ## Dealing out parameters -/

/-- The numbers of placeholders of statements. -/
def placeholderCounts (units : List StatementUnit) : List Nat := units.map (·.placeholderCount)

/-- What is left over is what exceeds the placeholders. -/
theorem length_left_deal {α : Type} (counts : List Nat) (parameters : List α) :
    (deal counts parameters).2.length = parameters.length - counts.sum := by
  induction counts generalizing parameters with
  | nil => simp [deal]
  | cons n counts ih =>
    simp only [deal, ih, List.length_drop, List.sum_cons]
    omega

/-- **A batch fits** its statement if it has one value for each placeholder. -/
def Fits (item : StatementUnit × Batch) : Prop := item.2.length = countPlaceholders item.1.sql

instance (item : StatementUnit × Batch) : Decidable (Fits item) :=
  inferInstanceAs (Decidable (item.2.length = countPlaceholders item.1.sql))

/-- **Statements with the batches that are dealt out to them.** -/
def dealt (units : List StatementUnit) (parameters : List Value) : List (StatementUnit × Batch) :=
  units.zip (deal (placeholderCounts units) parameters).1

theorem map_fst_dealt (units : List StatementUnit) (parameters : List Value) :
    (dealt units parameters).map (·.1) = units := by
  refine List.map_fst_zip (Nat.le_of_eq ?_)
  rw [length_deal, placeholderCounts, List.length_map]

/-- **Parameters are refused** exactly if some are left over and none may be. -/
theorem allocate_cases (units : List StatementUnit) (parameters : List Value) (strict : Bool) :
    if strict = true ∧ (placeholderCounts units).sum < parameters.length then
      ∃ left taken, allocate units parameters strict =
        .error (.excessParameters left taken units.length)
    else ∃ batches, (allocate units parameters strict).map (·.1) = .ok batches ∧
      units.zip batches = dealt units parameters := by
  have hleft : (Allocation.of units parameters).left =
      parameters.length - (placeholderCounts units).sum :=
    length_left_deal (placeholderCounts units) parameters
  have hbatches : (Allocation.of units parameters).batches =
      (deal (placeholderCounts units) parameters).1 := rfl
  unfold allocate
  simp only [hleft, hbatches]
  by_cases hexcess : (placeholderCounts units).sum < parameters.length
  · have hsome : parameters.length - (placeholderCounts units).sum ≠ 0 := by omega
    cases strict with
    | true =>
      rw [if_pos ⟨rfl, hexcess⟩, if_neg hsome, if_pos rfl]
      exact ⟨_, _, rfl⟩
    | false =>
      rw [if_neg (by simp), if_neg hsome, if_neg (by simp)]
      exact ⟨_, rfl, rfl⟩
  · have hnone : parameters.length - (placeholderCounts units).sum = 0 := by omega
    rw [if_neg fun h => hexcess h.2, if_pos hnone]
    exact ⟨_, rfl, rfl⟩

section Dealt

variable {units : List StatementUnit}
  (hunits : ∀ unit ∈ units, unit.placeholderCount = countPlaceholders unit.sql)

include hunits

/-- **The batches up to a place fit** exactly if there are parameters enough for them. -/
theorem fits_take_dealt (parameters : List Value) (i : Nat) :
    (∀ item ∈ (dealt units parameters).take i, Fits item) ↔
      ((placeholderCounts units).take i).sum ≤ parameters.length := by
  induction units generalizing parameters i with
  | nil => simp [dealt, placeholderCounts]
  | cons unit units ih =>
    have hunit := hunits unit List.mem_cons_self
    have hrest := fun i => ih (fun u hu => hunits u (List.mem_cons_of_mem _ hu))
      (parameters.drop unit.placeholderCount) i
    have hfirst : Fits (unit, parameters.take unit.placeholderCount) ↔
        unit.placeholderCount ≤ parameters.length := by
      rw [Fits, ← hunit, List.length_take]
      omega
    have hcounts : placeholderCounts (unit :: units) =
        unit.placeholderCount :: placeholderCounts units := rfl
    have hdealt : dealt (unit :: units) parameters =
        (unit, parameters.take unit.placeholderCount) ::
          dealt units (parameters.drop unit.placeholderCount) := rfl
    cases i with
    | zero => simp
    | succ i =>
      rw [hcounts, hdealt, List.take_succ_cons, List.take_succ_cons, List.forall_mem_cons, hfirst,
        hrest, List.length_drop, List.sum_cons]
      omega

/-- All batches fit exactly if there are parameters enough. -/
theorem fits_dealt (parameters : List Value) :
    (∀ item ∈ dealt units parameters, Fits item) ↔
      (placeholderCounts units).sum ≤ parameters.length := by
  have hitems : (dealt units parameters).length = units.length := by
    have hfst := congrArg List.length (map_fst_dealt units parameters)
    rwa [List.length_map] at hfst
  have hcounts : (placeholderCounts units).length = units.length := by
    rw [placeholderCounts, List.length_map]
  have hall := fits_take_dealt hunits parameters units.length
  rw [List.take_of_length_le (Nat.le_of_eq hitems), List.take_of_length_le (Nat.le_of_eq hcounts)]
    at hall
  exact hall

end Dealt

theorem placeholderCount_of_mem_parseScript {script : String} {unit : StatementUnit}
    (h : unit ∈ parseScript script) : unit.placeholderCount = countPlaceholders unit.sql := by
  obtain ⟨i, hi⟩ := List.mem_iff_getElem?.1 h
  rw [parseScript, List.getElem?_mapIdx] at hi
  obtain ⟨sql, -, rfl⟩ := Option.map_eq_some_iff.1 hi
  rfl

/-! ## What was prepared -/

/-- The statement that a request prepares. -/
def Request.prepared? : Request → Option String
  | .prepare sql => some sql
  | _ => none

/-- **The statements that were asked to be prepared**, in order. -/
def prepared (requests : List Request) : List String := requests.filterMap Request.prepared?

theorem length_prepared (requests : List Request) :
    (prepared requests).length = prepares requests := by
  rw [prepared, List.length_filterMap_eq_countP, prepares]
  congr 1
  funext request
  cases request <;> rfl

theorem prepared_requests (unit : StatementUnit) (batch : Batch) :
    prepared (unit.requests batch) = [unit.sql] := by
  have hbind : prepared (batch.mapIdx fun i value => Request.bind unit.sql (1 + i) value) = [] := by
    refine List.filterMap_eq_nil_iff.2 fun request hr => ?_
    obtain ⟨i, hi, rfl⟩ := List.mem_mapIdx.1 hr
    rfl
  rw [prepared] at hbind
  rw [prepared, StatementUnit.requests, List.cons_append, List.filterMap_cons,
    List.filterMap_append, hbind]
  rfl

/-- The plan for statements prepares each of them once. -/
theorem prepared_requestsOf (items : List (StatementUnit × Batch)) :
    prepared ((requestsOf items).map (·.2)) = (items.map (·.1)).map (·.sql) := by
  induction items with
  | nil => rfl
  | cons item items ih =>
    obtain ⟨unit, batch⟩ := item
    have hunit : ((unit.requests batch).map (unit, ·)).map (·.2) = unit.requests batch := by
      rw [List.map_map]
      exact List.map_id _
    have happend : prepared (((requestsOf ((unit, batch) :: items))).map (·.2)) =
        prepared (unit.requests batch) ++ prepared ((requestsOf items).map (·.2)) := by
      rw [Responder.requestsOf_cons, List.map_append, hunit]
      exact List.filterMap_append
    rw [happend, prepared_requests, ih]
    rfl

/-- Whether a request executes a statement. -/
def Request.IsExecution : Request → Prop
  | .execute .. => True
  | _ => False

namespace Responder

open SqlScript.Action

variable {σ : Type} {d : Responder σ} {s : Standing σ} {state s' : σ}
  {items : List (StatementUnit × Batch)} {stop : Stop}

/-- **A run that stopped** prepared the statements up to the place where it did. -/
theorem prepared_pursue (h : (d.pursue s (requestsOf items)).stop = some stop) :
    ∃ k item, items[k]? = some item ∧ stop.unit = item.1 ∧
      prepared (d.pursue s (requestsOf items)).made =
        ((items.map (·.1)).take (k + 1)).map (·.sql) ∧
      ∀ i, (d.pursue s (requestsOf (items.take i))).stop = none ↔ i ≤ k := by
  obtain ⟨k, item, hitem, hunit, hprepares, hplaces⟩ := exists_stop h
  have hprefix := (isPrefix_made_pursue d s (requestsOf items)).filterMap Request.prepared?
  refine ⟨k, item, hitem, hunit, ?_, hplaces⟩
  rw [← prepared, ← prepared, prepared_requestsOf] at hprefix
  rw [List.prefix_iff_eq_take.1 hprefix, length_prepared, hprepares, List.map_take]

/-! ## Exact databases -/

/-- **A database that is exact about parameters**: it refuses to execute a statement with a number
of parameters that is not that of its placeholders, and nothing else. -/
structure IsExact (d : Responder σ) : Prop where
  executes : ∀ sql parameters s, (∃ e, (d (.execute sql parameters) s).1 = .error e) ↔
    parameters.length ≠ countPlaceholders sql
  answers : ∀ request s e, (d request s).1 = .error e →
    request.IsExecution ∧ e.isOrdinary = true
  cursors : ∀ sql parameters s cursor, (d (.execute sql parameters) s).1 = .ok cursor →
    cursor.flaw? = none

/-- An exact database answers whatever is not to execute a statement. -/
theorem IsExact.ok (hd : d.IsExact) (request : Request) (s : σ)
    (h : ¬ request.IsExecution) : ∃ cursor s', d request s = (.ok cursor, s') := by
  have hanswers := hd.answers request s
  cases hr : d request s with
  | mk reply s' =>
    rw [hr] at hanswers
    cases reply with
    | ok cursor => exact ⟨cursor, s', rfl⟩
    | error e => exact absurd (hanswers e rfl).1 h

/-- An exact database lets values be bound. -/
theorem stop_bindRequests (hd : d.IsExact) (unit : StatementUnit) (position : Int) (batch : Batch)
    (s : Standing σ) : (d.pursue s (bindRequests unit position batch)).stop = none := by
  cases hs : (d.pursue s (bindRequests unit position batch)).stop with
  | none => rfl
  | some stop =>
    obtain ⟨request, s', hmem, hmeet⟩ := meet_of_stop hs
    rw [bindRequests, List.mem_mapIdx] at hmem
    obtain ⟨i, hi, hx⟩ := hmem
    obtain ⟨-, rfl⟩ := Prod.mk.inj hx
    obtain ⟨cursor, state, hr⟩ := hd.ok (.bind unit.sql (position + i) batch[i]) s'.state
      not_false
    simp only [meet, hr] at hmeet
    cases hmeet

/-- **One statement comes to its end** exactly if its batch fits. -/
theorem stop_statement (hd : d.IsExact) (unit : StatementUnit) (batch : Batch) (s : Standing σ) :
    (d.pursue s ((unit.requests batch).map (unit, ·))).stop = none ↔ Fits (unit, batch) := by
  obtain ⟨cursor, state, hp⟩ := hd.ok (.prepare unit.sql) s.state not_false
  have hbind := stop_bindRequests hd unit 1 batch ⟨state, cursor⟩
  rw [requests_map, executeRequests, List.append_assoc]
  simp only [pursue, meet, hp, pursue_append]
  generalize d.pursue ⟨state, cursor⟩ (bindRequests unit 1 batch) = c at hbind ⊢
  obtain ⟨made, stop, standing⟩ := c
  obtain rfl : stop = none := hbind
  have hexecutes := hd.executes unit.sql batch standing.state
  have hcursors := hd.cursors unit.sql batch standing.state
  simp only [Course.andThen]
  cases hr : d (.execute unit.sql batch) standing.state with
  | mk reply state' =>
    rw [hr] at hexecutes hcursors
    cases reply with
    | error e => exact iff_of_false (by simp) (hexecutes.1 ⟨e, rfl⟩)
    | ok cursor' =>
      have hanswered : ¬ ∃ e, (Except.ok cursor' : Except Fault Cursor) = .error e := by simp
      have hfits : Fits (unit, batch) := Decidable.not_not.1 ((not_congr hexecutes).1 hanswered)
      simp only [hcursors cursor' rfl]
      exact iff_of_true trivial hfits

/-- **A run comes to its end** exactly if all batches fit. -/
theorem stop_requestsOf (hd : d.IsExact) (items : List (StatementUnit × Batch)) (s : Standing σ) :
    (d.pursue s (requestsOf items)).stop = none ↔ ∀ item ∈ items, Fits item := by
  induction items generalizing s with
  | nil => exact iff_of_true rfl (by simp)
  | cons item items ih =>
    obtain ⟨unit, batch⟩ := item
    have hfirst := stop_statement hd unit batch s
    rw [pursue_requestsOf_cons, List.forall_mem_cons, ← hfirst]
    generalize d.pursue s ((unit.requests batch).map (unit, ·)) = c
    obtain ⟨made, stop, standing⟩ := c
    cases stop with
    | some stop => exact iff_of_false (by simp [Course.andThen]) (by simp)
    | none =>
      rw [← ih standing]
      exact ⟨fun h => ⟨rfl, h⟩, fun h => h.2⟩

/-- What stops a run is an ordinary fault of executing. -/
theorem phase_of_stop (hd : d.IsExact) (h : (d.pursue s (requestsOf items)).stop = some stop) :
    stop.phase = .executing ∧ stop.fault.isOrdinary = true := by
  cases causes_of_stop h with
  | preparing he => exact (hd.answers _ _ _ he).1.elim
  | executing he => exact ⟨rfl, (hd.answers _ _ _ he).2⟩
  | reading hcursor hflaw =>
    rw [hd.cursors _ _ _ _ hcursor] at hflaw
    cases hflaw

/-- A session that does not come to its end is rolled back, and blames the statement where it
stopped. -/
theorem session_of_stop (hd : d.IsExact) {cursor : Cursor}
    (ha : d .acquire state = (.ok cursor, s'))
    (hs : (d.pursue ⟨s', {}⟩ (requestsOf items)).stop = some stop) :
    (d.session state items).requests =
        .acquire :: ((d.pursue ⟨s', {}⟩ (requestsOf items)).made ++ [.rollback, .release]) ∧
      (d.session state items).result =
        .error (.failure (Failure.executionFailed stop.unit.index stop.fault)) := by
  obtain ⟨hphase, hordinary⟩ := phase_of_stop hd hs
  have hreported : stop.reported =
      .failure (Failure.executionFailed stop.unit.index stop.fault) := by
    simp only [Stop.reported, hphase, Fault.reportedAs, hordinary, if_true]
  unfold session
  rw [ha]
  simp only
  generalize d.pursue ⟨s', {}⟩ (requestsOf items) = c at hs ⊢
  obtain ⟨reply, s₁, hr⟩ := hd.ok .rollback c.standing.state not_false
  obtain ⟨reply', s₂, hr'⟩ := hd.ok .release s₁ not_false
  simp only [ending, hs, undo, hr, hr', hreported, List.append_assoc, List.singleton_append]
  exact ⟨trivial, rfl⟩

/-- On a connection it is up to the end of a session whether it commits. -/
theorem commits_connected {cursor : Cursor} {tail : List Request}
    (ha : d .acquire state = (.ok cursor, s')) :
    d.Commits state (.acquire :: ((d.pursue ⟨s', {}⟩ (requestsOf items)).made ++ tail)) ↔
      d.Commits (d.pursue ⟨s', {}⟩ (requestsOf items)).standing.state tail := by
  have hplan : ∀ x ∈ requestsOf items, x.2.IsOfStatement := fun _ => isOfStatement_of_mem_requestsOf
  simp only [Commits, reduceCtorEq, false_and, false_or, after, ha]
  exact commits_pursue (s := ⟨s', {}⟩) hplan

/-- **A session commits** exactly if all batches fit. -/
theorem commits_session (hd : d.IsExact) (state : σ) (items : List (StatementUnit × Batch)) :
    d.Commits state (d.session state items).requests ↔ ∀ item ∈ items, Fits item := by
  have hcommit : ∀ s e, (d .commit s).1 = .error e → e.isOrdinary :=
    fun _ _ he => (hd.answers _ _ _ he).2
  have hshape := isTransaction_session hcommit state items
  generalize (d.session state items).requests = requests at hshape ⊢
  cases hshape with
  | refused ha => exact (hd.answers .acquire state _ (by rw [ha])).1.elim
  | @undone cursor s' stop ha hs =>
    have hmisfit : ¬ ∀ item ∈ items, Fits item := by
      rw [← stop_requestsOf hd items ⟨s', {}⟩, hs]
      simp
    refine iff_of_false ?_ hmisfit
    rw [commits_connected ha]
    simp [Commits]
  | uncommitted ha hs he => exact (hd.answers _ _ _ he).1.elim
  | @committed cursor reply s' ha hs hr =>
    refine iff_of_true ?_ ((stop_requestsOf hd items ⟨s', {}⟩).1 hs)
    rw [← made_pursue_of_stop_none d ⟨s', {}⟩ _ hs, commits_connected ha]
    refine .inl ⟨rfl, ?_⟩
    rintro ⟨e, he⟩
    rw [hr] at he
    cases he

/-! ## Scripts -/

variable {script : String} {parameters : List Value} {strict : Bool}

/-- A script whose parameters are not refused is run in a session, and raises what that raises. -/
theorem runScript_of_allocate {batches : List Batch} (loader : Loader)
    (hscript : parseScript script ≠ [])
    (hbatches : (allocate (parseScript script) parameters strict).map (·.1) = .ok batches)
    (w : World Request σ) :
    let n := d.session w.outside ((parseScript script).zip batches)
    ((d.runner loader strict).runScript script parameters w).2.trace = w.trace ++ n.requests ∧
      ∀ e, n.result = .error e →
        ((d.runner loader strict).runScript script parameters w).1 = .error e := by
  have hdeal := yields_allocateBatches (d := d) loader strict (parseScript script) parameters w
  rw [hbatches] at hdeal
  obtain ⟨start, finish, hexecute⟩ := yields_executeUnits (d := d) loader strict
    (length_of_allocate hbatches) hscript
    ((d.runner loader strict).allocateBatches (parseScript script) parameters w).2
  rw [hdeal.outside] at hexecute
  have hrun : Yields ((d.runner loader strict).runScript script parameters) w _ _ _ :=
    hdeal.bind_at hexecute
  refine ⟨hrun.trace, fun e he => ?_⟩
  rw [hrun.result, he]
  rfl

/-- **A session with too few parameters** is rolled back at the first statement that gets too
few. -/
theorem session_of_short (hd : d.IsExact) (state : σ) {units : List StatementUnit}
    (hunits : ∀ unit ∈ units, unit.placeholderCount = countPlaceholders unit.sql)
    (hindex : ∀ (i : Nat) unit, units[i]? = some unit → unit.index = i)
    (hshort : parameters.length < (placeholderCounts units).sum) :
    ∃ (i : Nat) (e : Fault) (front : List Request),
      IsLeast {i | parameters.length < ((placeholderCounts units).take (i + 1)).sum} i ∧
      (d.session state (dealt units parameters)).requests = front ++ [.rollback, .release] ∧
      prepared front = (units.take (i + 1)).map (·.sql) ∧
      (d.session state (dealt units parameters)).result =
        .error (.failure (Failure.executionFailed i e)) := by
  obtain ⟨cursor, s', ha⟩ := hd.ok .acquire state not_false
  have hstops : (d.pursue ⟨s', {}⟩ (requestsOf (dealt units parameters))).stop ≠ none := by
    rw [Ne, stop_requestsOf hd, fits_dealt hunits]
    omega
  obtain ⟨stop, hs⟩ := Option.ne_none_iff_exists'.1 hstops
  obtain ⟨hrequests, hresult⟩ := session_of_stop hd ha hs
  obtain ⟨k, item, hitem, hunit, hprepared, hplaces⟩ := prepared_pursue hs
  -- the place where it stopped is told by the sums alone
  have hsums : ∀ i, ((placeholderCounts units).take i).sum ≤ parameters.length ↔ i ≤ k := by
    intro i
    rw [← fits_take_dealt hunits, ← stop_requestsOf hd _ ⟨s', {}⟩, hplaces]
  have hplace : stop.unit.index = k := by
    refine hindex k stop.unit ?_
    rw [hunit, ← map_fst_dealt units parameters, List.getElem?_map, hitem]
    rfl
  refine ⟨k, stop.fault, _ :: _, ⟨?_, fun j hj => ?_⟩, hrequests, ?_, ?_⟩
  · refine Nat.lt_of_not_le fun hle => ?_
    have hk := (hsums (k + 1)).1 hle
    omega
  · refine Nat.le_of_not_lt fun hlt => ?_
    have hle := (hsums (j + 1)).2 hlt
    exact absurd hj (Nat.not_lt.2 hle)
  · have hfront : ∀ made, prepared (.acquire :: made) = prepared made := fun _ => rfl
    rw [hfront, hprepared, map_fst_dealt]
  · rw [hresult, hplace]

/-- **A script commits exactly if its parameters fit**: there are enough, and, if that matters, not
too many. Too many are refused without a request. If there are too few, the run is rolled back at
the first statement that gets too few, and no later one is prepared. -/
theorem commits_runScript (hd : d.IsExact) (loader : Loader) (strict : Bool)
    (hscript : parseScript script ≠ []) (parameters : List Value) (w : World Request σ) :
    ∃ requests,
      ((d.runner loader strict).runScript script parameters w).2.trace = w.trace ++ requests ∧
      (d.Commits w.outside requests ↔
        if strict then parameters.length = (placeholderCounts (parseScript script)).sum
        else (placeholderCounts (parseScript script)).sum ≤ parameters.length) ∧
      (strict = true → (placeholderCounts (parseScript script)).sum < parameters.length →
        requests = [] ∧
        ∃ f, ((d.runner loader strict).runScript script parameters w).1 = .error (.failure f) ∧
          f.kind = .allocation ∧ f.code = "excess_parameters") ∧
      (parameters.length < (placeholderCounts (parseScript script)).sum →
        ∃ (i : Nat) (f : Failure) (front : List Request),
          IsLeast
            {i | parameters.length < ((placeholderCounts (parseScript script)).take (i + 1)).sum} i ∧
          ((d.runner loader strict).runScript script parameters w).1 = .error (.failure f) ∧
          f.kind = .execution ∧ f.code = "execution_failed" ∧ f.statementIndex = some (i : Int) ∧
          requests = front ++ [.rollback, .release] ∧
          prepared front = ((parseScript script).take (i + 1)).map (·.sql)) := by
  have hallocate := allocate_cases (parseScript script) parameters strict
  by_cases hexcess :
      strict = true ∧ (placeholderCounts (parseScript script)).sum < parameters.length
  · -- the parameters are refused
    rw [if_pos hexcess] at hallocate
    obtain ⟨left, taken, hrefused⟩ := hallocate
    have hdeal := yields_allocateBatches (d := d) loader strict (parseScript script) parameters w
    rw [hrefused] at hdeal
    have hrun : Yields ((d.runner loader strict).runScript script parameters) w _ _ _ :=
      hdeal.bind_error
    refine ⟨[], hrun.trace, ?_, fun _ _ => ⟨rfl, _, hrun.result, rfl, rfl⟩, fun hshort => ?_⟩
    · rw [if_pos hexcess.1]
      exact iff_of_false id (by omega)
    · omega
  · -- they are dealt out, and the run is that of its session
    rw [if_neg hexcess] at hallocate
    obtain ⟨batches, hbatches, hzip⟩ := hallocate
    obtain ⟨htrace, hraises⟩ := runScript_of_allocate (d := d) loader hscript hbatches w
    rw [hzip] at htrace hraises
    have hunits : ∀ unit ∈ parseScript script, unit.placeholderCount = countPlaceholders unit.sql :=
      fun _ => placeholderCount_of_mem_parseScript
    refine ⟨_, htrace, ?_, fun hstrict hlong => absurd ⟨hstrict, hlong⟩ hexcess, fun hshort => ?_⟩
    · rw [commits_session hd, fits_dealt hunits]
      cases strict with
      | true =>
        rw [if_pos rfl]
        have hle : ¬ (placeholderCounts (parseScript script)).sum < parameters.length :=
          fun h => hexcess ⟨rfl, h⟩
        omega
      | false => rw [if_neg (by simp)]
    · obtain ⟨i, e, front, hleast, hrequests, hprepared, hresult⟩ :=
        session_of_short hd w.outside hunits (fun _ _ => index_parseScript) hshort
      exact ⟨i, _, front, hleast, hraises _ hresult, rfl, rfl, rfl, hrequests, hprepared⟩

/-- A database that counts parameters. -/
def counting : Responder Unit
  | .execute sql parameters, s =>
    (if parameters.length = countPlaceholders sql then .ok {}
      else .error (.of (.database .programming) "wrong number of parameters"), s)
  | _, s => (.ok {}, s)

theorem isExact_counting : counting.IsExact where
  executes sql parameters s := by
    simp only [counting]
    split
    · rename_i hfits
      exact iff_of_false (by simp) (not_not_intro hfits)
    · rename_i hmisfit
      exact iff_of_true ⟨_, rfl⟩ hmisfit
  answers request s e h := by
    unfold counting at h
    split at h
    · simp only at h
      split at h
      · cases h
      · obtain rfl := Except.error.inj h
        exact ⟨trivial, rfl⟩
    · cases h
  cursors sql parameters s cursor h := by
    unfold counting at h
    simp only at h
    split at h
    · rw [← Except.ok.inj h]
      rfl
    · cases h

/-- A script whose second statement has no placeholders. -/
def transfer : String := "UPDATE t SET a = ?;SELECT 1;DELETE FROM t WHERE a = ?"

theorem commits_runScript_counting :
    counting.IsExact ∧ parseScript transfer ≠ [] ∧
      (∃ requests,
        ((counting.runner {} true).runScript transfer [.int 1, .int 2] { outside := () }).2.trace =
          requests ∧
        counting.Commits () requests) ∧
      ∃ f front,
        ((counting.runner {} true).runScript transfer [.int 1] { outside := () }).1 =
          .error (.failure f) ∧
        f.code = "execution_failed" ∧ f.statementIndex = some 2 ∧
        ((counting.runner {} true).runScript transfer [.int 1] { outside := () }).2.trace =
          front ++ [.rollback, .release] ∧
        prepared front = ["UPDATE t SET a = ?", "SELECT 1", "DELETE FROM t WHERE a = ?"] := by
  have hscript : parseScript transfer ≠ [] := by decide +kernel
  have hcounts : placeholderCounts (parseScript transfer) = [1, 0, 1] := by decide +kernel
  have hsqls : (parseScript transfer).map (·.sql) =
      ["UPDATE t SET a = ?", "SELECT 1", "DELETE FROM t WHERE a = ?"] := by decide +kernel
  obtain ⟨requests, htrace, hcommits, -, -⟩ := commits_runScript isExact_counting {} true hscript
    [.int 1, .int 2] { outside := () }
  obtain ⟨requests', htrace', -, -, hshort⟩ := commits_runScript isExact_counting {} true hscript
    [.int 1] { outside := () }
  rw [hcounts] at hcommits hshort
  obtain ⟨i, f, front, hleast, hf, -, hcode, hindex, rfl, hprepared⟩ := hshort (by decide)
  have hplaces : ∀ i, 1 < (([1, 0, 1] : List Nat).take (i + 1)).sum → 2 ≤ i := by
    intro i h
    rcases i with _ | _ | i
    · exact absurd h (by decide)
    · exact absurd h (by decide)
    · exact Nat.le_add_left 2 i
  have hle : i ≤ 2 := hleast.2 (show 1 < ([1, 0, 1].take 3).sum by decide)
  obtain rfl : i = 2 := Nat.le_antisymm hle (hplaces i hleast.1)
  rw [List.map_take, hsqls] at hprepared
  exact ⟨isExact_counting, hscript, ⟨requests, htrace.trans (List.nil_append _), hcommits.2 rfl⟩,
    f, front, hf, hcode, hindex, htrace'.trans (List.nil_append _), hprepared⟩

end Responder

end SqlScript
