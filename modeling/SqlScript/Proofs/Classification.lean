import SqlScript.Proofs.Clock
import SqlScript.Proofs.Progress

/-!
# What a run raises

A run fails first at one site: in acquiring its connection, in preparing, executing or reading one
of its statements, or in committing. Which failure it then raises is told by that site alone. If the
rollback fails too, its failure takes over, and keeps the first one.

* `Site`, `Site.kind`, `Site.code`, `Site.index`: the sites, and what a failure says of each.
* `Tells`, `TellsOfRollback`: a failure that tells of a fault at a site, and one that tells of a
  rollback after it.
* `Responder.IsRegular`: a database that raises ordinary faults only, and none in clean-up.
* `Responder.Breaks`: the first failure of a run.
* `Responder.IsRaised`: what a run raises for it.
* `Responder.raises_executeUnits`: **a run returns if nothing fails, and otherwise raises the
  failure that tells of its first failure.**
-/

namespace SqlScript

/-! ## Sites -/

/-- **Where a run can fail.** -/
inductive Site where
  | acquiring
  | preparing (unit : StatementUnit)
  /-- Binding or executing. -/
  | executing (unit : StatementUnit)
  /-- Reading the rows, with normalizing their values. -/
  | reading (unit : StatementUnit)
  | committing

namespace Site

/-- The kind of failure for a site. -/
def kind : Site → FailureKind
  | acquiring => .acquire
  | preparing _ => .load
  | executing _ => .execution
  | reading _ => .materialization
  | committing => .execution

/-- The code of the failure for a site. -/
def code : Site → String
  | acquiring => "connection_failed"
  | preparing _ => "prepare_failed"
  | executing _ => "execution_failed"
  | reading _ => "materialization_failed"
  | committing => "commit_failed"

/-- The statement to blame for a failure at a site. -/
def index : Site → Option Int
  | preparing unit | executing unit | reading unit => some unit.index
  | acquiring | committing => none

end Site

/-- **A failure that tells of a fault at a site.** -/
structure Tells (site : Site) (fault : Fault) (f : Failure) : Prop where
  kind : f.kind = site.kind
  code : f.code = site.code
  index : f.statementIndex = site.index
  cause : f.cause = some fault

/-- **A failure that tells of a rollback**, which failed with `reply` after a fault at a site. What
made the rollback necessary is kept; but if committing did, it has no cause of its own. -/
structure TellsOfRollback (site : Site) (fault reply : Fault) (f : Failure) : Prop where
  kind : f.kind = .rollback
  code : f.code = "rollback_failed"
  index : f.statementIndex = site.index
  cause : f.cause = some reply
  trigger : ∃ g : Failure, f.trigger = some (.failure g) ∧ g.kind = site.kind ∧
    g.code = site.code ∧ g.statementIndex = site.index ∧
    (site ≠ .committing → g.cause = some fault)

/-- The site at which a run stopped in a statement. Closing a cursor is none. -/
def Stop.site? (stop : Stop) : Option Site :=
  match stop.phase with
  | .preparing => some (.preparing stop.unit)
  | .executing => some (.executing stop.unit)
  | .reading => some (.reading stop.unit)
  | .closing => none

theorem Stop.site?_of_ne_closing {stop : Stop} (h : stop.phase ≠ .closing) :
    ∃ site, stop.site? = some site := by
  unfold site?
  cases hp : stop.phase with
  | closing => exact absurd hp h
  | preparing | executing | reading => exact ⟨_, rfl⟩

/-- What is raised for an ordinary fault in a statement tells of it. -/
theorem Stop.tells_reported {stop : Stop} {site : Site} (hsite : stop.site? = some site)
    (hordinary : stop.fault.isOrdinary = true) :
    ∃ f, stop.reported = .failure f ∧ Tells site stop.fault f ∧ site ≠ .acquiring ∧
      site ≠ .committing := by
  unfold site? at hsite
  unfold reported Fault.reportedAs
  rw [if_pos hordinary, if_pos hordinary, if_pos hordinary]
  cases hp : stop.phase with
  | closing => rw [hp] at hsite; cases hsite
  | preparing | executing | reading =>
    rw [hp] at hsite
    obtain rfl := Option.some.inj hsite
    exact ⟨_, rfl, ⟨rfl, rfl, rfl, rfl⟩, nofun, nofun⟩

/-! ## Regular databases -/

/-- **A regular cursor** closes, and reading its rows, if it has a row set, raises ordinary faults
only. -/
structure Cursor.IsRegular (cursor : Cursor) : Prop where
  closes : cursor.closeFault = none
  reads : cursor.columns.isSome → ∀ e, Snapshot.read cursor = .error e → e.isOrdinary = true

namespace Responder

open SqlScript.Runner (executeUnits_nil)

variable {σ : Type}

/-- **A regular database**: its faults are ordinary, executing gives regular cursors, and it takes
back its connections. -/
structure IsRegular (d : Responder σ) : Prop where
  faults : ∀ request s e, (d request s).1 = .error e → e.isOrdinary = true
  cursors : ∀ sql parameters s cursor, (d (.execute sql parameters) s).1 = .ok cursor →
    cursor.IsRegular
  releases : ∀ s e, (d .release s).1 ≠ .error e

/-! ## The first failure of a run -/

/-- **The first failure of a run** of statements with their batches: the site, the fault, and the
state in which it leaves the database. Without statements there is none. -/
inductive Breaks (d : Responder σ) (s : σ) (items : List (StatementUnit × Batch)) :
    Site → Fault → σ → Prop
  | acquiring {e : Fault} {s' : σ} : items ≠ [] → d .acquire s = (.error e, s') →
      Breaks d s items .acquiring e s'
  | statement {cursor : Cursor} {s' : σ} {stop : Stop} {site : Site} :
      d .acquire s = (.ok cursor, s') →
      (d.pursue ⟨s', {}⟩ (requestsOf items)).stop = some stop → stop.site? = some site →
      Breaks d s items site stop.fault (d.pursue ⟨s', {}⟩ (requestsOf items)).standing.state
  | committing {cursor : Cursor} {s' s'' : σ} {e : Fault} : items ≠ [] →
      d .acquire s = (.ok cursor, s') → (d.pursue ⟨s', {}⟩ (requestsOf items)).stop = none →
      d .commit (d.pursue ⟨s', {}⟩ (requestsOf items)).standing.state = (.error e, s'') →
      Breaks d s items .committing e s''

/-- **What a run raises** whose first failure is a fault at a site, which leaves the database in
`state`. A failure in acquiring a connection is raised as it is; everything but acquiring is rolled
back. -/
def IsRaised (d : Responder σ) (state : σ) (fault : Fault) : Site → Fault → Prop
  | .acquiring, raised => match fault with
    | .failure _ => raised = fault
    | .outside .. => ∃ f, raised = .failure f ∧ Tells .acquiring fault f
  | site, raised => match (d .rollback state).1 with
    | .ok _ => ∃ f, raised = .failure f ∧ Tells site fault f
    | .error reply => ∃ f, raised = .failure f ∧ TellsOfRollback site fault reply f

variable {d : Responder σ} {s : Standing σ} {state s' : σ} {site : Site} {fault : Fault}
  {items : List (StatementUnit × Batch)}

/-! ## Statements -/

/-- A flaw of a regular cursor is an ordinary fault, and not one of closing. -/
theorem isRegular_flaw {cursor : Cursor} (hcursor : cursor.IsRegular) {f : Phase × Fault}
    (hf : cursor.flaw? = some f) : f.1 ≠ .closing ∧ f.2.isOrdinary = true := by
  refine ⟨flaw?_of_closes hcursor.closes hf, ?_⟩
  unfold Cursor.flaw? at hf
  rw [hcursor.closes] at hf
  simp only at hf
  split at hf
  · cases hf
  · rename_i hcolumns
    have hsome : cursor.columns.isSome := Option.isSome_iff_ne_none.2 (by simpa using hcolumns)
    split at hf
    · cases hf
    · rename_i e he
      obtain rfl := Option.some.inj hf
      exact hcursor.reads hsome e he

/-- A run on a regular database stops at a site, with an ordinary fault. -/
theorem site_of_stop (hd : d.IsRegular) {stop : Stop}
    (h : (d.pursue s (requestsOf items)).stop = some stop) :
    (∃ site, stop.site? = some site) ∧ stop.fault.isOrdinary = true := by
  cases causes_of_stop h with
  | preparing he => exact ⟨⟨_, rfl⟩, hd.faults _ _ _ he⟩
  | executing he => exact ⟨⟨_, rfl⟩, hd.faults _ _ _ he⟩
  | reading hcursor hflaw =>
    obtain ⟨hphase, hordinary⟩ := isRegular_flaw (hd.cursors _ _ _ _ hcursor) hflaw
    exact ⟨Stop.site?_of_ne_closing hphase, hordinary⟩

/-! ## Ends of transactions -/

/-- **Rolling back**, and raising a failure that tells of the fault. -/
theorem isRaised_undo (hd : d.IsRegular) (state : σ) (trigger : Failure) {f : Failure}
    (hf : Tells site fault f) (hsite : site ≠ .acquiring) (hkind : trigger.kind = site.kind)
    (hcode : trigger.code = site.code) (hindex : trigger.statementIndex = site.index)
    (hcause : site ≠ .committing → trigger.cause = some fault) :
    ∃ e, (d.undo state (.failure trigger) (.failure f)).raised = some e ∧
      d.IsRaised state fault site e := by
  have hfaults := hd.faults .rollback state
  have hraised : ∀ e, d.IsRaised state fault site e ↔ match (d .rollback state).1 with
      | .ok _ => ∃ f, e = .failure f ∧ Tells site fault f
      | .error reply => ∃ f, e = .failure f ∧ TellsOfRollback site fault reply f := by
    intro e
    cases site with
    | acquiring => exact absurd rfl hsite
    | preparing | executing | reading | committing => exact Iff.rfl
  unfold undo
  cases hr : d .rollback state with
  | mk reply state' =>
    rw [hr] at hfaults hraised
    cases reply with
    | ok cursor => exact ⟨_, rfl, (hraised _).2 ⟨f, rfl, hf⟩⟩
    | error e =>
      refine ⟨_, rfl, (hraised _).2 ⟨Failure.rollbackFailed (.failure trigger) e, ?_, ?_⟩⟩
      · exact if_pos (hfaults e rfl)
      · exact ⟨rfl, rfl, hindex, rfl, trigger, rfl, hkind, hcode, hindex, hcause⟩

/-- A session on a connection has the result of its transaction. -/
theorem result_session (hd : d.IsRegular) {cursor : Cursor}
    (ha : d .acquire state = (.ok cursor, s')) :
    (d.session state items).result =
      (d.ending (d.pursue ⟨s', {}⟩ (requestsOf items))).result (d.outcomes ⟨s', {}⟩ items) := by
  unfold session
  rw [ha]
  simp only
  have hreleases := hd.releases (d.ending (d.pursue ⟨s', {}⟩ (requestsOf items))).state
  cases hr : d .release (d.ending (d.pursue ⟨s', {}⟩ (requestsOf items))).state with
  | mk reply final =>
    rw [hr] at hreleases
    cases reply with
    | error e => exact absurd rfl (hreleases e)
    | ok _ => rfl

/-- **What a session raises for its first failure.** -/
theorem isRaised_session (hd : d.IsRegular) {final : σ}
    (h : d.Breaks state items site fault final) :
    ∃ e, (d.session state items).result = .error e ∧ d.IsRaised final fault site e := by
  cases h with
  | acquiring hitems ha =>
    have hordinary := hd.faults .acquire state fault (by rw [ha])
    refine ⟨Backend.reportAcquire fault, by unfold session; rw [ha], ?_⟩
    cases fault with
    | failure f => exact rfl
    | outside kind message cause =>
      exact ⟨Failure.connectionFailed _, if_pos hordinary, rfl, rfl, rfl, rfl⟩
  | @statement cursor s' stop site ha hs hsite =>
    obtain ⟨-, hordinary⟩ := site_of_stop hd hs
    obtain ⟨f, hreported, hf, hacquiring, hcommitting⟩ := Stop.tells_reported hsite hordinary
    obtain ⟨e, hraised, he⟩ := isRaised_undo hd
      (d.pursue ⟨s', {}⟩ (requestsOf items)).standing.state f hf hacquiring hf.kind hf.code hf.index
      fun _ => hf.cause
    refine ⟨e, ?_, he⟩
    rw [result_session hd ha]
    simp only [ending, hs, hreported, Ending.result, hraised]
  | @committing cursor s' s'' _ hitems ha hs hc =>
    have hordinary := hd.faults .commit _ fault (by rw [hc])
    have hf : Tells .committing fault (Failure.commitFailed fault) := ⟨rfl, rfl, rfl, rfl⟩
    have hsite : Site.committing ≠ .acquiring := Site.noConfusion
    obtain ⟨e, hraised, he⟩ := isRaised_undo hd final
      { Failure.commitFailed fault with cause := none } hf hsite rfl rfl rfl fun h => absurd rfl h
    refine ⟨e, ?_, he⟩
    rw [result_session hd ha]
    simp only [ending, hs, hc, hordinary, if_true, Ending.result, hraised]

/-- A session in which nothing fails gives outcomes. -/
theorem result_session_of_not_breaks (hd : d.IsRegular) (hitems : items ≠ [])
    (h : ∀ site fault final, ¬ d.Breaks state items site fault final) :
    ∃ outcomes, (d.session state items).result = .ok outcomes := by
  cases ha : d .acquire state with
  | mk reply s' =>
    cases reply with
    | error e => exact absurd (.acquiring hitems ha) (h .acquiring e s')
    | ok cursor =>
      rw [result_session hd ha]
      cases hs : (d.pursue ⟨s', {}⟩ (requestsOf items)).stop with
      | some stop =>
        obtain ⟨⟨site, hsite⟩, -⟩ := site_of_stop hd hs
        exact absurd (.statement ha hs hsite) (h site stop.fault _)
      | none =>
        cases hc : d .commit (d.pursue ⟨s', {}⟩ (requestsOf items)).standing.state with
        | mk reply s'' =>
          cases reply with
          | error e => exact absurd (.committing hitems ha hs hc) (h .committing e s'')
          | ok _ => exact ⟨_, by simp only [ending, hs, hc, Ending.result]; rfl⟩

/-- Without statements nothing fails. -/
theorem not_breaks_nil {final : σ} : ¬ d.Breaks state [] site fault final := by
  intro h
  cases h with
  | acquiring hitems => exact hitems rfl
  | statement ha hs => cases hs
  | committing hitems => exact hitems rfl

/-! ## Runs -/

/-- **What a run raises.** If time can be told, it returns exactly if nothing fails. And whatever
fails first, the run raises the failure that tells of it. -/
theorem raises_executeUnits (hd : d.IsRegular) (loader : Loader) (strict : Bool)
    {units : List StatementUnit} {batches : List Batch} (hlength : batches.length = units.length)
    (w : World Request σ) :
    (w.HasTime →
      ((∃ outcomes, ((d.runner loader strict).executeUnits units batches w).1 = .ok outcomes) ↔
        ∀ site fault final, ¬ d.Breaks w.outside (units.zip batches) site fault final)) ∧
    ∀ site fault final, d.Breaks w.outside (units.zip batches) site fault final →
      ∃ e, ((d.runner loader strict).executeUnits units batches w).1 = .error e ∧
        d.IsRaised final fault site e := by
  have hbreaks : ∀ site fault final, d.Breaks w.outside (units.zip batches) site fault final →
      ∃ e, ((d.runner loader strict).executeUnits units batches w).1 = .error e ∧
        d.IsRaised final fault site e := by
    intro site fault final h
    have hunits : units ≠ [] := by
      rintro rfl
      exact not_breaks_nil h
    obtain ⟨e, hresult, he⟩ := isRaised_session hd h
    refine ⟨e, ?_, he⟩
    rw [result_executeUnits loader strict hlength hunits, hresult]
    rfl
  refine ⟨fun htime => ⟨?_, fun hnone => ?_⟩, hbreaks⟩
  · rintro ⟨outcomes, hok⟩ site fault final h
    obtain ⟨e, herror, -⟩ := hbreaks site fault final h
    rw [hok] at herror
    cases herror
  · by_cases hunits : units = []
    · subst hunits
      obtain rfl := List.length_eq_zero_iff.1 hlength
      exact ⟨[], (executeUnits_nil (d.runner loader strict) w).result⟩
    · have hitems : units.zip batches ≠ [] := by
        intro hnil
        have hzip := congrArg List.length hnil
        rw [List.length_zip, hlength, Nat.min_self] at hzip
        exact hunits (List.length_eq_zero_iff.1 hzip)
      obtain ⟨outcomes, hresult⟩ := result_session_of_not_breaks hd hitems hnone
      obtain ⟨ms, hms⟩ := htime
      refine ⟨outcomes, ?_⟩
      rw [result_executeUnits loader strict hlength hunits, hresult, hms]
      rfl

/-- A database that cannot read the rows of a query, and not roll back either. -/
def unreadable : Responder Unit
  | .execute "SELECT a" _, s =>
    (.ok { columns := some [.text "a"]
           readFault := some (.of (.database .operational) "disk") }, s)
  | .rollback, s => (.error (.of (.database .operational) "gone"), s)
  | _, s => (.ok {}, s)

theorem isRegular_unreadable : unreadable.IsRegular where
  faults request s e h := by
    unfold unreadable at h
    split at h
    · cases h
    · obtain rfl := Except.error.inj h
      rfl
    · cases h
  cursors sql parameters s cursor h := by
    unfold unreadable at h
    split at h
    · obtain rfl := Except.ok.inj h
      refine ⟨rfl, fun _ e he => ?_⟩
      obtain rfl := Except.error.inj he
      rfl
    · cases h
    · rw [← Except.ok.inj h]
      exact ⟨rfl, fun hcolumns => nomatch hcolumns⟩
  releases s e h := by cases h

/-- A statement without rows, and the query. -/
def query : List StatementUnit := [⟨0, "DELETE FROM t", 0⟩, ⟨1, "SELECT a", 0⟩]

theorem raises_executeUnits_unreadable :
    unreadable.IsRegular ∧ ([[], []] : List Batch).length = query.length ∧
      ({ outside := () } : World Request Unit).HasTime ∧
      ∃ f, ((unreadable.runner {} false).executeUnits query [[], []] { outside := () }).1 =
          .error (.failure f) ∧
        TellsOfRollback (.reading ⟨1, "SELECT a", 0⟩) (.of (.database .operational) "disk")
          (.of (.database .operational) "gone") f := by
  have htime : ({ outside := () } : World Request Unit).HasTime := by decide +kernel
  have hlength : ([[], []] : List Batch).length = query.length := rfl
  obtain ⟨-, hraises⟩ := raises_executeUnits isRegular_unreadable {} false hlength { outside := () }
  have hstop : (unreadable.pursue ⟨(), {}⟩ (requestsOf (query.zip [[], []]))).stop =
      some ⟨⟨1, "SELECT a", 0⟩, .reading, .of (.database .operational) "disk"⟩ := rfl
  have hbreaks : unreadable.Breaks () (query.zip [[], []]) (.reading ⟨1, "SELECT a", 0⟩)
      (.of (.database .operational) "disk") () := .statement rfl hstop rfl
  obtain ⟨e, he, f, rfl, hf⟩ := hraises _ _ _ hbreaks
  exact ⟨isRegular_unreadable, hlength, htime, f, he, hf⟩

end Responder

end SqlScript
