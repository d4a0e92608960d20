import SqlScript.CommandLine.Program

/-!
# Backends by their schemes

A registry changes as backends come and go, and a URL finds its backend by its scheme, whatever its
location is. A scheme is read in small letters, but registered as it is: a backend that has a
capital letter in its scheme is never found.

* `Registry.Change`, `Registry.changeAll`: changes of a registry, and a history of them.
* `Registry.registered?`, `Registry.get?_changeAll`: what is registered for a scheme, told by the
  changes that concern it.
* `DatabaseUrl.splitAtMark?_of_scheme`, `DatabaseUrl.ofString_of_slashes`: a URL is split at its
  first mark, so that its location can hold any text.
* `Registry.openAt`, `Registry.Finds`: opening the database of a URL, and a backend that URLs of its
  scheme open.
* `Registry.openAt_registered`: **which backend is opened, and where.**
-/

namespace SqlScript

/-! ## Histories of a registry -/

namespace Registry

/-- What can be done to a registry. -/
inductive Change (α : Type) where
  | register (scheme : String) (opener : α)
  | unregister (scheme : String)
  | clear

variable {α : Type}

/-- **Makes a change**, and tells whether it was refused. What is refused changes nothing. -/
def change (r : Registry α) : Change α → Except Fault Unit × Registry α
  | .register scheme opener =>
    match r.register scheme opener with
    | .ok r => (.ok (), r)
    | .error e => (.error e, r)
  | .unregister scheme => (.ok (), r.unregister scheme)
  | .clear => (.ok (), {})

/-- Makes changes, one after the other. -/
def changeAll (r : Registry α) (changes : List (Change α)) : Registry α :=
  changes.foldl (fun r c => (r.change c).2) r

/-- What is registered for a scheme after a change, by what was before it: of two registrations the
first one counts. -/
def Change.entry (scheme : String) (before : Option α) : Change α → Option α
  | .register s opener => if s = scheme then before.or (some opener) else before
  | .unregister s => if s = scheme then none else before
  | .clear => none

/-- **What is registered for a scheme** after changes of a registry that was empty. -/
def registered? (changes : List (Change α)) (scheme : String) : Option α :=
  changes.foldl (Change.entry scheme) none

theorem has_iff {r : Registry α} {scheme : String} :
    r.has scheme = true ↔ r.get? scheme ≠ none := by
  rw [Option.ne_none_iff_isSome, get?, Option.isSome_map, List.find?_isSome]
  simp [has, schemes, List.mem_map]

theorem get?_concat (entries : List (String × α)) (s : String) (opener : α) (scheme : String) :
    get? ⟨entries ++ [(s, opener)]⟩ scheme =
      (get? ⟨entries⟩ scheme).or (if s = scheme then some opener else none) := by
  simp only [get?, List.find?_append, Option.map_or]
  by_cases h : s = scheme <;> simp [h]

/-- A scheme that is registered is not registered again. -/
theorem change_register_of_has {r : Registry α} {scheme : String}
    (h : r.get? scheme ≠ none) (opener : α) :
    r.change (.register scheme opener) =
      (.error (.of .value s!"Backend for scheme '{scheme}' is already registered"), r) := by
  simp only [change, register, has_iff.2 h, if_true]

/-- **A change concerns one scheme** only, unless it clears the registry. -/
theorem get?_change (r : Registry α) (c : Change α) (scheme : String) :
    (r.change c).2.get? scheme = c.entry scheme (r.get? scheme) := by
  cases c with
  | clear => rfl
  | unregister s => exact get?_unregister r s scheme
  | register s opener =>
    by_cases h : r.has s = true
    · rw [change_register_of_has (has_iff.1 h)]
      simp only [Change.entry]
      split
      · rename_i hs
        subst hs
        obtain ⟨x, hx⟩ := Option.ne_none_iff_exists'.1 (has_iff.1 h)
        rw [hx, Option.some_or]
      · rfl
    · simp only [change, register, h, if_false, Bool.false_eq_true, get?_concat, Change.entry]
      split
      · rfl
      · exact Option.or_none

/-- **What a history leaves for a scheme** is what the changes say that concern it. -/
theorem get?_changeAll (changes : List (Change α)) (scheme : String) :
    (changeAll {} changes).get? scheme = registered? changes scheme := by
  have hrun (r : Registry α) :
      (r.changeAll changes).get? scheme = changes.foldl (Change.entry scheme) (r.get? scheme) := by
    induction changes generalizing r with
    | nil => rfl
    | cons c changes ih =>
      show ((r.change c).2.changeAll changes).get? scheme = _
      rw [ih, get?_change, List.foldl_cons]
  exact hrun {}

end Registry

/-! ## The parts of a URL -/

namespace Text

/-- A text without the mark is not split. -/
theorem splitAtMark?_eq_none {mark cs : List Char} (hmark : mark ≠ []) (h : ¬mark <:+: cs) :
    splitAtMark? mark cs = none := by
  induction cs with
  | nil => simp [splitAtMark?, hmark]
  | cons c cs ih =>
    obtain ⟨hstart, hrest⟩ := not_or.1 fun hc => h (List.infix_cons_iff.2 hc)
    have hprefix : ¬mark.isPrefixOf (c :: cs) = true := fun hp =>
      hstart (List.isPrefixOf_iff_prefix.1 hp)
    rw [splitAtMark?, if_neg hprefix, ih hrest]
    rfl

end Text

namespace DatabaseUrl

/-- **A URL is split at its first mark**: none begins in a scheme without one, not even one that
ends behind the scheme. -/
theorem splitAtMark?_of_scheme {scheme : List Char} (h : ¬schemeMark <:+: scheme)
    (rest : List Char) :
    Text.splitAtMark? schemeMark (scheme ++ schemeMark ++ rest) = some (scheme, rest) := by
  induction scheme with
  | nil => rfl
  | cons c cs ih =>
    obtain ⟨hstart, hrest⟩ := not_or.1 fun hc => h (List.infix_cons_iff.2 hc)
    have hprefix : ¬schemeMark.isPrefixOf (c :: (cs ++ schemeMark ++ rest)) = true := by
      match cs with
      | [] | [_] => simp [schemeMark]
      | d :: e :: cs =>
        intro hp
        refine hstart (List.isPrefixOf_iff_prefix.1 ?_)
        simpa [schemeMark] using hp
    rw [List.cons_append, List.cons_append, Text.splitAtMark?, if_neg hprefix, ih hrest]
    rfl

/-- A scheme in small letters. -/
def small (scheme : String) : String := String.ofList (Text.lower scheme.toList)

/-- **Where a URL of a scheme leads** with a location: an SQLite database without one is in
memory. -/
def place (scheme location : String) : String :=
  if scheme = defaultScheme ∧ location = "" then memoryDatabase else location

variable {scheme : String} (h : ¬schemeMark <:+: scheme.toList)

include h

theorem ofString_of_scheme (rest : String) :
    ofString (scheme ++ "://" ++ rest) =
      ⟨small scheme, place (small scheme) (String.ofList (dropSlash rest.toList))⟩ := by
  have htext : (scheme ++ "://" ++ rest).toList = scheme.toList ++ schemeMark ++ rest.toList := by
    simp [schemeMark]
  simp only [ofString, htext, splitAtMark?_of_scheme h]
  by_cases hmemory : small scheme = defaultScheme ∧ String.ofList (dropSlash rest.toList) = ""
  · rw [place, if_pos hmemory]
    exact if_pos hmemory
  · rw [place, if_neg hmemory]
    exact if_neg hmemory

/-- The third slash belongs to no location. -/
theorem ofString_of_slashes (location : String) :
    ofString (scheme ++ ":///" ++ location) = ⟨small scheme, place (small scheme) location⟩ := by
  have htext : scheme ++ ":///" ++ location = scheme ++ "://" ++ ("/" ++ location) :=
    String.toList_inj.1 (by simp)
  rw [htext, ofString_of_scheme h]
  simp [dropSlash]

omit h in
/-- **A text without a mark** is the location of an SQLite database, as it is. -/
theorem ofString_of_path {path : String} (hpath : path ≠ "") (h : ¬schemeMark <:+: path.toList) :
    ofString path = ofString ("sqlite:///" ++ path) := by
  have hscheme : ¬schemeMark <:+: defaultScheme.toList := by decide +kernel
  have hsmall : small defaultScheme = defaultScheme := by decide +kernel
  calc ofString path = ⟨defaultScheme, path⟩ := by
        simp only [ofString, Text.splitAtMark?_eq_none (by decide) h]
    _ = ⟨small defaultScheme, place (small defaultScheme) path⟩ := by
        rw [hsmall, place, if_neg fun hmemory => hpath hmemory.2]
    _ = ofString (defaultScheme ++ ":///" ++ path) := (ofString_of_slashes hscheme path).symm
    _ = ofString ("sqlite:///" ++ path) := rfl

end DatabaseUrl

/-! ## Opening -/

namespace Registry

open DatabaseUrl (small place schemeMark)

variable {ω β : Type}

/-- **Opens the database of a URL**: what is registered for it is done, at the location of the URL
and with a configuration. -/
def openAt (r : Registry (String → Config → Action ω β)) (url : String) (config : Config) :
    Action ω β := do
  let opening ← Action.ofExcept (r.openUrl url config)
  opening

/-- Whatever a command does with a database, it opens it so. -/
theorem withRunner_eq_openAt {κ τ Conn Stmt γ : Type} (s : CommandLine.Session κ τ Conn Stmt)
    (body : Runner κ τ Conn Stmt → Action (World κ τ) γ) :
    s.withRunner body = (do
      let backend ← s.registry.openAt s.config.databaseUrl s.config
      Action.ensure
        (body { backend, loader := s.loader, strictParameters := s.config.strictParameters })
        backend.close) := by
  rw [CommandLine.Session.withRunner, openAt, bind_assoc]

theorem openAt_eq (r : Registry (String → Config → Action ω β)) (url : String) (config : Config) :
    r.openAt url config =
      match r.get? (DatabaseUrl.ofString url).scheme with
      | some opener => opener (DatabaseUrl.ofString url).location config
      | none => throw (r.unknownScheme (DatabaseUrl.ofString url).scheme) := by
  simp only [openAt, openUrl, resolve]
  cases r.get? (DatabaseUrl.ofString url).scheme <;> rfl

/-- **A backend that is found by its scheme**: a URL of the scheme opens it, at the location of the
URL, whatever that is. -/
def Finds (r : Registry (String → Config → Action ω β)) (scheme : String)
    (opener : String → Config → Action ω β) : Prop :=
  ∀ location config, r.openAt (scheme ++ ":///" ++ location) config =
    opener (place scheme location) config

/-- **Which backend is opened, and where.** After any history of a registry, a scheme that is
registered is not registered again, and the backend of a scheme in small letters is found: exactly
it is opened, once, at the location of the URL, be there slashes or marks in it. A scheme is read in
small letters: with a capital one it stands for another scheme, and what is registered for it itself
is not opened. A scheme for which nothing is registered opens nothing. A text without a mark is the
path of an SQLite database. -/
theorem openAt_registered (changes : List (Change (String → Config → Action ω β))) :
    (∀ scheme opener, registered? changes scheme ≠ none →
      (changeAll {} changes).change (.register scheme opener) =
        (.error (.of .value s!"Backend for scheme '{scheme}' is already registered"),
          changeAll {} changes)) ∧
      (∀ scheme opener, registered? changes scheme = some opener → ¬schemeMark <:+: scheme.toList →
        small scheme = scheme → (changeAll {} changes).Finds scheme opener) ∧
      (∀ scheme opener, registered? changes (small scheme) = some opener →
        ¬schemeMark <:+: scheme.toList → ∀ location config,
          (changeAll {} changes).openAt (scheme ++ ":///" ++ location) config =
            opener (place (small scheme) location) config) ∧
      (∀ scheme rest config, registered? changes (small scheme) = none →
        ¬schemeMark <:+: scheme.toList →
          (changeAll {} changes).openAt (scheme ++ "://" ++ rest) config =
            throw ((changeAll {} changes).unknownScheme (small scheme))) ∧
      (∀ path config, path ≠ "" → ¬schemeMark <:+: path.toList →
        (changeAll {} changes).openAt path config =
          (changeAll {} changes).openAt ("sqlite:///" ++ path) config) := by
  have hreads (scheme opener) (hr : registered? changes (small scheme) = some opener)
      (hmark : ¬schemeMark <:+: scheme.toList) (location config) :
      (changeAll {} changes).openAt (scheme ++ ":///" ++ location) config =
        opener (place (small scheme) location) config := by
    rw [openAt_eq, DatabaseUrl.ofString_of_slashes hmark, get?_changeAll, hr]
  refine ⟨fun scheme opener hr =>
      change_register_of_has (get?_changeAll changes scheme ▸ hr) opener,
    fun scheme opener hr hmark hsmall location config => ?_, hreads,
    fun scheme rest config hr hmark => ?_, fun path config hpath hmark => ?_⟩
  · rw [hreads scheme opener (by rw [hsmall, hr]) hmark, hsmall]
  · rw [openAt_eq, DatabaseUrl.ofString_of_scheme hmark, get?_changeAll, hr]
  · rw [openAt_eq, openAt_eq, DatabaseUrl.ofString_of_path hpath hmark]

/-- A backend that records that it was opened, and where. -/
def recorder (name : String) : String → Config → Action (List (String × String)) Unit :=
  fun location _ => .update fun opened => opened ++ [(name, location)]

/-- A backend that came again after it went, one that was refused, and one that went. -/
def comingAndGoing : List (Change (String → Config → Action (List (String × String)) Unit)) :=
  [.register "sqlite" (recorder "a"), .clear, .register "a+b" (recorder "b"),
    .register "a+b" (recorder "c"), .register "odbc" (recorder "d"), .unregister "odbc",
    .register "sqlite" (recorder "e")]

/-- Locations with slashes and marks, a scheme in capital letters, and one that went. -/
theorem openAt_registered_comingAndGoing :
    registered? comingAndGoing "a+b" = some (recorder "b") ∧
      registered? comingAndGoing (small "SQLite") = some (recorder "e") ∧
      registered? comingAndGoing (small "ODBC") = none ∧ small "a+b" = "a+b" ∧
      ¬schemeMark <:+: "a+b".toList ∧ ¬schemeMark <:+: "SQLite".toList ∧
      ¬schemeMark <:+: "ODBC".toList ∧ ¬schemeMark <:+: "x/y.db".toList ∧
      ((changeAll {} comingAndGoing).change (.register "a+b" (recorder "f"))).2.entries =
        (changeAll {} comingAndGoing).entries ∧
      (changeAll {} comingAndGoing).openAt ("a+b" ++ ":///" ++ "/x://y") {} [] =
        (.ok (), [("b", "/x://y")]) ∧
      (changeAll {} comingAndGoing).openAt ("SQLite" ++ ":///" ++ "") {} [] =
        (.ok (), [("e", ":memory:")]) ∧
      ((changeAll {} comingAndGoing).openAt ("ODBC" ++ "://" ++ "host/db") {} []).2 = [] ∧
      (changeAll {} comingAndGoing).openAt "x/y.db" {} [] =
        (changeAll {} comingAndGoing).openAt ("sqlite:///" ++ "x/y.db") {} [] := by
  have hb : registered? comingAndGoing "a+b" = some (recorder "b") := rfl
  have hsqlite : registered? comingAndGoing (small "SQLite") = some (recorder "e") := by
    have hsmall : small "SQLite" = "sqlite" := by decide +kernel
    rw [hsmall]
    rfl
  have hodbc : registered? comingAndGoing (small "ODBC") = none := by
    have hsmall : small "ODBC" = "odbc" := by decide +kernel
    rw [hsmall]
    rfl
  have hsmall : small "a+b" = "a+b" := by decide +kernel
  have hmark : ¬schemeMark <:+: "a+b".toList ∧ ¬schemeMark <:+: "SQLite".toList ∧
      ¬schemeMark <:+: "ODBC".toList ∧ ¬schemeMark <:+: "x/y.db".toList := by decide +kernel
  obtain ⟨hmarkb, hmarksqlite, hmarkodbc, hmarkpath⟩ := hmark
  obtain ⟨hagain, hfinds, hcapital, hunknown, hpath⟩ := openAt_registered comingAndGoing
  refine ⟨hb, hsqlite, hodbc, hsmall, hmarkb, hmarksqlite, hmarkodbc, hmarkpath, ?_, ?_, ?_, ?_,
    ?_⟩
  · rw [hagain "a+b" (recorder "f") (by rw [hb]; exact nofun)]
  · rw [hfinds "a+b" _ hb hmarkb hsmall]
    rfl
  · have hplace : place (small "SQLite") "" = ":memory:" := by decide +kernel
    rw [hcapital "SQLite" _ hsqlite hmarksqlite, hplace]
    rfl
  · rw [hunknown "ODBC" _ _ hodbc hmarkodbc]
    rfl
  · rw [hpath "x/y.db" _ (by decide) hmarkpath]

/-- **A backend with a capital letter in its scheme is not found**, not even by a URL of just that
scheme. -/
theorem not_finds_capital :
    registered? [.register "MyDB" (recorder "a")] "MyDB" = some (recorder "a") ∧
      ¬schemeMark <:+: "MyDB".toList ∧
      ¬(changeAll {} [.register "MyDB" (recorder "a")]).Finds "MyDB" (recorder "a") := by
  have hmark : ¬schemeMark <:+: "MyDB".toList := by decide +kernel
  have hsmall : small "MyDB" = "mydb" := by decide +kernel
  have hnone : registered? [.register "MyDB" (recorder "a")] "mydb" = none := rfl
  refine ⟨rfl, hmark, fun hfinds => ?_⟩
  have hopened := hfinds "x" {}
  rw [openAt_eq, DatabaseUrl.ofString_of_slashes hmark, hsmall, get?_changeAll, hnone] at hopened
  exact nomatch congrArg Prod.fst (congrFun hopened [])

end Registry

end SqlScript
