import SqlScript.Config
import SqlScript.DatabaseUrl
import SqlScript.Fault

/-!
# The registry of backends

What opens a database of a kind, by the scheme of its URLs. A scheme has one entry at most, and the
entries keep the order in which they were registered.

* `Registry`: the entries.
* `Registry.register`, `Registry.unregister`, `Registry.get?`: the operations.
* `Registry.resolve`, `Registry.openUrl`: what opens the database of a URL, with its location.
-/

namespace SqlScript

/-- **A registry** of what opens databases, in the order of registration. -/
structure Registry (α : Type) where
  entries : List (String × α) := []

namespace Registry

variable {α : Type}

/-- The registered schemes, in order. -/
def schemes (r : Registry α) : List String := r.entries.map (·.1)

/-- Whether a scheme is registered. -/
def has (r : Registry α) (scheme : String) : Bool := r.schemes.contains scheme

/-- What is registered for a scheme. -/
def get? (r : Registry α) (scheme : String) : Option α :=
  (r.entries.find? (·.1 == scheme)).map (·.2)

/-- **Registers** what opens the databases of a scheme that is not registered yet. -/
def register (r : Registry α) (scheme : String) (opener : α) : Except Fault (Registry α) :=
  if r.has scheme then
    .error (.of .value s!"Backend for scheme '{scheme}' is already registered")
  else .ok ⟨r.entries ++ [(scheme, opener)]⟩

/-- The registry without a scheme. -/
def unregister (r : Registry α) (scheme : String) : Registry α :=
  ⟨r.entries.filter (·.1 != scheme)⟩

/-- The fault of a scheme that is not registered. -/
def unknownScheme (r : Registry α) (scheme : String) : Fault :=
  let available := ", ".intercalate r.schemes
  .of .value s!"No database backend for scheme '{scheme}'. Available backends: {available}"

/-- **What opens the database of a URL**, and the location that it is to open. -/
def resolve (r : Registry α) (url : String) : Except Fault (α × String) :=
  let parts := DatabaseUrl.ofString url
  match r.get? parts.scheme with
  | some opener => .ok (opener, parts.location)
  | none => .error (r.unknownScheme parts.scheme)

/-- Opens the database of a URL with a configuration. -/
def openUrl {β : Type} (r : Registry (String → Config → β)) (url : String) (config : Config) :
    Except Fault β :=
  (r.resolve url).map fun (opener, location) => opener location config

/-! ## What the operations do to the entries -/

theorem get?_unregister (r : Registry α) (scheme other : String) :
    (r.unregister scheme).get? other = if scheme = other then none else r.get? other := by
  obtain ⟨entries⟩ := r
  simp only [get?, unregister]
  induction entries with
  | nil => split <;> rfl
  | cons e entries ih =>
    obtain ⟨s, x⟩ := e
    by_cases hs : s = scheme
    · subst hs
      by_cases ho : s = other
      · subst ho; simp
      · simpa [ho] using ih
    · by_cases ho : s = other
      · subst ho; simp [hs, Ne.symm hs]
      · simpa [hs, ho] using ih

end Registry

end SqlScript
