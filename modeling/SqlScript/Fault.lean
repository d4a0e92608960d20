/-!
# Faults

Whatever can interrupt a run. Some faults come from outside: the database driver, the file
system, a value that does not fit. The others are failures that the runner reports itself, with a
stable code and the statement to blame.

* `Fault.Kind`: the kinds of faults from outside.
* `Failure`: the failures of the runner.
* `Fault`: both.
* `Fault.isOrdinary`: all but interrupts, which nothing but clean-up takes notice of.
-/

namespace SqlScript

/-- The kinds of database errors. -/
inductive DatabaseErrorKind where
  | general
  | database
  | operational
  | integrity
  | programming
  deriving DecidableEq, Repr

/-- The kinds of errors of the operating system. -/
inductive SystemErrorKind where
  | other
  | notFound
  | notADirectory
  | isADirectory
  | alreadyExists
  deriving DecidableEq, Repr

/-- The kinds of faults that come from outside the runner. -/
inductive Fault.Kind where
  /-- The user's wish to stop. -/
  | interrupt
  | database (kind : DatabaseErrorKind)
  | system (kind : SystemErrorKind)
  /-- A value that is not allowed. -/
  | value
  /-- A number that is too large for what is done with it. -/
  | overflow
  /-- Bytes that are not text. -/
  | undecodable
  /-- Text that has no bytes. -/
  | unencodable
  | wrongType
  | missingModule
  /-- A name that stands for nothing, such as an unknown encoding. -/
  | unknownName
  | missingKey
  | badIndex
  /-- Data without a JSON form. -/
  | unserializable
  /-- A closing tag that closes nothing. -/
  | markup
  /-- Data that lies too deep within itself. -/
  | depth
  | runtime
  deriving DecidableEq, Repr

/-- The kinds of failures that the runner reports. -/
inductive FailureKind where
  | general
  | load
  | allocation
  | execution
  | materialization
  | acquire
  | rollback
  deriving DecidableEq, Repr

/-- A failure that the runner reports, over the faults `φ` that can be behind it. -/
structure FailureOf (φ : Type) where
  kind : FailureKind
  /-- The stable name of the failure, for programs. -/
  code : String
  /-- The description of the failure, for people. -/
  message : String
  /-- The statement to blame, if there is one. -/
  statementIndex : Option Int := none
  /-- The fault that the failure reports. -/
  cause : Option φ := none
  /-- What made a rollback necessary that then failed too. -/
  trigger : Option φ := none

/-- **A fault**: one from outside, or a failure of the runner. -/
inductive Fault where
  | outside (kind : Fault.Kind) (message : String) (cause : Option Fault)
  | failure (f : FailureOf Fault)

/-- A failure of the runner. -/
abbrev Failure := FailureOf Fault

namespace Fault

/-- A fault from outside that no other fault is behind. -/
def of (kind : Kind) (message : String) : Fault := .outside kind message none

/-- The description of a fault. -/
def message : Fault → String
  | outside _ message _ => message
  | failure f => f.message

/-- The statement that a fault blames. -/
def statementIndex : Fault → Option Int
  | outside .. => none
  | failure f => f.statementIndex

/-- **Ordinary faults**: all but interrupts. Only these are reported as failures. -/
def isOrdinary : Fault → Bool
  | outside .interrupt _ _ => false
  | _ => true

/-- Faults that the database driver calls its own. -/
def isDatabaseError : Fault → Bool
  | outside (.database _) _ _ => true
  | _ => false

/-- Faults of the operating system. -/
def isSystemError : Fault → Bool
  | outside (.system _) _ _ => true
  | _ => false

/-- Faults about a value, those about bytes and text included. -/
def isValueError : Fault → Bool
  | outside .value _ _ | outside .undecodable _ _ | outside .unencodable _ _
  | outside .unserializable _ _ => true
  | _ => false

end Fault

instance : Inhabited Fault := ⟨.of .runtime ""⟩

/-- The name of a kind of failure, as it stands in reports. -/
def FailureKind.name : FailureKind → String
  | general => "SQLRunnerError"
  | load => "ScriptLoadError"
  | allocation => "ParameterAllocationError"
  | execution => "StatementExecutionError"
  | materialization => "MaterializationError"
  | acquire => "ConnectionAcquireError"
  | rollback => "RollbackError"

end SqlScript
