import SqlScript.Number.Format

/-!
# Dates and times

Calendar dates, times of the day with an offset from universal time, their ISO 8601 texts, and the
expressions that stand for them inside a list.

* `Date`, `TimeOfDay`, `DateTime`: the values.
* `Date.iso`, `TimeOfDay.iso`, `DateTime.iso`: their texts.
* `Date.expression`, `TimeOfDay.expression`, `DateTime.expression`: their expressions.
-/

namespace SqlScript

/-- A date of the calendar. -/
structure Date where
  year : Nat
  month : Nat
  day : Nat
  deriving DecidableEq, Repr

/-- A time of the day. The offset is in minutes; `fold` tells the second of two equal times. -/
structure TimeOfDay where
  hour : Nat
  minute : Nat
  second : Nat
  microsecond : Nat
  offset : Option Int := none
  fold : Bool := false
  deriving DecidableEq, Repr

/-- A time on a date. -/
structure DateTime where
  date : Date
  time : TimeOfDay
  deriving DecidableEq, Repr

/-- A number with zeros in front. -/
def padded (w n : Nat) : String := Number.padZeros w (toString n)

/-- The ISO 8601 text of a date. -/
def Date.iso (d : Date) : String :=
  padded 4 d.year ++ "-" ++ padded 2 d.month ++ "-" ++ padded 2 d.day

/-- An offset as hours and minutes with a sign. -/
def offsetText (minutes : Int) : String :=
  (if minutes < 0 then "-" else "+") ++ padded 2 (minutes.natAbs / 60) ++ ":"
    ++ padded 2 (minutes.natAbs % 60)

/-- **The ISO 8601 text of a time**: microseconds only where there are any. `zulu` writes a zero
offset as `Z`. -/
def TimeOfDay.iso (t : TimeOfDay) (zulu : Bool := false) : String :=
  padded 2 t.hour ++ ":" ++ padded 2 t.minute ++ ":" ++ padded 2 t.second
    ++ (if t.microsecond = 0 then "" else "." ++ padded 6 t.microsecond)
    ++ match t.offset with
      | none => ""
      | some minutes => if zulu && minutes == 0 then "Z" else offsetText minutes

/-- The ISO 8601 text of a time on a date, with a separator between the two. -/
def DateTime.iso (d : DateTime) (separator : String) (zulu : Bool := false) : String :=
  d.date.iso ++ separator ++ d.time.iso zulu

/-! ## Expressions -/

/-- An expression that names a kind of value and its parts. -/
def expressionOf (kind : String) (parts : List String) : String :=
  "datetime." ++ kind ++ "(" ++ ", ".intercalate parts ++ ")"

/-- The expression of an offset. A negative one is a day back and seconds forward. -/
def offsetExpression (minutes : Int) : String :=
  if minutes = 0 then "datetime.timezone.utc"
  else
    let seconds := minutes * 60
    let parts :=
      if seconds < 0 then ["days=-1", s!"seconds={seconds + 86400}"] else [s!"seconds={seconds}"]
    expressionOf "timezone" [expressionOf "timedelta" parts]

/-- The parts of a date. -/
def Date.parts (d : Date) : List String := [toString d.year, toString d.month, toString d.day]

namespace TimeOfDay

/-- The parts of a time: seconds and microseconds only where there are any. -/
def parts (t : TimeOfDay) : List String :=
  let seconds := if t.second = 0 ∧ t.microsecond = 0 then [] else [toString t.second]
  let microseconds := if t.microsecond = 0 then [] else [toString t.microsecond]
  [toString t.hour, toString t.minute] ++ seconds ++ microseconds

/-- The part that tells the offset, if there is one. -/
def offsetPart (t : TimeOfDay) : List String :=
  t.offset.toList.map fun minutes => "tzinfo=" ++ offsetExpression minutes

/-- The part that tells the second of two equal times. -/
def foldPart (t : TimeOfDay) : List String := if t.fold then ["fold=1"] else []

end TimeOfDay

/-- **The expression of a date.** -/
def Date.expression (d : Date) : String := expressionOf "date" d.parts

/-- **The expression of a time.** -/
def TimeOfDay.expression (t : TimeOfDay) : String :=
  expressionOf "time" (t.parts ++ t.offsetPart ++ t.foldPart)

/-- **The expression of a time on a date.** -/
def DateTime.expression (d : DateTime) : String :=
  expressionOf "datetime" (d.date.parts ++ d.time.parts ++ d.time.foldPart ++ d.time.offsetPart)

end SqlScript
