/-
The time that log lines tell, from the seconds since the start of the year 1970 in universal time.

Days are counted in eras of 400 years, which have 146097 days each, and years from March on, so that
a leap day is the last day of its year.
-/
import CodeCatalog.Settings.Datum

set_option autoImplicit false

namespace CodeCatalog.Log

/-- A day of the calendar. -/
structure Day where
  year : Nat
  month : Nat
  day : Nat
  deriving Repr, DecidableEq

/-- The days from the first of March of the year zero to the start of 1970. -/
def daysBefore1970 : Nat := 719468

/-- The day that comes some days after the start of 1970. -/
def Day.ofNumber (n : Nat) : Day :=
  let days := n + daysBefore1970
  let inEra := days % 146097
  let years := (inEra - inEra / 1460 + inEra / 36524 - inEra / 146096) / 365
  let inYear := inEra - (365 * years + years / 4 - years / 100)
  let marches := (5 * inYear + 2) / 153
  let month := if marches < 10 then marches + 3 else marches - 9
  { year := days / 146097 * 400 + years + (if month ≤ 2 then 1 else 0)
    month := month
    day := inYear - (153 * marches + 2) / 5 + 1 }

/-- The text of a time. -/
def timeText (seconds : Nat) : String :=
  let d := Day.ofNumber (seconds / 86400)
  let rest := seconds % 86400
  let two := Scalar.padded 2
  Scalar.dateText d.year d.month d.day ++ " " ++ two (rest / 3600) ++ ":" ++ two (rest / 60 % 60) ++
    ":" ++ two (rest % 60)

end CodeCatalog.Log
