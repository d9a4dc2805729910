/-!
# The clock

What the clock shows, and how the time of day and the date are put into words.
-/

namespace DeviceAgent

/-- The local time and date, and how long the agent has been running. -/
structure Clock where
  hour : Nat
  minute : Nat
  second : Nat
  /-- Days after Monday. -/
  weekday : Fin 7
  /-- Months after January. -/
  month : Fin 12
  day : Nat
  year : Nat
  uptimeSecs : Nat
deriving DecidableEq, Repr

namespace Clock

def weekdayName : Fin 7 → String
  | 0 => "Monday"
  | 1 => "Tuesday"
  | 2 => "Wednesday"
  | 3 => "Thursday"
  | 4 => "Friday"
  | 5 => "Saturday"
  | 6 => "Sunday"

def monthName : Fin 12 → String
  | 0 => "January"
  | 1 => "February"
  | 2 => "March"
  | 3 => "April"
  | 4 => "May"
  | 5 => "June"
  | 6 => "July"
  | 7 => "August"
  | 8 => "September"
  | 9 => "October"
  | 10 => "November"
  | 11 => "December"

/-- A number with at least this many digits. -/
def padded (width n : Nat) : String :=
  let digits := toString n
  String.ofList (List.replicate (width - digits.length) '0') ++ digits

def timeText (c : Clock) : String :=
  padded 2 c.hour ++ ":" ++ padded 2 c.minute ++ ":" ++ padded 2 c.second

def dateText (c : Clock) : String :=
  weekdayName c.weekday ++ ", " ++ monthName c.month ++ " " ++ padded 2 c.day ++ ", " ++ padded 4 c.year

end Clock

end DeviceAgent
