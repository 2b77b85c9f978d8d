import DocAudit.Text.Quoted

/-!
# Dates and times

Calendar dates of the Gregorian calendar, times of day and their texts. Main statement: `Date.of?`
accepts exactly the dates that exist.
-/

namespace DocAudit

/-- A calendar date. -/
structure Date where
  year : Nat
  month : Nat
  day : Nat
  deriving DecidableEq, Repr

/-- A time of day to the microsecond. -/
structure Clock where
  hour : Nat
  minute : Nat
  second : Nat
  micro : Nat
  deriving DecidableEq, Repr

/-- A date with a time of day and, if it is known, the offset from universal time in minutes. -/
structure Moment where
  date : Date
  clock : Clock
  offset : Option Int
  deriving DecidableEq, Repr

/-- Why a date or a time does not exist. -/
inductive CalendarFault where
  | year (n : Nat)
  | month
  | day
  | hour
  | minute
  | second
  | offset (minutes : Int)
  deriving DecidableEq, Repr

/-- A year with a twenty-ninth of February. -/
def isLeapYear (y : Nat) : Bool := y % 4 == 0 && (y % 100 != 0 || y % 400 == 0)

/-- The number of days of a month. -/
def daysInMonth (y m : Nat) : Nat :=
  if m == 2 then if isLeapYear y then 29 else 28
  else if m == 4 || m == 6 || m == 9 || m == 11 then 30
  else 31

/-- The date of a year, a month and a day, if there is such a date. -/
def Date.of? (y m d : Nat) : Except CalendarFault Date :=
  if y < 1 || 9999 < y then .error (.year y)
  else if m < 1 || 12 < m then .error .month
  else if d < 1 || daysInMonth y m < d then .error .day
  else .ok ⟨y, m, d⟩

/-- The time of day of its parts, if there is such a time. -/
def Clock.of? (h m s micro : Nat) : Except CalendarFault Clock :=
  if 23 < h then .error .hour
  else if 59 < m then .error .minute
  else if 59 < s then .error .second
  else .ok ⟨h, m, s, micro⟩

/-- The number of days from the first day of the first year. -/
def Date.ordinal (d : Date) : Int :=
  let y : Int := d.year - 1
  let months := (List.range (d.month - 1)).foldl (fun n i => n + daysInMonth d.year (i + 1)) 0
  y * 365 + y / 4 - y / 100 + y / 400 + months + d.day

/-- The microseconds from the first day of the first year, by universal time if the offset is
known. -/
def Moment.instant (t : Moment) : Int :=
  let minutes : Int := t.date.ordinal * 1440 + t.clock.hour * 60 + t.clock.minute - t.offset.getD 0
  minutes * 60000000 + t.clock.second * 1000000 + t.clock.micro

open Text

/-- The date as `YYYY-MM-DD`. -/
def Date.text (d : Date) : String :=
  String.ofList (padded 4 d.year ++ '-' :: padded 2 d.month ++ '-' :: padded 2 d.day)

/-- The time of day as `HH:MM:SS`, with microseconds where there are any. -/
def Clock.text (c : Clock) : String :=
  String.ofList (padded 2 c.hour ++ ':' :: padded 2 c.minute ++ ':' :: padded 2 c.second ++
    if c.micro == 0 then [] else '.' :: padded 6 c.micro)

/-- An offset as `+HH:MM` or `-HH:MM`. -/
def offsetText (minutes : Int) : String :=
  let n := minutes.natAbs
  String.ofList ((if minutes < 0 then '-' else '+') :: padded 2 (n / 60) ++
    ':' :: padded 2 (n % 60))

/-- The date and the time, with the offset where it is known. -/
def Moment.text (t : Moment) : String :=
  t.date.text ++ " " ++ t.clock.text ++ (t.offset.map offsetText).getD ""

/-- A length of time in minutes, written as a constructor of whole days and seconds. -/
def durationConstructor (minutes : Int) : String :=
  let days := minutes.fdiv 1440
  let seconds := minutes.fmod 1440 * 60
  let parts := (if days == 0 then [] else [s!"days={days}"]) ++
    (if seconds == 0 then [] else [s!"seconds={seconds}"])
  "datetime.timedelta(" ++ (if parts.isEmpty then "0" else ", ".intercalate parts) ++ ")"

/-- The date written as a constructor. -/
def Date.constructor (d : Date) : String := s!"datetime.date({d.year}, {d.month}, {d.day})"

/-- The parts of a time of day that a constructor shows: zeros at the end are left out, hours and
minutes never. -/
def Clock.arguments (c : Clock) : List Nat :=
  [c.hour, c.minute] ++
    if c.micro != 0 then [c.second, c.micro] else if c.second != 0 then [c.second] else []

/-- The time of day written as a constructor. -/
def Clock.constructor (c : Clock) : String :=
  "datetime.time(" ++ ", ".intercalate (c.arguments.map toString) ++ ")"

/-- The date and the time written as a constructor. -/
def Moment.constructor (t : Moment) : String :=
  let zone :=
    match t.offset with
    | none => ""
    | some 0 => ", tzinfo=datetime.timezone.utc"
    | some m => ", tzinfo=datetime.timezone(" ++ durationConstructor m ++ ")"
  "datetime.datetime(" ++
    ", ".intercalate
      (([t.date.year, t.date.month, t.date.day] ++ t.clock.arguments).map toString) ++ zone ++ ")"

/-- What is wrong with a date or a time, in words. -/
def CalendarFault.message : CalendarFault → String
  | .year n => s!"year {n} is out of range"
  | .month => "month must be in 1..12"
  | .day => "day is out of range for month"
  | .hour => "hour must be in 0..23"
  | .minute => "minute must be in 0..59"
  | .second => "second must be in 0..59"
  | .offset m =>
    "offset must be a timedelta strictly between -timedelta(hours=24) and timedelta(hours=24), not "
      ++ durationConstructor m ++ "."

theorem Date.of?_eq_ok_iff {y m d : Nat} {x : Date} :
    Date.of? y m d = .ok x ↔
      1 ≤ y ∧ y ≤ 9999 ∧ 1 ≤ m ∧ m ≤ 12 ∧ 1 ≤ d ∧ d ≤ daysInMonth y m ∧
      x = ⟨y, m, d⟩ := by
  unfold Date.of?
  simp only [Bool.or_eq_true, decide_eq_true_eq]
  split
  · simp; omega
  · split
    · simp; omega
    · split
      · simp; omega
      · simp only [Except.ok.injEq, eq_comm (a := x)]
        constructor
        · rintro rfl
          refine ⟨by omega, by omega, by omega, by omega, by omega, by omega, rfl⟩
        · exact fun h => h.2.2.2.2.2.2

end DocAudit
