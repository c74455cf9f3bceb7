import Intake.Calendar.Basic

/-!
# Writing dates and times

The ISO 8601 text of dates, times and moments, and the form that names their parts. Seconds and
microseconds that are zero are left out of the named form.
-/

namespace Intake.Calendar

/-- The number on at least `width` places. -/
def places (width n : Nat) : String :=
  let digits := toString n
  String.ofList (List.replicate (width - digits.length) '0') ++ digits

/-- A year, month and day, separated by hyphens. -/
def Date.text (d : Date) : String :=
  places 4 d.year ++ "-" ++ places 2 d.month ++ "-" ++ places 2 d.day

/-- Hours, minutes and seconds, and microseconds where there are some. -/
def Clock.text (c : Clock) : String :=
  places 2 c.hour ++ ":" ++ places 2 c.minute ++ ":" ++ places 2 c.second ++
    (if c.micro = 0 then "" else "." ++ places 6 c.micro)

/-- The sign, hours and minutes of an offset, and what is finer where there is some. -/
def offsetText (micros : Int) : String :=
  let n := micros.natAbs
  let seconds := n / 1000000
  let micro := n % 1000000
  (if micros < 0 then "-" else "+") ++ places 2 (seconds / 3600) ++ ":" ++
    places 2 (seconds / 60 % 60) ++
    (if seconds % 60 = 0 && micro = 0 then "" else ":" ++ places 2 (seconds % 60)) ++
    (if micro = 0 then "" else "." ++ places 6 micro)

/-- The text of an offset where there is one. -/
def zoneText (offset : Option Int) : String :=
  match offset with
  | some micros => offsetText micros
  | none => ""

/-- The text of a time. -/
def Time.text (t : Time) : String :=
  t.clock.text ++ zoneText t.offset

/-- The text of a moment, its date and its time parted by `separator`. -/
def Moment.textWith (separator : String) (m : Moment) : String :=
  m.date.text ++ separator ++ m.clock.text ++ zoneText m.offset

/-- The text of a moment. -/
def Moment.text (m : Moment) : String :=
  m.textWith "T"

/-- The parts of a duration in whole days, seconds and microseconds that are not zero. -/
def durationForm (micros : Int) : String :=
  let days := micros / dayMicros
  let rest := micros % dayMicros
  let parts :=
    (if days = 0 then [] else ["days=" ++ toString days]) ++
    (if rest / 1000000 = 0 then [] else ["seconds=" ++ toString (rest / 1000000)]) ++
    (if rest % 1000000 = 0 then [] else ["microseconds=" ++ toString (rest % 1000000)])
  "datetime.timedelta(" ++ (if parts.isEmpty then "0" else ", ".intercalate parts) ++ ")"

/-- The named form of an offset. -/
def zoneForm (offset : Option Int) : List String :=
  match offset with
  | none => []
  | some micros =>
    if micros = 0 then ["tzinfo=datetime.timezone.utc"]
    else ["tzinfo=datetime.timezone(" ++ durationForm micros ++ ")"]

/-- The parts of a clock in the named form. -/
def Clock.formParts (c : Clock) : List String :=
  [toString c.hour, toString c.minute] ++
    (if c.second = 0 && c.micro = 0 then [] else [toString c.second]) ++
    (if c.micro = 0 then [] else [toString c.micro])

/-- The parts of a date in the named form. -/
def Date.formParts (d : Date) : List String :=
  [toString d.year, toString d.month, toString d.day]

/-- The named form of a date. -/
def Date.form (d : Date) : String :=
  "datetime.date(" ++ ", ".intercalate d.formParts ++ ")"

/-- The named form of a time. -/
def Time.form (t : Time) : String :=
  "datetime.time(" ++ ", ".intercalate (t.clock.formParts ++ zoneForm t.offset) ++ ")"

/-- The named form of a moment. -/
def Moment.form (m : Moment) : String :=
  "datetime.datetime(" ++
    ", ".intercalate (m.date.formParts ++ m.clock.formParts ++ zoneForm m.offset) ++ ")"

end Intake.Calendar
