import Intake.Calendar.Basic

/-!
# Reading dates and times

The ISO 8601 forms of dates, times and moments, read on the bytes of their text. Dates have seven,
eight or ten bytes and may count by weeks; any character separates a date from a time.

Reading past the end finds the byte 0, so that a text may also end in that byte.
-/

namespace Intake.Calendar

/-- The bytes of a text. -/
abbrev Bytes := List UInt8

/-- The byte of an ASCII character. -/
def byte (c : Char) : UInt8 :=
  UInt8.ofNat c.toNat

/-- The value of a digit. -/
def digit? (b : UInt8) : Option Nat :=
  if 48 ≤ b && b ≤ 57 then some (b.toNat - 48) else none

/-- The number that `count` digits write, and the rest of the text. -/
def takeNumber : Nat → Nat → Bytes → Option (Nat × Bytes)
  | 0, n, s => some (n, s)
  | _ + 1, _, [] => none
  | count + 1, n, b :: s => (digit? b).bind fun d => takeNumber count (n * 10 + d) s

/-- The text after the separator of the parts of a date, which stands there iff it stood after the
    year. -/
def dropDateSeparator? (separated : Bool) (s : Bytes) : Option Bytes :=
  if separated then (if s.head? == some (byte '-') then some s.tail else none) else some s

/-- The date a text of year, week and perhaps day of the week denotes, after the mark of the
    week. -/
def readWeekDate? (separated : Bool) (year : Nat) (s : Bytes) : Option Date := do
  let (week, s) ← takeNumber 2 0 s
  let (day, _) ←
    if s.isEmpty then some (1, s)
    else do
      let s ← dropDateSeparator? separated s
      takeNumber 1 0 s
  Date.ofWeek? year week day

/-- The fields of the date a text begins with. -/
def readDateFields? (s : Bytes) : Option Date := do
  let (year, s) ← takeNumber 4 0 s
  let separated := s.head? == some (byte '-')
  let s := if separated then s.tail else s
  if s.head? == some (byte 'W') then readWeekDate? separated year s.tail
  else do
    let (month, s) ← takeNumber 2 0 s
    let s ← dropDateSeparator? separated s
    let (day, _) ← takeNumber 2 0 s
    some ⟨year, month, day⟩

/-- The date a text denotes. -/
def readDate? (s : Bytes) : Option Date :=
  if s.length = 7 || s.length = 8 || s.length = 10 then
    (readDateFields? s).filter Date.isValid
  else none

/-- Places of a second as microseconds, and whether text is left over; `after` is the byte behind
    the text. -/
def readPlaces? (after : UInt8) (s : Bytes) : Option (Nat × Bool) :=
  let count := min 6 s.length
  (takeNumber count 0 s).map fun (n, rest) =>
    let rest := rest.dropWhile fun b => (digit? b).isSome
    (n * Nat.pow 10 (6 - count), rest.headD after != 0)

/-- Hours, minutes and seconds, as many of `count` as the text holds, then places. The fields are
    separated throughout iff a colon follows the first. `none` for `separated` tells that no field
    has been read. -/
def readFields? (after : UInt8) (separated : Option Bool) :
    Nat → Bytes → Option (List Nat × Nat × Bool)
  | 0, s => (readPlaces? after s).map fun (micro, left) => ([], micro, left)
  | count + 1, s =>
    (takeNumber 2 0 s).bind fun (n, s) =>
      let next := s.headD after
      let colons := separated.getD (next == byte ':')
      if s.tail.isEmpty then some ([n], 0, next != 0)
      else
        let more :=
          if colons && next == byte ':' then readFields? after (some colons) count s.tail
          else if next == byte '.' || next == byte ',' then
            (readPlaces? after s.tail).map fun (micro, left) => ([], micro, left)
          else if colons then none
          else readFields? after (some colons) count s
        more.map fun (ns, micro, left) => (n :: ns, micro, left)

/-- The reading of a clock, and whether text is left over. -/
def readClock? (after : UInt8) (s : Bytes) : Option (Clock × Bool) :=
  (readFields? after none 3 s).map fun (ns, micro, left) =>
    (⟨ns.getD 0 0, ns.getD 1 0, ns.getD 2 0, micro⟩, left)

/-- The byte opens an offset. -/
def opensOffset (b : UInt8) : Bool :=
  b == byte '+' || b == byte '-' || b == byte 'Z'

/-- The offset in microseconds that a text denotes. Less than a second counts as none. -/
def readOffset? : Bytes → Option Int
  | [] => none
  | sign :: s =>
    if sign == byte 'Z' then (if s.headD 0 == 0 then some 0 else none)
    else
      (readClock? 0 s).bind fun (c, left) =>
        let seconds : Int := c.seconds
        let micros := seconds * 1000000 + c.micro
        let offset := if seconds = 0 then 0 else if sign == byte '-' then -micros else micros
        if left || !isOffset offset then none else some offset

/-- The clock and offset a text denotes. -/
def readClockAndOffset? (s : Bytes) : Option (Clock × Option Int) :=
  let zone := s.dropWhile fun b => !opensOffset b
  (readClock? (zone.headD 0) (s.takeWhile fun b => !opensOffset b)).bind fun (clock, left) =>
    if !clock.isValid then none
    else if zone.isEmpty then (if left then none else some (clock, none))
    else (readOffset? zone).map fun offset => (clock, some offset)

/-- The time a text denotes; it may begin with a `T`. -/
def readTime? (s : Bytes) : Option Time :=
  let s := if s.head? == some (byte 'T') then s.tail else s
  (readClockAndOffset? s).map fun (clock, offset) => ⟨clock, offset⟩

/-- The length of the date that opens the text of a moment. A week date may be followed by a time
    in several ways; an odd count of digits behind the week gives its first to the date. -/
def dateLength? (s : Bytes) : Option Nat :=
  let isDigitAt := fun i => (digit? (s.getD i 0)).isSome
  if s.length = 7 then some 7
  else if s.getD 4 0 == byte '-' then
    if s.getD 5 0 == byte 'W' then
      if s.length < 8 then none
      else if 8 < s.length && s.getD 8 0 == byte '-' then
        if s.length = 9 then none
        else if 10 < s.length && isDigitAt 10 then some 8
        else some 10
      else some 8
    else some 10
  else if s.getD 4 0 == byte 'W' then
    let digitsEnd := 7 + ((s.drop 7).takeWhile fun b => (digit? b).isSome).length
    if digitsEnd < 9 then some digitsEnd
    else if digitsEnd % 2 = 0 then some 7
    else some 8
  else some 8

/-- The bytes of the character that opens a text. -/
def leadingWidth (s : Bytes) : Nat :=
  let b := s.headD 0
  if b < 0x80 then 1
  else if b &&& 0xF0 == 0xE0 then 3
  else if b &&& 0xF0 == 0xF0 then 4
  else 2

/-- The moment a text denotes. -/
def readMoment? (s : Bytes) : Option Moment :=
  if s.length < 7 then none
  else
    (dateLength? s).bind fun n =>
      ((readDateFields? (s.take n)).filter Date.isValid).bind fun date =>
        if s.length ≤ n then some ⟨date, ⟨0, 0, 0, 0⟩, none⟩
        else
          (readClockAndOffset? ((s.drop n).drop (leadingWidth (s.drop n)))).map
            fun (clock, offset) => ⟨date, clock, offset⟩

end Intake.Calendar
