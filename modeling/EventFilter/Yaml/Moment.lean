import EventFilter.Value
import EventFilter.Yaml.Cursor
import EventFilter.Yaml.Fault

/-!
Calendar dates, and times of a day, as YAML scalars.
-/

namespace EventFilter.Yaml

structure TimeOfDay where
  hour : Nat
  minute : Nat
  second : Nat
  microsecond : Nat
  offset : Option Int
deriving DecidableEq

structure Moment where
  year : Nat
  month : Nat
  day : Nat
  time : Option TimeOfDay
deriving DecidableEq

namespace Moment

/-! Reading. -/

def number? (least most : Nat) (text : Text) : Option (Nat × Text) :=
  let digits := (text.take most).takeWhile Text.isAsciiDigit
  if digits.length < least then none else some (Text.digitsToNat digits, text.drop digits.length)

def afterMark? (mark : Char) : Text → Option Text
  | first :: rest => if first == mark then some rest else none
  | [] => none

def microseconds : Text → Nat × Text
  | '.' :: rest =>
    let digits := rest.takeWhile Text.isAsciiDigit
    let shown := digits.take 6
    (Text.digitsToNat shown * Nat.pow 10 (6 - shown.length), rest.drop digits.length)
  | text => (0, text)

def offsetMinutes? (text : Text) : Option Int := do
  let (hours, text) ← number? 1 2 text
  match text with
  | [] => pure (60 * hours : Nat)
  | _ =>
    let (minutes, text) ← number? 2 2 (← afterMark? ':' text)
    guard text.isEmpty
    pure (60 * hours + minutes : Nat)

def offset? (text : Text) : Option (Option Int) :=
  if text.isEmpty then some none
  else
    match text.dropWhile isSpaceOrTab with
    | ['Z'] => some (some 0)
    | '-' :: rest => (offsetMinutes? rest).map fun minutes => some (-minutes)
    | '+' :: rest => (offsetMinutes? rest).map some
    | _ => none

def time? (text : Text) : Option TimeOfDay := do
  let (hour, text) ← number? 1 2 text
  let (minute, text) ← number? 2 2 (← afterMark? ':' text)
  let (second, text) ← number? 2 2 (← afterMark? ':' text)
  let (microsecond, text) := microseconds text
  let offset ← offset? text
  pure { hour, minute, second, microsecond, offset }

def read? (text : Text) : Option Moment := do
  let (year, text) ← number? 4 4 text
  let (month, text) ← number? 1 2 (← afterMark? '-' text)
  let (day, text) ← number? 1 2 (← afterMark? '-' text)
  match text with
  | [] => pure { year, month, day, time := none }
  | first :: rest =>
    if first == 'T' || first == 't' then
      pure { year, month, day, time := some (← time? rest) }
    else
      guard (isSpaceOrTab first)
      pure { year, month, day, time := some (← time? (rest.dropWhile isSpaceOrTab)) }

/-- Whether a scalar without a tag is a moment: a date alone must have all its ten characters. -/
def isPlain (text : Text) : Bool :=
  (read? text).any fun moment => moment.time.isSome || text.length == 10

/-! Written forms. -/

def fieldList (fields : List Nat) : Text :=
  Text.joinWith [',', ' '] (fields.map (Nat.toDigits 10))

/-- A span of minutes other than zero as days and seconds, of which only the days can be
negative. -/
def spanText (minutes : Int) : Text :=
  let days := minutes / 1440
  let seconds := minutes % 1440 * 60
  let parts :=
    (if days = 0 then [] else ["days=".toList ++ Text.decimal days]) ++
    (if seconds = 0 then [] else ["seconds=".toList ++ Text.decimal seconds])
  "datetime.timedelta(".toList ++ Text.joinWith [',', ' '] parts ++ [')']

def offsetText (minutes : Int) : Text :=
  if minutes = 0 then "datetime.timezone.utc".toList
  else "datetime.timezone(".toList ++ spanText minutes ++ [')']

def clockFields (time : TimeOfDay) : List Nat :=
  if time.microsecond ≠ 0 then [time.hour, time.minute, time.second, time.microsecond]
  else if time.second ≠ 0 then [time.hour, time.minute, time.second]
  else [time.hour, time.minute]

def literal (moment : Moment) : Text :=
  let date := [moment.year, moment.month, moment.day]
  match moment.time with
  | none => "datetime.date(".toList ++ fieldList date ++ [')']
  | some time =>
    let zone := match time.offset with
      | some minutes => ", tzinfo=".toList ++ offsetText minutes
      | none => []
    "datetime.datetime(".toList ++ fieldList (date ++ clockFields time) ++ zone ++ [')']

def otherType (moment : Moment) : OtherType :=
  if moment.time.isSome then .moment else .date

/-! Existence. -/

def isLeapYear (year : Nat) : Bool :=
  year % 4 == 0 && (year % 100 != 0 || year % 400 == 0)

def daysIn (year month : Nat) : Nat :=
  if month = 2 then if isLeapYear year then 29 else 28
  else if month = 4 ∨ month = 6 ∨ month = 9 ∨ month = 11 then 30
  else 31

def checkOffset (time : TimeOfDay) : Except Fault Unit :=
  match time.offset with
  | some minutes =>
    if minutes.natAbs < 1440 then .ok () else .error (.offsetTooLarge (spanText minutes))
  | none => .ok ()

def checkDate (moment : Moment) : Except Fault Unit :=
  if moment.year = 0 then .error (.outOfCalendar .year)
  else if moment.month = 0 ∨ 12 < moment.month then .error (.outOfCalendar .month)
  else if moment.day = 0 ∨ daysIn moment.year moment.month < moment.day then
    .error (.outOfCalendar .day)
  else .ok ()

def checkClock (time : TimeOfDay) : Except Fault Unit :=
  if 23 < time.hour then .error (.outOfCalendar .hour)
  else if 59 < time.minute then .error (.outOfCalendar .minute)
  else if 59 < time.second then .error (.outOfCalendar .second)
  else .ok ()

def ofText (text : Text) : Except Fault Moment := do
  match read? (Text.dropLineFeed text) with
  | none => throw .notMoment
  | some moment =>
    moment.time.forM checkOffset
    moment.checkDate
    moment.time.forM checkClock
    pure moment

end Moment

end EventFilter.Yaml
