import BroadcastGraphics.Fault
import BroadcastGraphics.Moment
import BroadcastGraphics.Text.Search

/-!
# Dates and times in settings

A date is written as a year, a month and a day with dashes between them.  A time of day and the
distance to universal time can follow it, and then the month and the day can have one digit.  A date
that the calendar does not have is refused.
-/

namespace BroadcastGraphics
namespace Yaml

/-- The distance to universal time. -/
structure Offset where
  isBehind : Bool
  hour : Nat
  minute : Nat
  deriving DecidableEq, Repr

/-- A time of day with the digits of a fraction of a second. -/
structure TimeOfDay where
  hour : Nat
  minute : Nat
  second : Nat
  fraction : List Char
  offset : Option Offset
  deriving DecidableEq, Repr

/-- A date, perhaps with a time of day. -/
structure DateTime where
  date : Moment.Date
  time : Option TimeOfDay
  deriving DecidableEq, Repr

namespace DateTime

/-- The number at the start of a text, which has at least so many digits, and of which at most so
many are read; the rest of the text follows. -/
def number? (least most : Nat) (text : List Char) : Option (Nat × List Char) :=
  let digits := (text.take most).takeWhile Json.Reader.isDigit
  if least ≤ digits.length then some (digitsValue digits, text.drop digits.length) else none

/-- The text after a character that it starts with. -/
def after? (character : Char) : List Char -> Option (List Char)
  | first :: rest => if first == character then some rest else none
  | [] => none

/-- The text after the blanks that it starts with. -/
def afterBlanks (text : List Char) : List Char :=
  text.dropWhile (· == ' ')

/-- The date at the start of a text, whose month and day have at least so many digits. -/
def date? (least : Nat) (text : List Char) : Option (Moment.Date × List Char) := do
  let (year, text) <- number? 4 4 text
  let (month, text) <- number? least 2 (<- after? '-' text)
  let (day, text) <- number? least 2 (<- after? '-' text)
  some (⟨year, month, day⟩, text)

/-- The offset that a text is: a letter, or hours and perhaps minutes with a sign. -/
def offset? (text : List Char) : Option (Option Offset) :=
  match text with
  | [] => some none
  | 'Z' :: rest => if rest.isEmpty then some (some ⟨false, 0, 0⟩) else none
  | sign :: rest =>
      if sign == '-' || sign == '+' then do
        let (hour, rest) <- number? 1 2 rest
        if rest.isEmpty then some (some ⟨sign == '-', hour, 0⟩)
        else
          let (minute, rest) <- number? 2 2 (<- after? ':' rest)
          if rest.isEmpty then some (some ⟨sign == '-', hour, minute⟩) else none
      else none

/-- The time of day that a text after a date is. -/
def time? (text : List Char) : Option TimeOfDay := do
  let text <- match text with
    | first :: rest =>
        if first == 'T' || first == 't' then some rest
        else if first == ' ' then some (afterBlanks rest) else none
    | [] => none
  let (hour, text) <- number? 1 2 text
  let (minute, text) <- number? 2 2 (<- after? ':' text)
  let (second, text) <- number? 2 2 (<- after? ':' text)
  let (fraction, text) := match text with
    | '.' :: rest => (rest.takeWhile Json.Reader.isDigit, rest.dropWhile Json.Reader.isDigit)
    | text => ([], text)
  let offset <- offset? (afterBlanks text)
  some ⟨hour, minute, second, fraction, offset⟩

/-- The date and time that a text is, if the month and the day of a date alone have at least so many
digits. -/
def ofText? (least : Nat) (text : List Char) : Option DateTime :=
  match date? least text with
  | some (date, []) => some ⟨date, none⟩
  | _ => do
      let (date, rest) <- date? 1 text
      some ⟨date, some (<- time? rest)⟩

/-- The year has a leap day. -/
def isLeap (year : Nat) : Bool :=
  year % 4 == 0 && (year % 100 != 0 || year % 400 == 0)

/-- The number of days in a month. -/
def daysIn (year month : Nat) : Nat :=
  if month == 2 then (if isLeap year then 29 else 28)
  else if month ∈ [4, 6, 9, 11] then 30 else 31

/-- The part that lies outside of the calendar, or of the day. -/
def problem? (moment : DateTime) : Option CalendarProblem :=
  let date := moment.date
  let ofDate : Option CalendarProblem :=
    if date.year == 0 then some .year
    else if date.month == 0 || 12 < date.month then some .month
    else if date.day == 0 || daysIn date.year date.month < date.day then some .day
    else none
  ofDate.or (moment.time.bind fun time =>
    if 23 < time.hour then some .hour
    else if 59 < time.minute then some .minute
    else if 59 < time.second then some .second
    else none)

/-- The text of an offset. -/
def offsetText (offset : Offset) : List Char :=
  if offset.hour == 0 && offset.minute == 0 then ['Z']
  else (if offset.isBehind then '-' else '+') :: Moment.padded 2 offset.hour ++
    ':' :: Moment.padded 2 offset.minute

/-- The text of a fraction of a second, which has six digits if it is not zero. -/
def fractionText (fraction : List Char) : List Char :=
  let digits := (fraction ++ List.replicate 6 '0').take 6
  if digits.all (· == '0') then [] else '.' :: digits

/-- The text of a time of day. -/
def timeText (time : TimeOfDay) : List Char :=
  'T' :: Moment.padded 2 time.hour ++ ':' :: Moment.padded 2 time.minute ++
    ':' :: Moment.padded 2 time.second ++ fractionText time.fraction ++
    (time.offset.map offsetText).getD []

/-- The text of a date and time. -/
def text (moment : DateTime) : String :=
  let date := moment.date
  String.ofList (Moment.padded 4 date.year ++ '-' :: Moment.padded 2 date.month ++
    '-' :: Moment.padded 2 date.day ++ (moment.time.map timeText).getD [])

/-- The name of the only member of an object that stands for a date and time. -/
def memberName : String := String.ofList [Json.Name.mark, '@']

/-- A date and time as a value: it is neither a text nor an object. -/
def toJson (moment : DateTime) : Json :=
  .arr [.obj [(memberName, .str moment.text)]]

/-- The text of the date and time that items stand for. -/
def textOf? : List Json -> Option String
  | [.obj [(name, .str text)]] => if name == memberName then some text else none
  | _ => none

example : (ofText? 2 "2026-02-03".toList).map text = some "2026-02-03" := by decide +kernel
example : (ofText? 2 "2026-2-3 1:02:03.5 +02".toList).map text =
    some "2026-02-03T01:02:03.500000+02:00" := by decide +kernel
example : ofText? 2 "2026-2-3".toList = none := by decide +kernel
example : (ofText? 2 "2026-02-29".toList).bind problem? = some .day := by decide +kernel

end DateTime
end Yaml
end BroadcastGraphics
