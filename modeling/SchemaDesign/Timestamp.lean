import SchemaDesign.Number.Decimal
import SchemaDesign.Text.Blank
import SchemaDesign.Text.IgnoringCase

/-!
# Points in time

A point in time is counted in seconds from the start of 1970 and written as RFC 3339 text in UTC.
Reading accepts every offset, a blank in place of `T`, and blanks between the parts.
-/

namespace SchemaDesign

/-- A point in time in UTC.  The nanoseconds reach a second thousand million during a leap
second. -/
structure Timestamp where
  seconds : Int
  nanoseconds : Nat
deriving DecidableEq, Repr, Inhabited

namespace Timestamp

/-- The start of 1970. -/
def epoch : Timestamp :=
  { seconds := 0, nanoseconds := 0 }

/-- Whether a year of the Gregorian calendar has a leap day. -/
def isLeapYear (year : Int) : Bool :=
  year % 4 == 0 && (year % 100 != 0 || year % 400 == 0)

/-- The number of days of a month. -/
def daysInMonth (year : Int) (month : Nat) : Nat :=
  if month = 2 then (if isLeapYear year then 29 else 28)
  else if month = 4 ∨ month = 6 ∨ month = 9 ∨ month = 11 then 30
  else 31

/-- The number of days from the start of 1970 to a date.  Years are counted from March, in eras of
400 years. -/
def dayNumber (year : Int) (month day : Nat) : Int :=
  let year := if month ≤ 2 then year - 1 else year
  let era := year.fdiv 400
  let yearOfEra := year - era * 400
  let monthFromMarch : Int := (month + 9) % 12
  let dayOfYear := (153 * monthFromMarch + 2) / 5 + day - 1
  let dayOfEra := yearOfEra * 365 + yearOfEra / 4 - yearOfEra / 100 + dayOfYear
  era * 146097 + dayOfEra - 719468

/-- The year, month and day of a day number. -/
def dateOf (dayNumber : Int) : Int × Nat × Nat :=
  let shifted := dayNumber + 719468
  let era := shifted.fdiv 146097
  let dayOfEra := (shifted - era * 146097).toNat
  let yearOfEra := (dayOfEra - dayOfEra / 1460 + dayOfEra / 36524 - dayOfEra / 146096) / 365
  let dayOfYear := dayOfEra - (365 * yearOfEra + yearOfEra / 4 - yearOfEra / 100)
  let monthFromMarch := (5 * dayOfYear + 2) / 153
  let day := dayOfYear - (153 * monthFromMarch + 2) / 5 + 1
  let month := if monthFromMarch < 10 then monthFromMarch + 3 else monthFromMarch - 9
  let year := (yearOfEra : Int) + era * 400
  (if month ≤ 2 then year + 1 else year, month, day)

/-- The decimal digits of a number, with zeros before them up to a width. -/
def padded (width n : Nat) : List Char :=
  let all := Number.digits n
  List.replicate (width - all.length) '0' ++ all

/-- A year: four digits, and a sign too outside the years 0 to 9999. -/
def yearText (year : Int) : List Char :=
  if 0 ≤ year ∧ year ≤ 9999 then padded 4 year.natAbs
  else (if year < 0 then '-' else '+') :: padded 4 year.natAbs

/-- The fraction of a second with the fewest of 0, 3, 6 and 9 places. -/
def fractionText (nanoseconds : Nat) : List Char :=
  if nanoseconds = 0 then []
  else if nanoseconds % 1000000 = 0 then '.' :: padded 3 (nanoseconds / 1000000)
  else if nanoseconds % 1000 = 0 then '.' :: padded 6 (nanoseconds / 1000)
  else '.' :: padded 9 nanoseconds

/-- The RFC 3339 text; a leap second is second 60. -/
def text (t : Timestamp) : String :=
  let days := t.seconds.fdiv 86400
  let second := (t.seconds - days * 86400).toNat
  let (year, month, day) := dateOf days
  let leap := 1000000000 ≤ t.nanoseconds
  let nanoseconds := if leap then t.nanoseconds - 1000000000 else t.nanoseconds
  let seconds := if leap then second % 60 + 1 else second % 60
  String.ofList (yearText year ++ '-' :: padded 2 month ++ '-' :: padded 2 day ++
    'T' :: padded 2 (second / 3600) ++ ':' :: padded 2 (second / 60 % 60) ++
    ':' :: padded 2 seconds ++ fractionText nanoseconds ++ ['Z'])

/-! ## Reading -/

/-- A number of at most `width` digits after blanks, and what follows it. -/
def readField? (width : Nat) (text : List Char) : Option (Nat × List Char) :=
  let text := Text.trimStart text
  let run := (text.take width).takeWhile Char.isDigit
  if run.isEmpty then none else some (Number.valueOfDigits run, text.drop run.length)

/-- A year: at most four digits, or a sign and any number of them. -/
def readYear? (text : List Char) : Option (Int × List Char) :=
  match Text.trimStart text with
  | '-' :: rest => (signed rest).map fun (year, rest) => (-(year : Int), rest)
  | '+' :: rest => (signed rest).map fun (year, rest) => ((year : Int), rest)
  | rest => (readField? 4 rest).map fun (year, rest) => ((year : Int), rest)
where
  signed (text : List Char) : Option (Nat × List Char) :=
    match text.span Char.isDigit with
    | ([], _) => none
    | (run, rest) => some (Number.valueOfDigits run, rest)

/-- What follows a mark that may have blanks before it. -/
def afterMark? (mark : Char) (text : List Char) : Option (List Char) :=
  match Text.trimStart text with
  | c :: rest => if c = mark then some rest else none
  | [] => none

/-- The fraction of a second in nanoseconds; places after the ninth are passed over. -/
def readFraction? : List Char → Option (Nat × List Char)
  | '.' :: rest =>
      match rest.span Char.isDigit with
      | ([], _) => none
      | (run, rest) =>
          let kept := run.take 9
          some (Number.valueOfDigits kept * Nat.pow 10 (9 - kept.length), rest)
  | rest => some (0, rest)

/-- Two digits. -/
def readPair? : List Char → Option (Nat × List Char)
  | a :: b :: rest =>
      if a.isDigit && b.isDigit then some (Number.valueOfDigits [a, b], rest) else none
  | _ => none

/-- The offset from UTC in seconds: `Z`, `UTC`, or a sign, two digits of hours, colons or blanks,
and two digits of minutes.  The typographic minus sign is a sign too. -/
def readOffset? (text : List Char) : Option (Int × List Char) :=
  if (text.take 3).map Char.toUpper = ['U', 'T', 'C'] then some (0, text.drop 3)
  else
    match text with
    | [] => none
    | c :: rest =>
        if c = 'Z' ∨ c = 'z' then some (0, rest)
        else if c = '+' ∨ c = '-' ∨ c.toNat = 0x2212 then do
          let (hours, rest) ← readPair? rest
          let (minutes, rest) ← readPair? (rest.dropWhile fun c => c == ':' || Text.isBlank c)
          if 60 ≤ minutes then none
          else
            let offset : Int := hours * 3600 + minutes * 60
            some (if c = '+' then offset else -offset, rest)
        else none

/-- The point in time of a date, a time of day and an offset, if all lie in their ranges. -/
def ofParts? (year : Int) (month day hour minute second nanoseconds : Nat) (offset : Int) :
    Option Timestamp :=
  if -262143 ≤ year ∧ year ≤ 262142 ∧ 1 ≤ month ∧ month ≤ 12 ∧ 1 ≤ day ∧
      day ≤ daysInMonth year month ∧ hour ≤ 23 ∧ minute ≤ 59 ∧ second ≤ 60 ∧
      -86400 < offset ∧ offset < 86400 then
    let leap := second = 60
    let atOffset : Int :=
      dayNumber year month day * 86400 + hour * 3600 + minute * 60 + (if leap then 59 else second)
    let seconds := atOffset - offset
    if dayNumber (-262143) 1 1 * 86400 ≤ seconds ∧ seconds < dayNumber 262143 1 1 * 86400 then
      some
        { seconds
          nanoseconds := if leap then nanoseconds + 1000000000 else nanoseconds }
    else none
  else none

/-- The point in time that an RFC 3339 text names. -/
def ofText? (source : String) : Option Timestamp := do
  let (year, text) ← readYear? source.toList
  let text ← afterMark? '-' text
  let (month, text) ← readField? 2 text
  let text ← afterMark? '-' text
  let (day, text) ← readField? 2 text
  let text ←
    match text with
    | c :: rest => if c = 'T' ∨ c = 't' ∨ c = ' ' then some rest else none
    | [] => none
  let (hour, text) ← readField? 2 text
  let text ← afterMark? ':' text
  let (minute, text) ← readField? 2 text
  let text ← afterMark? ':' text
  let (second, text) ← readField? 2 text
  let (nanoseconds, text) ← readFraction? text
  let (offset, text) ← readOffset? (Text.trimStart text)
  if (Text.trimStart text).isEmpty then
    ofParts? year month day hour minute second nanoseconds offset
  else none

end Timestamp

end SchemaDesign
