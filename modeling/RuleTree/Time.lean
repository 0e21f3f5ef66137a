import RuleTree.Text.Blank
import RuleTree.Text.Digits

/-!
Moments in time and their RFC 3339 text. Reading accepts `t` and a space for `T`, `z` for `Z`, any
offset from UTC of less than a day and blanks between the parts; writing uses UTC and as many
fraction digits, in groups of three, as the moment needs.
-/

namespace RuleTree

/-- Seconds since the start of 1970 in UTC, and nanoseconds within the second. A leap second is the
second before it with a thousand million nanoseconds more. -/
structure Time where
  seconds : Int
  nanoseconds : Nat
deriving DecidableEq, Repr

namespace Time

inductive Fault
  | invalid
  | outOfRange
  | tooShort
  | tooLong
  | impossible
deriving DecidableEq, Repr

def Fault.message : Fault → String
  | .invalid => "input contains invalid characters"
  | .outOfRange => "input is out of range"
  | .tooShort => "premature end of input"
  | .tooLong => "trailing input"
  | .impossible => "no possible date and time matching input"

structure Date where
  year : Int
  month : Nat
  day : Nat
deriving DecidableEq, Repr

def isLeapYear (year : Int) : Bool :=
  year % 4 = 0 && (year % 100 ≠ 0 || year % 400 = 0)

def daysInMonth (year : Int) (month : Nat) : Nat :=
  if month = 2 then (if isLeapYear year then 29 else 28)
  else if month = 4 ∨ month = 6 ∨ month = 9 ∨ month = 11 then 30
  else 31

/-- Days from the start of 1970. Years are counted from March, so that a leap day ends its year. -/
def Date.dayNumber (d : Date) : Int :=
  let year := if d.month ≤ 2 then d.year - 1 else d.year
  let era := year / 400
  let yearOfEra := year - era * 400
  let month : Int := (d.month + 9) % 12
  let dayOfYear := (153 * month + 2) / 5 + d.day - 1
  era * 146097 + yearOfEra * 365 + yearOfEra / 4 - yearOfEra / 100 + dayOfYear - 719468

/-- The date a number of days after the start of 1970. -/
def Date.ofDayNumber (n : Int) : Date :=
  let z := n + 719468
  let era := z / 146097
  let dayOfEra := z - era * 146097
  let yearOfEra := (dayOfEra - dayOfEra / 1460 + dayOfEra / 36524 - dayOfEra / 146096) / 365
  let dayOfYear := dayOfEra - (365 * yearOfEra + yearOfEra / 4 - yearOfEra / 100)
  let shifted := (5 * dayOfYear + 2) / 153
  let day := dayOfYear - (153 * shifted + 2) / 5 + 1
  let month := if shifted < 10 then shifted + 3 else shifted - 9
  ⟨yearOfEra + era * 400 + (if month ≤ 2 then 1 else 0), month.toNat, day.toNat⟩

def firstYear : Int := -262143
def lastYear : Int := 262142

/-- Whether the date exists and lies in the range of years that times may have. -/
def Date.isValid (d : Date) : Bool :=
  firstYear ≤ d.year && d.year ≤ lastYear && 1 ≤ d.month && d.month ≤ 12 && 1 ≤ d.day &&
    d.day ≤ daysInMonth d.year d.month

/-! ## Reading -/

abbrev Reader (α : Type) := List Char → Except Fault (α × List Char)

/-- Up to `most` digits, at least one, with a value below `2 ^ 63`. -/
def number (most : Nat) : Reader Nat := fun cs =>
  match cs with
  | [] => .error .tooShort
  | c :: _ =>
    if c.isDigit then
      let digits := (cs.take most).takeWhile Char.isDigit
      let n := numeral digits
      if isInt64 n then .ok (n, cs.drop digits.length) else .error .outOfRange
    else .error .invalid

/-- A number of one or two digits after blanks, within bounds. -/
def part (low high : Nat) : Reader Nat := fun cs => do
  let (n, rest) ← number 2 (dropBlanks cs)
  if low ≤ n ∧ n ≤ high then return (n, rest) else throw .outOfRange

def mark (m : Char) : Reader Unit := fun cs =>
  match dropBlanks cs with
  | [] => .error .tooShort
  | c :: rest => if c = m then .ok ((), rest) else .error .invalid

/-- A year has up to four digits, or any number of digits after a sign. -/
def year : Reader Int := fun cs => do
  let signed (negative : Bool) (cs : List Char) : Except Fault (Int × List Char) := do
    let (n, rest) ← number cs.length cs
    return (if negative then -(n : Int) else n, rest)
  let (y, rest) ← match dropBlanks cs with
    | '-' :: rest => signed true rest
    | '+' :: rest => signed false rest
    | cs => do
      let (n, rest) ← number 4 cs
      return ((n : Int), rest)
  if -0x80000000 ≤ y ∧ y < 0x80000000 then return (y, rest) else throw .outOfRange

/-- The digits after a decimal point, in nanoseconds; digits past the ninth are passed over. -/
def fraction : Reader Nat := fun cs =>
  match cs with
  | '.' :: rest => do
    let (n, after) ← number 9 rest
    return (n * Nat.pow 10 (9 - (rest.length - after.length)), after.dropWhile Char.isDigit)
  | _ => .ok (0, cs)

def twoDigits (cs : List Char) : Except Fault (Char × Char × List Char) :=
  match cs with
  | a :: b :: rest => .ok (a, b, rest)
  | [a] => if a.utf8Size < 2 then .error .tooShort else .error .invalid
  | [] => .error .tooShort

/-- The offset from UTC in seconds: a letter or a signed number of hours and minutes. -/
def offset : Reader Int := fun cs => do
  match cs with
  | 'Z' :: rest | 'z' :: rest => return (0, rest)
  | _ =>
    match cs with
    | a :: b :: c :: rest =>
      if a.toUpper = 'U' ∧ b.toUpper = 'T' ∧ c.toUpper = 'C' then return (0, rest)
    | _ => pure ()
    let (negative, cs) ← match cs with
      | [] => throw .tooShort
      | '+' :: rest => pure (false, rest)
      | '-' :: rest => pure (true, rest)
      | '\u2212' :: rest => pure (true, rest)
      | _ => throw .invalid
    let (a, b, cs) ← twoDigits cs
    if !(a.isDigit && b.isDigit) then throw .invalid
    let hours := (a.toNat - 48) * 10 + (b.toNat - 48)
    let cs := cs.dropWhile fun c => c = ':' || isBlank c
    let (a, b, cs) ← twoDigits cs
    if !(a.isDigit && b.isDigit) then throw .invalid
    if '6' ≤ a then throw .outOfRange
    let minutes := (a.toNat - 48) * 10 + (b.toNat - 48)
    let seconds : Int := hours * 3600 + minutes * 60
    return (if negative then -seconds else seconds, cs)

def ofText (text : String) : Except Fault Time := do
  let (y, cs) ← year text.toList
  let ((), cs) ← mark '-' cs
  let (month, cs) ← part 1 12 cs
  let ((), cs) ← mark '-' cs
  let (day, cs) ← part 1 31 cs
  let cs ← match cs with
    | [] => throw .tooShort
    | c :: rest => if c = 'T' ∨ c = 't' ∨ c = ' ' then pure rest else throw .invalid
  let (hour, cs) ← part 0 23 cs
  let ((), cs) ← mark ':' cs
  let (minute, cs) ← part 0 59 cs
  let ((), cs) ← mark ':' cs
  let (second, cs) ← part 0 60 cs
  let (nanoseconds, cs) ← fraction cs
  let (offset, cs) ← offset (dropBlanks cs)
  if !(dropBlanks cs).isEmpty then throw .tooLong
  let date : Date := ⟨y, month, day⟩
  if !date.isValid then throw .outOfRange
  if offset ≤ -86400 ∨ 86400 ≤ offset then throw .outOfRange
  let leap := second = 60
  let second := if leap then 59 else second
  let onClock := date.dayNumber * 86400 + (hour * 3600 + minute * 60 + second : Nat)
  let time : Time := ⟨onClock - offset, if leap then nanoseconds + 1000000000 else nanoseconds⟩
  if (Date.ofDayNumber (time.seconds / 86400)).isValid then return time else throw .impossible

/-! ## Writing -/

def padded (width n : Nat) : String :=
  let digits := Nat.repr n
  String.ofList (List.replicate (width - digits.length) '0') ++ digits

def yearText (y : Int) : String :=
  if 0 ≤ y ∧ y ≤ 9999 then padded 4 y.toNat
  else (if y < 0 then "-" else "+") ++ padded 4 y.natAbs

def fractionText (n : Nat) : String :=
  if n = 0 then ""
  else if n % 1000000 = 0 then "." ++ padded 3 (n / 1000000)
  else if n % 1000 = 0 then "." ++ padded 6 (n / 1000)
  else "." ++ padded 9 n

/-- The text of a time, in UTC. -/
def text (t : Time) : String :=
  let date := Date.ofDayNumber (t.seconds / 86400)
  let inDay := (t.seconds % 86400).toNat
  let leap := 1000000000 ≤ t.nanoseconds
  let second := inDay % 60 + (if leap then 1 else 0)
  let nanoseconds := if leap then t.nanoseconds - 1000000000 else t.nanoseconds
  yearText date.year ++ "-" ++ padded 2 date.month ++ "-" ++ padded 2 date.day ++ "T" ++
    padded 2 (inDay / 3600) ++ ":" ++ padded 2 (inDay / 60 % 60) ++ ":" ++ padded 2 second ++
    fractionText nanoseconds ++ "Z"

end Time

end RuleTree
