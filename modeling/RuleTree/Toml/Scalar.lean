import RuleTree.Text.Digits
import RuleTree.Time
import RuleTree.Toml.Basic

/-!
TOML values of a single word: numbers, truth values, dates and times. Underscores may stand between
digits. Integers have 64 bits with a sign, and no decimal number starts with a needless zero.
-/

namespace RuleTree.Toml

/-- The value of a digit in a base up to sixteen. -/
def digit? (base : Nat) (c : Char) : Option Nat :=
  let n := c.toNat
  let d :=
    if 48 ≤ n ∧ n ≤ 57 then n - 48
    else if 97 ≤ n ∧ n ≤ 102 then n - 87
    else if 65 ≤ n ∧ n ≤ 70 then n - 55
    else base
  if d < base then some d else none

/-- Digits, with underscores between them. -/
def digits? (base : Nat) : List Char → Option (List Nat)
  | [] => none
  | [c] => (fun d => [d]) <$> digit? base c
  | c :: '_' :: rest => do
    let d ← digit? base c
    let ds ← digits? base rest
    return d :: ds
  | c :: rest => do
    let d ← digit? base c
    let ds ← digits? base rest
    return d :: ds

def valueOf (base : Nat) (digits : List Nat) : Nat :=
  digits.foldl (fun n d => base * n + d) 0

/-- The digits of a decimal whole number, without needless zeros before it. -/
def whole? (cs : List Char) : Option (List Nat) := do
  let ds ← digits? 10 cs
  if ds.head? = some 0 ∧ 1 < ds.length then none else return ds

def inRange (i : Int) : Option Toml :=
  if isInt64 i then some (.integer i) else none

/-- An integer; other bases than ten have no sign. -/
def integer? (cs : List Char) : Option Toml :=
  match cs with
  | '0' :: 'x' :: rest => do inRange (valueOf 16 (← digits? 16 rest))
  | '0' :: 'o' :: rest => do inRange (valueOf 8 (← digits? 8 rest))
  | '0' :: 'b' :: rest => do inRange (valueOf 2 (← digits? 2 rest))
  | cs => do
    let (negative, rest) := takeSign cs
    let n := valueOf 10 (← whole? rest)
    inRange (withSign negative n)

/-- A decimal number with a fraction or an exponent; without either there must be a point or an
exponent all the same. -/
def decimal? (cs : List Char) : Option Toml := do
  let (negative, rest) := takeSign cs
  let isE (c : Char) : Bool := c = 'e' || c = 'E'
  let mantissa := rest.takeWhile (!isE ·)
  let exponent ← match rest.dropWhile (!isE ·) with
    | [] => some none
    | _ :: power =>
      let (below, ds) := takeSign power
      (digits? 10 ds).map fun ds =>
        some (withSign below (valueOf 10 ds))
  let front := mantissa.takeWhile (· ≠ '.')
  let fraction ← match mantissa.dropWhile (· ≠ '.') with
    | [] => some none
    | _ :: ds => (digits? 10 ds).map some
  if exponent.isNone ∧ fraction.isNone then none
  let ds ← whole? front
  let all := ds ++ fraction.getD []
  let places : Int := (fraction.getD []).length
  let power := exponent.getD 0 - places
  -- an exponent that is out of reach of any double need not be carried out
  let power := max (-100000) (min 100000 power)
  let d := Double.ofDecimal negative (valueOf 10 all) power
  if d.isFinite then some (.float (.finite d)) else none

/-- A number that is written as a word. -/
def special? (cs : List Char) : Option Toml :=
  let (negative, rest) := takeSign cs
  if rest = ['i', 'n', 'f'] then some (.float (.infinite negative))
  else if rest = ['n', 'a', 'n'] then some (.float .undefined)
  else none

/-! ## Dates and times -/

def field? (width : Nat) (cs : List Char) : Option (Nat × List Char) :=
  let front := cs.take width
  if front.length = width ∧ front.all Char.isDigit then
    some (numeral front, cs.drop width)
  else none

def mark? (c : Char) : List Char → Option (List Char)
  | [] => none
  | d :: rest => if d = c then some rest else none

def padded (width n : Nat) : String :=
  let ds := Nat.repr n
  Double.zeros (width - ds.length) ++ ds

def date? (cs : List Char) : Option (String × List Char) := do
  let (year, cs) ← field? 4 cs
  let (month, cs) ← field? 2 (← mark? '-' cs)
  let (day, cs) ← field? 2 (← mark? '-' cs)
  if 1 ≤ month ∧ month ≤ 12 ∧ 1 ≤ day ∧ day ≤ Time.daysInMonth year month then
    return (padded 4 year ++ "-" ++ padded 2 month ++ "-" ++ padded 2 day, cs)
  else none

/-- The text of a fraction of a second: at most nine digits, without zeros at the end but for the
first digit. -/
def fractionText (cs : List Char) : String :=
  let kept := ((cs.take 9).reverse.dropWhile (· = '0')).reverse
  "." ++ (if kept.isEmpty then "0" else String.ofList kept)

def seconds? (cs : List Char) : Option (String × List Char) := do
  let (second, cs) ← field? 2 cs
  if 60 < second then none
  let text := ":" ++ padded 2 second
  match cs with
  | '.' :: rest =>
    let ds := rest.takeWhile Char.isDigit
    if ds.isEmpty then none else return (text ++ fractionText ds, rest.dropWhile Char.isDigit)
  | cs => return (text, cs)

/-- A time of day, perhaps without seconds, and its text. -/
def clock? (cs : List Char) : Option (String × List Char) := do
  let (hour, cs) ← field? 2 cs
  let (minute, cs) ← field? 2 (← mark? ':' cs)
  if 23 < hour ∨ 59 < minute then none
  let text := padded 2 hour ++ ":" ++ padded 2 minute
  match cs with
  | ':' :: cs =>
    let (seconds, cs) ← seconds? cs
    return (text ++ seconds, cs)
  | cs => return (text, cs)

def offset? (cs : List Char) : Option String :=
  match cs with
  | [] => some ""
  | ['Z'] | ['z'] => some "Z"
  | c :: rest =>
    if c = '+' ∨ c = '-' then do
      let (hour, rest) ← field? 2 rest
      let (minute, rest) ← field? 2 (← mark? ':' rest)
      if rest.isEmpty ∧ hour ≤ 23 ∧ minute ≤ 59 then
        let sign := if c = '-' ∧ 0 < hour + minute then "-" else "+"
        return sign ++ padded 2 hour ++ ":" ++ padded 2 minute
      else none
    else none

/-- A date, a time, or both. -/
def moment? (cs : List Char) : Option Toml :=
  match date? cs with
  | some (date, []) => some (.text date)
  | some (date, c :: rest) =>
    if c = 'T' ∨ c = 't' ∨ c = ' ' then do
      let (clock, rest) ← clock? rest
      return .text (date ++ "T" ++ clock ++ (← offset? rest))
    else none
  | none =>
    match clock? cs with
    | some (clock, []) => some (.text clock)
    | _ => none

def word? (cs : List Char) : Option Toml :=
  if cs = "true".toList then some (.bool true)
  else if cs = "false".toList then some (.bool false)
  else special? cs <|> integer? cs <|> decimal? cs <|> moment? cs

end RuleTree.Toml
