/-!
The outline of a JSON text: its values in reading order, up to the first place where the text stops
being JSON. Readers walk an outline, so a reader that wants certain values only reports whatever it
meets first, a value of the wrong kind or the place where the text breaks.
-/

namespace RuleTree.Json

/-- Why a text is not JSON: it ends too early, or it goes on in a way JSON does not. -/
inductive Fault
  | unfinished
  | malformed
deriving DecidableEq, Repr

structure Numeral where
  negative : Bool
  whole : List Nat
  fraction : List Nat
  exponent : Int
  /-- Neither a fraction nor an exponent was written. -/
  integral : Bool

/-- A character of a string, or the UTF-16 code unit that an escape names. -/
inductive Piece
  | char (c : Char)
  | codeUnit (n : Nat)

/-- A string as written, up to its closing quotation mark or the place where it breaks. -/
structure Quoted where
  pieces : List Piece
  fault : Option Fault

/-- What a text holds, in reading order. The fault of an array or object is what follows its last
item instead of the closing bracket. -/
inductive Outline
  | null
  | bool (value : Bool)
  | number (numeral : Numeral)
  | string (text : Quoted)
  | array (items : List Outline) (fault : Option Fault)
  | object (members : List (Quoted × Outline)) (fault : Option Fault)
  | broken (fault : Fault)

namespace Outline

def isBlank (c : Char) : Bool :=
  c = ' ' || c = '\n' || c = '\t' || c = '\r'

def trimmed (cs : List Char) : List Char :=
  cs.dropWhile isBlank

def hexDigit? (c : Char) : Option Nat :=
  if '0' ≤ c ∧ c ≤ '9' then some (c.toNat - 48)
  else if 'a' ≤ c ∧ c ≤ 'f' then some (c.toNat - 87)
  else if 'A' ≤ c ∧ c ≤ 'F' then some (c.toNat - 55)
  else none

def codeUnit? : List Char → Option Nat
  | a :: b :: c :: d :: _ => do
    let a ← hexDigit? a
    let b ← hexDigit? b
    let c ← hexDigit? c
    let d ← hexDigit? d
    return ((a * 16 + b) * 16 + c) * 16 + d
  | _ => none

/-- Fewer than four bytes after an escape mean that the text ended, whatever they are. -/
def escapeFault (cs : List Char) : Fault :=
  if (String.ofList (cs.take 4)).utf8ByteSize < 4 then .unfinished else .malformed

def escape? (c : Char) : Option Char :=
  match c with
  | '"' => some '"'
  | '\\' => some '\\'
  | '/' => some '/'
  | 'b' => some (Char.ofNat 8)
  | 'f' => some (Char.ofNat 12)
  | 'n' => some '\n'
  | 'r' => some '\r'
  | 't' => some '\t'
  | _ => none

/-- Reads a string after its opening quotation mark; `skip` characters belong to an escape that has
been read. -/
def quotedFrom : Nat → List Char → Quoted × List Char
  | _, [] => (⟨[], some .unfinished⟩, [])
  | skip + 1, _ :: rest => quotedFrom skip rest
  | 0, '"' :: rest => (⟨[], none⟩, rest)
  | 0, '\\' :: rest =>
    match rest with
    | [] => (⟨[], some .unfinished⟩, [])
    | 'u' :: digits =>
      match codeUnit? digits with
      | some n =>
        let (q, after) := quotedFrom 5 rest
        (⟨.codeUnit n :: q.pieces, q.fault⟩, after)
      | none => (⟨[], some (escapeFault digits)⟩, [])
    | c :: _ =>
      match escape? c with
      | some e =>
        let (q, after) := quotedFrom 1 rest
        (⟨.char e :: q.pieces, q.fault⟩, after)
      | none => (⟨[], some .malformed⟩, [])
  | 0, c :: rest =>
    if c.toNat < 32 then (⟨[], some .malformed⟩, [])
    else
      let (q, after) := quotedFrom 0 rest
      (⟨.char c :: q.pieces, q.fault⟩, after)

def quoted (cs : List Char) : Quoted × List Char :=
  quotedFrom 0 cs

def digitsOf (cs : List Char) : List Nat :=
  (cs.takeWhile Char.isDigit).map (·.toNat - 48)

def value10 (digits : List Nat) : Nat :=
  digits.foldl (fun n d => 10 * n + d) 0

/-- At least one digit must stand here. -/
def someDigits (cs : List Char) : Except Fault (List Nat × List Char) :=
  match cs with
  | [] => .error .unfinished
  | c :: _ => if c.isDigit then .ok (digitsOf cs, cs.dropWhile Char.isDigit) else .error .malformed

def exponentPart (cs : List Char) : Except Fault (Option Int × List Char) :=
  match cs with
  | 'e' :: rest | 'E' :: rest => do
    let (negative, rest) := match rest with
      | '-' :: r => (true, r)
      | '+' :: r => (false, r)
      | r => (false, r)
    let (ds, rest) ← someDigits rest
    return (some (if negative then -(value10 ds : Int) else value10 ds), rest)
  | rest => .ok (none, rest)

def fractionPart (cs : List Char) : Except Fault (Option (List Nat) × List Char) :=
  match cs with
  | '.' :: rest => do
    let (ds, rest) ← someDigits rest
    return (some ds, rest)
  | rest => .ok (none, rest)

/-- Reads a number. A leading zero stands alone before the fraction. -/
def numeral (cs : List Char) : Except Fault (Numeral × List Char) := do
  let (negative, cs) := match cs with
    | '-' :: r => (true, r)
    | r => (false, r)
  let (whole, cs) ← someDigits cs
  if whole.head? = some 0 ∧ whole.length > 1 then
    throw .malformed
  let (fraction, cs) ← fractionPart cs
  let (exponent, cs) ← exponentPart cs
  return (⟨negative, whole, fraction.getD [], exponent.getD 0,
    fraction.isNone && exponent.isNone⟩, cs)

/-- Reads the rest of a literal name. -/
def word (name : List Char) (value : Outline) : List Char → Outline × List Char :=
  match name with
  | [] => fun cs => (value, cs)
  | n :: name => fun
    | [] => (.broken .unfinished, [])
    | c :: cs => if c = n then word name value cs else (.broken .malformed, [])

mutual

/-- Reads a value; `fuel` bounds the number of calls. -/
def valueFrom : Nat → List Char → Outline × List Char
  | 0, _ => (.broken .unfinished, [])
  | fuel + 1, cs =>
    match trimmed cs with
    | [] => (.broken .unfinished, [])
    | '[' :: rest =>
      let (items, fault, after) := itemsFrom fuel true rest
      (.array items fault, after)
    | '\x7b' :: rest =>
      let (members, fault, after) := membersFrom fuel true rest
      (.object members fault, after)
    | '"' :: rest =>
      let (text, after) := quoted rest
      (.string text, after)
    | 'n' :: rest => word ['u', 'l', 'l'] .null rest
    | 't' :: rest => word ['r', 'u', 'e'] (.bool true) rest
    | 'f' :: rest => word ['a', 'l', 's', 'e'] (.bool false) rest
    | c :: rest =>
      if c = '-' || c.isDigit then
        match numeral (c :: rest) with
        | .ok (n, after) => (.number n, after)
        | .error fault => (.broken fault, [])
      else (.broken .malformed, [])

/-- Reads the items of an array, the first of which no comma precedes. -/
def itemsFrom : Nat → Bool → List Char → List Outline × Option Fault × List Char
  | 0, _, _ => ([], some .unfinished, [])
  | fuel + 1, first, cs =>
    match trimmed cs with
    | [] => ([], some .unfinished, [])
    | ']' :: rest => ([], none, rest)
    | c :: rest =>
      if first then itemFrom fuel (c :: rest)
      else if c = ',' then
        match trimmed rest with
        | ']' :: _ => ([], some .malformed, [])
        | next => itemFrom fuel next
      else ([], some .malformed, [])

def itemFrom : Nat → List Char → List Outline × Option Fault × List Char
  | 0, _ => ([], some .unfinished, [])
  | fuel + 1, cs =>
    let (item, rest) := valueFrom fuel cs
    let (items, fault, after) := itemsFrom fuel false rest
    (item :: items, fault, after)

/-- Reads the members of an object, the first of which no comma precedes. -/
def membersFrom :
    Nat → Bool → List Char → List (Quoted × Outline) × Option Fault × List Char
  | 0, _, _ => ([], some .unfinished, [])
  | fuel + 1, first, cs =>
    match trimmed cs with
    | [] => ([], some .unfinished, [])
    | '\x7d' :: rest => ([], none, rest)
    | c :: rest =>
      if first then memberFrom fuel (c :: rest)
      else if c = ',' then memberFrom fuel (trimmed rest)
      else ([], some .malformed, [])

def memberFrom :
    Nat → List Char → List (Quoted × Outline) × Option Fault × List Char
  | 0, _ => ([], some .unfinished, [])
  | fuel + 1, cs =>
    match cs with
    | [] => ([], some .unfinished, [])
    | '"' :: rest =>
      let (key, afterKey) := quoted rest
      let (value, rest) := match trimmed afterKey with
        | [] => (.broken .unfinished, [])
        | ':' :: text => valueFrom fuel text
        | _ => (.broken .malformed, [])
      let (members, fault, after) := membersFrom fuel false rest
      ((key, value) :: members, fault, after)
    | _ => ([], some .malformed, [])

end

/-- The outline of a text, and whether anything but blanks follows its value. Every second call
takes a character, so the fuel suffices. -/
def ofText (text : String) : Outline × Bool :=
  let cs := text.toList
  let (value, rest) := valueFrom (3 * cs.length + 3) cs
  (value, !(trimmed rest).isEmpty)

end Outline

end RuleTree.Json
