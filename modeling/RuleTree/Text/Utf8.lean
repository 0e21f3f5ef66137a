/-!
Text in the encoding UTF-8. Bytes that are no part of an encoded character are told apart from
characters; as many of them as begin a character together count as one.
-/

namespace RuleTree.Utf8

/-- A character that is not complete: the bits read so far, the number of bytes to come, and the
range of the next one. -/
structure Partial where
  code : Nat
  left : Nat
  low : Nat
  high : Nat

/-- What a byte above 127 begins. The range of the second byte keeps out characters that have a
shorter encoding, surrogates, and numbers that are no characters. -/
def lead? (b : Nat) : Option Partial :=
  if 0xC2 ≤ b ∧ b ≤ 0xDF then some ⟨b - 0xC0, 1, 0x80, 0xBF⟩
  else if b = 0xE0 then some ⟨0, 2, 0xA0, 0xBF⟩
  else if b = 0xED then some ⟨0xD, 2, 0x80, 0x9F⟩
  else if 0xE1 ≤ b ∧ b ≤ 0xEF then some ⟨b - 0xE0, 2, 0x80, 0xBF⟩
  else if b = 0xF0 then some ⟨0, 3, 0x90, 0xBF⟩
  else if 0xF1 ≤ b ∧ b ≤ 0xF3 then some ⟨b - 0xF0, 3, 0x80, 0xBF⟩
  else if b = 0xF4 then some ⟨4, 3, 0x80, 0x8F⟩
  else none

/-- What comes of a byte after which no character is open: perhaps a character or a stray byte, and
perhaps an open character. -/
def start (b : Nat) : List (Option Char) × Option Partial :=
  if b < 0x80 then ([some (Char.ofNat b)], none)
  else
    match lead? b with
    | some p => ([], some p)
    | none => ([none], none)

def step (pending : Option Partial) (b : Nat) : List (Option Char) × Option Partial :=
  match pending with
  | none => start b
  | some p =>
    if p.low ≤ b ∧ b ≤ p.high then
      let code := p.code * 64 + (b - 0x80)
      if p.left = 1 then ([some (Char.ofNat code)], none)
      else ([], some ⟨code, p.left - 1, 0x80, 0xBF⟩)
    else
      let (found, pending) := start b
      (none :: found, pending)

/-- The characters that bytes stand for, with nothing in the place of stray bytes. -/
def scan (pending : Option Partial) : List UInt8 → List (Option Char)
  | [] => if pending.isSome then [none] else []
  | b :: rest =>
    let (found, pending) := step pending b.toNat
    found ++ scan pending rest

/-- The text that bytes stand for, if there are no stray bytes. -/
def text? (bytes : List UInt8) : Option String :=
  String.ofList <$> (scan none bytes).mapM id

/-- The text that bytes stand for, with a replacement character for stray bytes. -/
def replaced (bytes : List UInt8) : String :=
  String.ofList ((scan none bytes).map fun c => c.getD (Char.ofNat 0xFFFD))

def bytesOf (s : String) : List UInt8 :=
  s.toUTF8.toList

end RuleTree.Utf8
