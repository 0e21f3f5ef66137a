import RuleTree.Pattern.Size
import RuleTree.Text.Blank
import RuleTree.Text.Digits
import RuleTree.Unicode.Age
import RuleTree.Unicode.Break
import RuleTree.Unicode.CaseFold
import RuleTree.Unicode.Script

/-!
Reading a pattern from its text. Look-around, back-references, unknown escapes and names, and
patterns that are nested too deeply or stand for too large a machine are refused.
-/

namespace RuleTree

namespace Pattern

open Unicode (CharSet)

structure Flags where
  ignoreCase : Bool := false
  multiLine : Bool := false
  dotMatchesLineFeed : Bool := false
  carriageReturns : Bool := false
  unicode : Bool := true
  verbose : Bool := false

structure Parsed where
  pattern : Pattern
  /-- How many constructs are nested in it. -/
  depth : Nat := 0
  /-- Whether a repetition may follow it. -/
  repeatable : Bool := true

def maxDepth : Nat := 250

def dropComments : Bool → List Char → List Char
  | _, [] => []
  | true, c :: rest => dropComments (c != '\n') rest
  | false, c :: rest =>
    if isBlank c then dropComments false rest
    else if c = '#' then dropComments true rest
    else c :: rest

namespace Flags

/-- In verbose patterns blanks and comments count for nothing. -/
def skip (f : Flags) (cs : List Char) : List Char :=
  if f.verbose then dropComments false cs else cs

/-- Drops a character, and what counts for nothing after it. -/
def next (f : Flags) (cs : List Char) : List Char :=
  f.skip (cs.drop 1)

/-- Sets the switch with the given letter. -/
def set? (f : Flags) (letter : Char) (on : Bool) : Option Flags :=
  match letter with
  | 'i' => some { f with ignoreCase := on }
  | 'm' => some { f with multiLine := on }
  | 's' => some { f with dotMatchesLineFeed := on }
  | 'R' => some { f with carriageReturns := on }
  | 'u' => some { f with unicode := on }
  | 'x' => some { f with verbose := on }
  | 'U' => some f
  | _ => none

/-- Reads switches up to a colon or closing parenthesis. None may be named twice; those after a minus
sign are turned off, and one must follow it. -/
def read (f : Flags) (off : Bool) (seen : List Char) :
    List Char → Option (Flags × Bool × List Char)
  | [] => none
  | ':' :: rest => if seen.head? = some '-' then none else some (f, true, rest)
  | ')' :: rest => if seen.isEmpty || seen.head? = some '-' then none else some (f, false, rest)
  | '-' :: rest => if off then none else read f true ('-' :: seen) rest
  | c :: rest =>
    if seen.contains c then none
    else (f.set? c !off).bind fun f => read f off (c :: seen) rest

end Flags

/-! ## Escapes -/

/-- What an escape stands for. A byte is a code written with two hexadecimal digits. -/
inductive Atom
  | char (c : Char)
  | byte (n : Nat)
  | set (s : CharSet)
  | look (assertion : Look)

def isMeta (c : Char) : Bool :=
  "\\.+*?()|[]\x7b\x7d^$#&-~".toList.contains c

/-- Every ASCII character stands for itself after a backslash, but letters, digits and angle
brackets. -/
def isEscapable (c : Char) : Bool :=
  isMeta c || (c.toNat < 128 && !c.isAlphanum && c != '<' && c != '>')

def hexDigit? (c : Char) : Option Nat :=
  if c.isDigit then some (c.toNat - 48)
  else if 'a' ≤ c ∧ c ≤ 'f' then some (c.toNat - 87)
  else if 'A' ≤ c ∧ c ≤ 'F' then some (c.toNat - 55)
  else none

def charOfCode? (n : Nat) : Option Char :=
  if n.isValidChar then some (Char.ofNat n) else none

def fixedHex (f : Flags) : Nat → Nat → List Char → Option (Nat × List Char)
  | 0, n, cs => some (n, cs)
  | _ + 1, _, [] => none
  | k + 1, n, c :: rest =>
    (hexDigit? c).bind fun d => fixedHex f k (16 * n + d) (f.skip rest)

def bracedHex (f : Flags) : Nat → Nat → Nat → List Char → Option (Nat × List Char)
  | 0, _, _, _ => none
  | _ + 1, _, _, [] => none
  | fuel + 1, count, n, c :: rest =>
    if c = '\x7d' then
      if count = 0 then none else some (n, f.skip rest)
    else (hexDigit? c).bind fun d => bracedHex f fuel (count + 1) (16 * n + d) (f.skip rest)

/-- A character by its code, after the letter that says how many digits follow. -/
def hexEscape (f : Flags) (letter : Char) (cs : List Char) : Option (Atom × List Char) :=
  match f.skip cs with
  | '\x7b' :: rest => do
    let (n, rest) ← bracedHex f (rest.length + 1) 0 0 (f.skip rest)
    return (.char (← charOfCode? n), rest)
  | cs => do
    let digits := if letter = 'x' then 2 else if letter = 'u' then 4 else 8
    let (n, rest) ← fixedHex f digits 0 cs
    if letter = 'x' then return (.byte n, rest)
    return (.char (← charOfCode? n), rest)

/-- A name in lower case, without a leading `is` and without blanks, hyphens, underscores and what is
not ASCII. -/
def plainName (name : String) : String :=
  let cs := name.toList.filter (·.toNat < 128)
  let (prefixed, cs) := match cs with
    | a :: b :: rest => if a.toLower = 'i' ∧ b.toLower = 's' then (true, rest) else (false, cs)
    | cs => (false, cs)
  let cs := (cs.filter fun c => c != ' ' && c != '_' && c != '-').map Char.toLower
  if prefixed && cs == ['c'] then "isc" else String.ofList cs

/-- The set with a name that may belong to a property, a category or a script. -/
def namedSet? (name : String) : Option CharSet :=
  let name := plainName name
  let byProperty := if ["cf", "sc", "lc"].contains name then none
    else Unicode.Property.ofName? name
  byProperty <|> Unicode.Category.ofName? name <|> Unicode.Script.ofName? name

/-- The set with a value of a property that has several. -/
def valueSet? (property value : String) : Option CharSet :=
  let property := plainName property
  let value := plainName value
  if property = "gc" ∨ property = "generalcategory" then Unicode.Category.ofName? value
  else if property = "sc" ∨ property = "script" then Unicode.Script.ofName? value
  else if property = "scx" ∨ property = "scriptextensions" then Unicode.Script.usedBy? value
  else if property = "age" then Unicode.Age.ofName? value
  else if property = "gcb" ∨ property = "graphemeclusterbreak" then
    Unicode.Break.find? Unicode.Break.graphemeParts value
  else if property = "wb" ∨ property = "wordbreak" then
    Unicode.Break.find? Unicode.Break.wordParts value
  else if property = "sb" ∨ property = "sentencebreak" then
    Unicode.Break.find? Unicode.Break.sentenceParts value
  else none

/-- What stands before and after the first place where a separator stands. -/
def splitAt? (separator : List Char) : List Char → Option (List Char × List Char)
  | [] => none
  | c :: rest =>
    if separator.isPrefixOf (c :: rest) then some ([], (c :: rest).drop separator.length)
    else (splitAt? separator rest).map fun (before, after) => (c :: before, after)

/-- The set that the text between braces names. It must have characters, also where its complement is
asked for. -/
def queriedSet? (query : List Char) : Option CharSet :=
  match splitAt? ['!', '='] query with
  | some (p, v) =>
    ((valueSet? (.ofList p) (.ofList v)).filter CharSet.hasCharacter).map CharSet.complement
  | none =>
    let found := match splitAt? [':'] query <|> splitAt? ['='] query with
      | some (p, v) => valueSet? (.ofList p) (.ofList v)
      | none => namedSet? (.ofList query)
    found.filter CharSet.hasCharacter

def untilBrace (f : Flags) : Nat → List Char → Option (List Char × List Char)
  | 0, _ => none
  | _ + 1, [] => none
  | fuel + 1, c :: rest =>
    if c = '\x7d' then some ([], rest)
    else (untilBrace f fuel (f.skip rest)).map fun (name, after) => (c :: name, after)

/-- Takes in what differs only in case, if case is ignored. -/
def cased (f : Flags) (s : CharSet) : CharSet :=
  if !f.ignoreCase then s
  else if f.unicode then s.foldCase
  else
    let shift (low high : Nat) (up : Bool) : CharSet :=
      ⟨(s.inter (.range low high)).ranges.map fun (a, b) =>
        if up then (a + 32, b + 32) else (a - 32, b - 32)⟩
    s.union ((shift 0x41 0x5A true).union (shift 0x61 0x7A false))

/-- The complement, among bytes where Unicode is turned off. -/
def negated (f : Flags) (s : CharSet) : CharSet :=
  if f.unicode then s.complement else s.complement.inter (.range 0 0xFF)

/-- A set of characters with a Unicode property, after the letter `p` or its capital. -/
def propertyEscape (f : Flags) (negative : Bool) (cs : List Char) : Option (Atom × List Char) := do
  let (set, rest) ← match f.skip cs with
    | [] => none
    | '\\' :: _ => none
    | '\x7b' :: rest => do
      let (name, rest) ← untilBrace f (rest.length + 1) (f.skip rest)
      pure (← queriedSet? name, rest)
    | c :: rest => (namedSet? (.singleton c)).map (·, f.skip rest)
  if !f.unicode then none
  let set := cased f set
  return (.set (if negative then set.complement else set), rest)

/-- A set named by one letter. Where Unicode is turned off a capital letter would take in bytes that
are no characters. -/
def letterSet? (f : Flags) (letter : Char) : Option CharSet :=
  let set :=
    if letter.toLower = 'd' then
      if f.unicode then Unicode.Category.decimalNumber else .range 0x30 0x39
    else if letter.toLower = 's' then
      if f.unicode then Unicode.Property.whiteSpace
      else .ofRanges [(0x09, 0x0D), (0x20, 0x20)]
    else if f.unicode then Unicode.Property.word else asciiWord
  if letter.isUpper then (if f.unicode then some set.complement else none) else some set

/-- The letters and hyphens of a word assertion's name. -/
def sideName (f : Flags) : Nat → List Char → List Char × List Char
  | 0, cs => ([], cs)
  | _ + 1, [] => ([], [])
  | fuel + 1, c :: rest =>
    if c.isAlpha || c = '-' then
      let (name, after) := sideName f fuel (f.skip rest)
      (c :: name, after)
    else ([], c :: rest)

/-- An assertion about words, which may be named in braces; braces that hold something else are a
repetition. -/
def wordEscape (f : Flags) (cs : List Char) : Option (Atom × List Char) :=
  let plain := some (Atom.look (.word .boundary !f.unicode), cs)
  match cs with
  | '\x7b' :: rest =>
    match f.skip rest with
    | [] => none
    | c :: more =>
      if !(c.isAlpha || c = '-') then plain
      else
        let (name, after) := sideName f (more.length + 2) (c :: more)
        match after with
        | '\x7d' :: rest =>
          let side := match String.ofList name with
            | "start" => some WordLook.start
            | "end" => some .finish
            | "start-half" => some .startHalf
            | "end-half" => some .finishHalf
            | _ => none
          side.map fun side => (.look (.word side !f.unicode), rest)
        | _ => none
  | _ => plain

def escape (f : Flags) (cs : List Char) : Option (Atom × List Char) :=
  match cs with
  | [] => none
  | c :: rest =>
    if c = 'x' ∨ c = 'u' ∨ c = 'U' then hexEscape f c rest
    else if c = 'p' ∨ c = 'P' then propertyEscape f (c = 'P') rest
    else if "dswDSW".toList.contains c then
      (letterSet? f c).map fun s => (.set s, rest)
    else if isEscapable c then some (.char c, rest)
    else
      match c with
      | 'a' => some (.char '\x07', rest)
      | 'f' => some (.char '\x0c', rest)
      | 't' => some (.char '\t', rest)
      | 'n' => some (.char '\n', rest)
      | 'r' => some (.char '\r', rest)
      | 'v' => some (.char '\x0b', rest)
      | 'A' => some (.look .start, rest)
      | 'z' => some (.look .finish, rest)
      | 'b' => wordEscape f rest
      | 'B' => some (.look (.word .notBoundary !f.unicode), rest)
      | '<' => some (.look (.word .start !f.unicode), rest)
      | '>' => some (.look (.word .finish !f.unicode), rest)
      | _ => none

/-! ## Sets in brackets -/

def asciiSets : List (String × List (Nat × Nat)) :=
  [("alnum", [(0x30, 0x39), (0x41, 0x5A), (0x61, 0x7A)]),
   ("alpha", [(0x41, 0x5A), (0x61, 0x7A)]),
   ("ascii", [(0, 0x7F)]),
   ("blank", [(0x09, 0x09), (0x20, 0x20)]),
   ("cntrl", [(0, 0x1F), (0x7F, 0x7F)]),
   ("digit", [(0x30, 0x39)]),
   ("graph", [(0x21, 0x7E)]),
   ("lower", [(0x61, 0x7A)]),
   ("print", [(0x20, 0x7E)]),
   ("punct", [(0x21, 0x2F), (0x3A, 0x40), (0x5B, 0x60), (0x7B, 0x7E)]),
   ("space", [(0x09, 0x0D), (0x20, 0x20)]),
   ("upper", [(0x41, 0x5A)]),
   ("word", [(0x30, 0x39), (0x41, 0x5A), (0x5F, 0x5F), (0x61, 0x7A)]),
   ("xdigit", [(0x30, 0x39), (0x41, 0x46), (0x61, 0x66)])]

/-- Reads a named set such as `[:alpha:]` after its opening bracket. -/
def asciiSet? (f : Flags) (cs : List Char) : Option (CharSet × List Char) :=
  match cs with
  | ':' :: rest => do
    let (negative, rest) := match rest with
      | '^' :: r => (true, r)
      | r => (false, r)
    let name := rest.takeWhile (· != ':')
    let rest ← match rest.drop name.length with
      | ':' :: ']' :: r => some r
      | _ => none
    let (_, ranges) ← asciiSets.find? (·.1 == String.ofList name)
    let set := CharSet.ofRanges ranges
    return (if negative then negated f set else set, rest)
  | _ => none

inductive SetOp
  | inter
  | minus
  | symmDiff

def SetOp.apply (f : Flags) (op : SetOp) (s t : CharSet) : CharSet :=
  let s := cased f s
  let t := cased f t
  match op with
  | .inter => s.inter t
  | .minus => s.minus t
  | .symmDiff => s.symmDiff t

structure Bracket where
  negative : Bool
  items : CharSet := .empty
  count : Nat := 0
  depth : Nat := 0
  pending : Option (SetOp × CharSet × Nat) := none

namespace Bracket

def add (b : Bracket) (s : CharSet) (depth : Nat := 0) : Bracket :=
  { b with items := b.items.union s, count := b.count + 1, depth := max b.depth depth }

/-- The set so far, with its depth; operations group to the left. -/
def soFar (b : Bracket) (f : Flags) : CharSet × Nat :=
  let depth := if 1 < b.count then b.depth + 1 else b.depth
  match b.pending with
  | none => (b.items, depth)
  | some (op, left, leftDepth) => (op.apply f left b.items, max depth leftDepth + 1)

def operator (b : Bracket) (f : Flags) (op : SetOp) : Bracket :=
  let (left, depth) := b.soFar f
  { negative := b.negative, pending := some (op, left, depth) }

/-- The finished set. Where Unicode is turned off it may hold ASCII only. -/
def finish (b : Bracket) (f : Flags) : Option (CharSet × Nat) :=
  let (set, depth) := b.soFar f
  let set := cased f set
  let set := if b.negative then negated f set else set
  if f.unicode || set.isAscii then some (set, depth + 1) else none

end Bracket

def charCode? (f : Flags) (c : Char) : Option Nat :=
  if f.unicode || c.toNat < 128 then some c.toNat else none

/-- An item in brackets: a code, or a set. -/
def bracketItem (f : Flags) : List Char → Option ((Nat ⊕ CharSet) × List Char)
  | [] => none
  | '\\' :: rest => do
    let (atom, rest) ← escape f rest
    match atom with
    | .char c => return (.inl (← charCode? f c), rest)
    | .byte n => return (.inl n, rest)
    | .set s => return (.inr s, rest)
    | .look _ => none
  | c :: rest => do return (.inl (← charCode? f c), f.skip rest)

/-- An item, or a range from one code to another. A hyphen before the closing bracket or before
another hyphen stands for itself. -/
def bracketRange (f : Flags) (cs : List Char) : Option (CharSet × List Char) := do
  let (first, rest) ← bracketItem f cs
  let rest := f.skip rest
  let single : Option (CharSet × List Char) :=
    match first with
    | .inl n => some (.single n, rest)
    | .inr s => some (s, rest)
  match rest with
  | [] => none
  | '-' :: more =>
    match f.skip more with
    | [] => none
    | ']' :: _ => single
    | '-' :: _ => single
    | after => do
      let (second, rest) ← bracketItem f after
      match first, second with
      | .inl low, .inl high => if low ≤ high then some (.range low high, rest) else none
      | _, _ => none
  | _ => single

/-- Reads a set after its opening bracket: a circumflex, hyphens that stand for themselves, and a
closing bracket if it comes first. -/
def openBracket (f : Flags) (cs : List Char) : Bracket × List Char :=
  let cs := f.skip cs
  let (negative, cs) := match cs with
    | '^' :: rest => (true, f.skip rest)
    | cs => (false, cs)
  let (hyphens, cs) := dropHyphens cs
  let b := (List.replicate hyphens ()).foldl (fun b _ => b.add (.single 0x2D)) ⟨negative, .empty, 0, 0, none⟩
  match hyphens, cs with
  | 0, ']' :: rest => (b.add (.single 0x5D), f.skip rest)
  | _, _ => (b, cs)
where
  dropHyphens : List Char → Nat × List Char
    | '-' :: rest =>
      let (n, rest) := dropHyphens rest
      (n + 1, rest)
    | c :: rest => if f.verbose && isBlank c then dropHyphens rest else (0, c :: rest)
    | [] => (0, [])

/-- Reads the rest of a set in brackets; `fuel` bounds the number of steps. -/
def bracketRest (f : Flags) : Nat → Bracket → List Char → Option (CharSet × Nat × List Char)
  | 0, _, _ => none
  | fuel + 1, b, cs =>
    match f.skip cs with
    | [] => none
    | '[' :: rest =>
      match asciiSet? f rest with
      | some (s, rest) => bracketRest f fuel (b.add s) rest
      | none => do
        let (inner, rest) := openBracket f rest
        let (s, depth, rest) ← bracketRest f fuel inner rest
        bracketRest f fuel (b.add s depth) rest
    | ']' :: rest => (b.finish f).map fun (s, depth) => (s, depth, rest)
    | '&' :: '&' :: rest => bracketRest f fuel (b.operator f .inter) rest
    | '-' :: '-' :: rest => bracketRest f fuel (b.operator f .minus) rest
    | '~' :: '~' :: rest => bracketRest f fuel (b.operator f .symmDiff) rest
    | cs => do
      let (s, rest) ← bracketRange f cs
      bracketRest f fuel (b.add s) rest

/-! ## Repetitions and groups -/

/-- A decimal number below `2 ^ 32`, with blanks around it. -/
def decimal (f : Flags) (cs : List Char) : Option Nat × List Char :=
  let cs := dropBlanks cs
  let (digits, rest) := digitsOf cs.length cs
  let rest := dropBlanks rest
  let n := numeral digits
  (if digits.isEmpty || UInt32.size ≤ n then none else some n, f.skip rest)
where
  digitsOf : Nat → List Char → List Char × List Char
    | fuel + 1, c :: rest =>
      if c.isDigit then
        let (ds, rest) := digitsOf fuel (f.skip rest)
        (c :: ds, rest)
      else ([], c :: rest)
    | _, cs => ([], cs)

def bounds (f : Flags) (cs : List Char) : Option (Nat × Option Nat × List Char) := do
  let (low, rest) := decimal f (f.skip cs)
  let low ← low
  let (high, rest) ← match rest with
    | ',' :: rest =>
      match f.skip rest with
      | '\x7d' :: _ => some (none, f.skip rest)
      | rest =>
        let (high, rest) := decimal f rest
        high.map fun h => (some h, rest)
    | _ => some (some low, rest)
  if high.any (· < low) then none
  match rest with
  | '\x7d' :: rest =>
    let rest := f.skip rest
    return (low, high, match rest with | '?' :: r => r | r => r)
  | _ => none

/-- The name of a group up to the closing angle bracket. -/
def groupName (cs : List Char) : Option (String × List Char) :=
  let name := cs.takeWhile (· != '>')
  match cs.drop name.length with
  | [] => none
  | _ :: rest =>
    let inner (c : Char) : Bool :=
      c == '_' || c == '.' || c == '[' || c == ']' || Unicode.Property.alphabetic.contains c.toNat ||
        (Unicode.Category.unionOf ["nd", "nl", "no"]).contains c.toNat
    match name with
    | [] => none
    | c :: more =>
      if (c == '_' || Unicode.Property.alphabetic.contains c.toNat) && more.all inner then
        some (.ofList name, rest)
      else none

def joined (parts : List Parsed) : Parsed :=
  match parts with
  | [] => ⟨.empty, 0, false⟩
  | [p] => p
  | ps =>
    let ps := ps.reverse
    ⟨.sequence (ps.map (·.pattern)), (ps.map (·.depth)).foldl max 0 + 1, true⟩

/-- The branches read so far, of which the last one comes first. -/
def chosen (branches : List Parsed) : Parsed :=
  match branches with
  | [] => ⟨.empty, 0, false⟩
  | [p] => p
  | ps =>
    let ps := ps.reverse
    ⟨.choice (ps.map (·.pattern)), (ps.map (·.depth)).foldl max 0 + 1, true⟩

def repeatLast (low : Nat) (high : Option Nat) (parts : List Parsed) : Option (List Parsed) :=
  match parts with
  | p :: rest =>
    if p.repeatable then some (⟨.repeated low high p.pattern, p.depth + 1, true⟩ :: rest) else none
  | [] => none

/-- A character, with those that differ only in case if case is ignored. -/
def literal (f : Flags) (n : Nat) : Pattern :=
  .chars (cased f (.single n))

def dropQuestion (cs : List Char) : List Char :=
  match cs with
  | '?' :: rest => rest
  | cs => cs

def lineFeed : Nat := 0x0A

def dot? (f : Flags) : Option Pattern :=
  if !f.unicode then none
  else if f.dotMatchesLineFeed then some (.chars .all)
  else if f.carriageReturns then
    some (.chars (CharSet.ofRanges [(lineFeed, lineFeed), (0x0D, 0x0D)]).complement)
  else some (.chars (CharSet.single lineFeed).complement)

/-- Reads branches up to the end of the pattern or of the group around them. -/
def alternatives : Nat → Flags → Bool → List String → List Parsed → List Parsed → List Char →
    Option (Parsed × List String × List Char)
  | 0, _, _, _, _, _, _ => none
  | fuel + 1, f, grouped, names, branches, parts, cs =>
    let push (pattern : Pattern) (rest : List Char) (depth : Nat := 0) :=
      alternatives fuel f grouped names branches (⟨pattern, depth, true⟩ :: parts) rest
    match f.skip cs with
    | [] => if grouped then none else some (chosen (joined parts :: branches), names, [])
    | ')' :: rest =>
      if grouped then some (chosen (joined parts :: branches), names, rest) else none
    | '|' :: rest => alternatives fuel f grouped names (joined parts :: branches) [] rest
    | '[' :: rest => do
      let (bracket, rest) := openBracket f rest
      let (set, depth, rest) ← bracketRest f (rest.length + 1) bracket rest
      push (.chars set) rest depth
    | '?' :: rest => do
      let parts ← repeatLast 0 (some 1) parts
      alternatives fuel f grouped names branches parts (dropQuestion rest)
    | '*' :: rest => do
      let parts ← repeatLast 0 none parts
      alternatives fuel f grouped names branches parts (dropQuestion rest)
    | '+' :: rest => do
      let parts ← repeatLast 1 none parts
      alternatives fuel f grouped names branches parts (dropQuestion rest)
    | '\x7b' :: rest => do
      let (low, high, rest) ← bounds f rest
      let parts ← repeatLast low high parts
      alternatives fuel f grouped names branches parts rest
    | '\\' :: rest => do
      let (atom, rest) ← escape f rest
      match atom with
      | .char c => push (literal f c.toNat) rest
      | .byte n => if f.unicode || n < 128 then push (literal f n) rest else none
      | .set s => push (.chars s) rest
      | .look l => push (.look l) rest
    | '.' :: rest => do push (← dot? f) rest
    | '^' :: rest => push (.look (if f.multiLine then .lineStart f.carriageReturns else .start)) rest
    | '$' :: rest =>
      push (.look (if f.multiLine then .lineFinish f.carriageReturns else .finish)) rest
    | '(' :: rest =>
      let inGroup (switched : Flags) (names : List String) (captures : Bool) (rest : List Char) := do
        let (inner, names, rest) ← alternatives fuel switched true names [] [] rest
        let pattern := if captures then .group inner.pattern else inner.pattern
        alternatives fuel f grouped names branches (⟨pattern, inner.depth + 1, true⟩ :: parts) rest
      let named (rest : List Char) := do
        let (name, rest) ← groupName rest
        if names.contains name then none else inGroup f (name :: names) true rest
      match f.skip rest with
      | '?' :: '=' :: _ | '?' :: '!' :: _ | '?' :: '<' :: '=' :: _ | '?' :: '<' :: '!' :: _ => none
      | '?' :: 'P' :: '<' :: rest => named rest
      | '?' :: '<' :: rest => named rest
      | '?' :: rest => do
        let (switched, isScoped, rest) ← f.read false [] rest
        if isScoped then inGroup switched names false rest
        else alternatives fuel switched grouped names branches (⟨.empty, 0, false⟩ :: parts) rest
      | rest => inGroup f names true rest
    | c :: rest => push (literal f c.toNat) rest

end Pattern


/-- Reads a pattern; nothing if the text is none. -/
def Pattern.compile (text : String) : Option Pattern := do
  let cs := text.toList
  let (parsed, _, _) ← Pattern.alternatives (2 * cs.length + 2) {} false [] [] [] cs
  if Pattern.maxDepth < parsed.depth then none
  if parsed.pattern.fits then return parsed.pattern else none

end RuleTree
