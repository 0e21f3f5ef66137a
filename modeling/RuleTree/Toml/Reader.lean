import RuleTree.Toml.Path
import RuleTree.Toml.Scalar

/-!
Reading TOML documents. Every reader of a part of a document takes it off the front of the text and
hands on what is left. A table is opened at most once, and what was written as a whole is not added
to later.
-/

namespace RuleTree.Toml

/-- A reader: a part of a document and the text after it, or nothing if there is no such part. -/
abbrev Reader (α : Type) := List Char → Option (α × List Char)

/-- Control characters stand nowhere in a document but for tabs and line breaks. -/
def isControl (c : Char) : Bool :=
  (c.toNat < 32 && c ≠ '\t') || c.toNat = 127

def blanks (cs : List Char) : List Char :=
  cs.dropWhile isBlank

/-- What is left after blanks, line breaks and comments. -/
def gap (inComment : Bool) : List Char → Option (List Char)
  | [] => some []
  | '\r' :: '\n' :: rest => gap false rest
  | c :: rest =>
    if c = '\n' then gap false rest
    else if inComment then (if isControl c then none else gap true rest)
    else if isBlank c then gap false rest
    else if c = '#' then gap true rest
    else some (c :: rest)

/-- What is left after the end of a line, where a comment may stand. -/
def lineEnd (inComment : Bool) : List Char → Option (List Char)
  | [] => some []
  | '\r' :: '\n' :: rest => some rest
  | c :: rest =>
    if c = '\n' then some rest
    else if inComment then (if isControl c then none else lineEnd true rest)
    else if isBlank c then lineEnd false rest
    else if c = '#' then lineEnd true rest
    else none

/-! ## Strings -/

/-- How far the reading of an escape has come. In a string of several lines, a backslash at the end of
a line takes away all blanks and breaks up to the next character. -/
inductive Escape
  | none
  | opened
  | code (left value : Nat)
  | folding (broken : Bool)

/-- The character that a letter stands for behind a backslash. -/
def escaped? (c : Char) : Option Char :=
  match c with
  | '"' => some '"'
  | '\\' => some '\\'
  | 'b' => some (Char.ofNat 8)
  | 't' => some '\t'
  | 'n' => some '\n'
  | 'f' => some (Char.ofNat 12)
  | 'r' => some '\r'
  | 'e' => some (Char.ofNat 27)
  | _ => none

/-- The number of hexadecimal digits that follow a letter behind a backslash. -/
def codeLength? (c : Char) : Option Nat :=
  match c with
  | 'x' => some 2
  | 'u' => some 4
  | 'U' => some 8
  | _ => none

def isCharacter (n : Nat) : Bool :=
  n < 0xD800 || (0xE000 ≤ n && n < 0x110000)

def putting (c : Char) : Option (List Char × List Char) → Option (List Char × List Char)
  | some (cs, rest) => some (c :: cs, rest)
  | none => none

/-- The characters of a string up to its closing quotation mark. -/
def basic (state : Escape) : Reader (List Char)
  | [] => none
  | c :: rest =>
    match state with
    | .code left value =>
      match digit? 16 c with
      | Option.none => Option.none
      | some d =>
        let value := 16 * value + d
        if 1 < left then basic (.code (left - 1) value) rest
        else if isCharacter value then putting (Char.ofNat value) (basic .none rest)
        else Option.none
    | .opened =>
      match codeLength? c with
      | some length => basic (.code length 0) rest
      | Option.none => (escaped? c).bind fun e => putting e (basic .none rest)
    | _ =>
      if c = '"' then some ([], rest)
      else if c = '\\' then basic .opened rest
      else if isControl c then Option.none
      else putting c (basic .none rest)

/-- At most two marks that stand right before the three that close a string belong to it. -/
def closing (mark : Char) (cs : List Char) : List Char × List Char :=
  match cs with
  | c :: d :: rest =>
    if c = mark ∧ d = mark then ([mark, mark], rest)
    else if c = mark then ([mark], d :: rest)
    else ([], c :: d :: rest)
  | [c] => if c = mark then ([mark], []) else ([], [c])
  | [] => ([], [])

/-- The characters of a string of several lines up to its closing quotation marks. Line breaks are
kept as they are written. -/
def basicLines (state : Escape) : Reader (List Char)
  | [] => none
  | '"' :: '"' :: '"' :: rest =>
    match state with
    | .none | .folding true => some (closing '"' rest)
    | .opened => putting '"' (basicLines .none ('"' :: '"' :: rest))
    | _ => Option.none
  | '\r' :: '\n' :: rest =>
    match state with
    | .none => putting '\r' (putting '\n' (basicLines .none rest))
    | .opened | .folding _ => basicLines (.folding true) rest
    | .code .. => Option.none
  | c :: rest =>
    let plain (_ : Unit) : Option (List Char × List Char) :=
      if c = '\\' then basicLines .opened rest
      else if c = '\n' then putting '\n' (basicLines .none rest)
      else if isControl c then Option.none
      else putting c (basicLines .none rest)
    match state with
    | .none => plain ()
    | .code left value =>
      match digit? 16 c with
      | Option.none => Option.none
      | some d =>
        let value := 16 * value + d
        if 1 < left then basicLines (.code (left - 1) value) rest
        else if isCharacter value then putting (Char.ofNat value) (basicLines .none rest)
        else Option.none
    | .opened =>
      if c = '\n' then basicLines (.folding true) rest
      else if isBlank c then basicLines (.folding false) rest
      else
        match codeLength? c with
        | some length => basicLines (.code length 0) rest
        | Option.none => (escaped? c).bind fun e => putting e (basicLines .none rest)
    | .folding broken =>
      if c = '\n' then basicLines (.folding true) rest
      else if isBlank c then basicLines (.folding broken) rest
      else if broken then plain ()
      else Option.none

/-- The characters of a literal string, in which nothing is escaped. -/
def literal : Reader (List Char)
  | [] => none
  | c :: rest =>
    if c = '\'' then some ([], rest)
    else if isControl c then none
    else putting c (literal rest)

def literalLines : Reader (List Char)
  | [] => none
  | '\'' :: '\'' :: '\'' :: rest => some (closing '\'' rest)
  | '\r' :: '\n' :: rest => putting '\r' (putting '\n' (literalLines rest))
  | c :: rest =>
    if isControl c ∧ c ≠ '\n' then none else putting c (literalLines rest)

/-- A line break right after the opening of a string of several lines is no part of it. -/
def afterBreak (cs : List Char) : List Char :=
  match cs with
  | '\n' :: rest => rest
  | '\r' :: '\n' :: rest => rest
  | cs => cs

/-! ## Keys -/

/-- One key: a word, or a string on one line. -/
def simpleKey : Reader String
  | '"' :: rest => (basic .none rest).map fun (cs, rest) => (String.ofList cs, rest)
  | '\'' :: rest => (literal rest).map fun (cs, rest) => (String.ofList cs, rest)
  | cs =>
    let word := cs.takeWhile isBare
    if word.isEmpty then none else some (String.ofList word, cs.dropWhile isBare)

/-- Keys with dots between them; at most `count` of them are read. -/
def keys : Nat → Reader (List String)
  | 0, _ => none
  | count + 1, cs => do
    let (key, rest) ← simpleKey cs
    match blanks rest with
    | '.' :: rest => do
      let (more, rest) ← keys count (blanks rest)
      return (key :: more, rest)
    | rest => return ([key], rest)

/-! ## Tables -/

/-- How a table came to be: on the way to another header, by keys with dots, or by its own header. -/
inductive Form
  | implied
  | dotted
  | header
deriving DecidableEq

/-- A part of a document that is being read: a value written as a whole, a table, or an array of
tables with the last one first. -/
inductive Draft
  | value (value : Toml)
  | table (form : Form) (entries : List (String × Draft))
  | tables (items : List (List (String × Draft)))
deriving Inhabited

abbrev Drafts := List (String × Draft)

namespace Draft

mutual

def finish : Draft → Toml
  | .value v => v
  | .table _ entries => .table (finishEntries entries)
  | .tables items => .array (finishItems items [])

def finishEntries : List (String × Draft) → List (String × Toml)
  | [] => []
  | (k, d) :: rest => (k, finish d) :: finishEntries rest

def finishItems : List (List (String × Draft)) → List Toml → List Toml
  | [], done => done
  | entries :: rest, done => finishItems rest (.table (finishEntries entries) :: done)

end

/-- Changes the tables that a path of headers leads to. -/
def inside (change : Drafts → Option Drafts) : List String → Drafts → Option Drafts
  | [], entries => change entries
  | key :: path, entries =>
    match Entries.get? key entries with
    | none => do
      let inner ← inside change path []
      return Entries.insert key (.table .implied inner) entries
    | some (.table form inner) => do
      let inner ← inside change path inner
      return Entries.insert key (.table form inner) entries
    | some (.tables (last :: before)) => do
      let last ← inside change path last
      return Entries.insert key (.tables (last :: before)) entries
    | some _ => none

/-- Opens the table of a header, which must not have been opened or written before. -/
def openTable (key : String) (entries : Drafts) : Option Drafts :=
  match Entries.get? key entries with
  | none => some (Entries.insert key (.table .header []) entries)
  | some (.table .implied inner) => some (Entries.insert key (.table .header inner) entries)
  | some _ => none

/-- Opens a new table at the end of an array of tables. -/
def openItem (key : String) (entries : Drafts) : Option Drafts :=
  match Entries.get? key entries with
  | none => some (Entries.insert key (.tables [[]]) entries)
  | some (.tables items) => some (Entries.insert key (.tables ([] :: items)) entries)
  | some _ => none

/-- Puts a value under keys with dots. The last table on the way must be writable: the one the keys
start from, or one that keys with dots have made. -/
def assign (value : Toml) (writable : Bool) : List String → Drafts → Option Drafts
  | [], _ => none
  | [key], entries =>
    if writable && (Entries.get? key entries).isNone then
      some (Entries.insert key (.value value) entries)
    else none
  | key :: path, entries =>
    match Entries.get? key entries with
    | none => do
      let inner ← assign value true path []
      return Entries.insert key (.table .dotted inner) entries
    | some (.table .header _) => none
    | some (.table form inner) => do
      let inner ← assign value (form = .dotted) path inner
      return Entries.insert key (.table form inner) entries
    | some (.tables (last :: before)) => do
      let last ← assign value false path last
      return Entries.insert key (.tables (last :: before)) entries
    | some _ => none

end Draft

/-! ## Values -/

def isWordChar (c : Char) : Bool :=
  c.isAlphanum || c = '_' || c = '-' || c = '+' || c = '.' || c = ':'

/-- A word. A date and a time with a space between them are one word. -/
def word (cs : List Char) : List Char × List Char :=
  let front := cs.takeWhile isWordChar
  let rest := cs.dropWhile isWordChar
  match (date? front), rest with
  | some (_, []), ' ' :: c :: more =>
    if c.isDigit then
      (front ++ ' ' :: (c :: more).takeWhile isWordChar, (c :: more).dropWhile isWordChar)
    else (front, rest)
  | _, _ => (front, rest)

def elements (value : Reader Toml) : Nat → Reader (List Toml)
  | 0, _ => none
  | count + 1, cs => do
    match ← gap false cs with
    | ']' :: rest => return ([], rest)
    | cs => do
      let (first, cs) ← value cs
      match ← gap false cs with
      | ']' :: rest => return ([first], rest)
      | ',' :: cs => do
        let (more, rest) ← elements value count cs
        return (first :: more, rest)
      | _ => none

/-- The members of a table between braces after the opening one or a comma. Line breaks and comments
may stand around keys, equal signs, values and commas. -/
def members (value : Reader Toml) (drafts : Drafts) : Nat → Reader Drafts
  | 0, _ => none
  | count + 1, cs => do
    match ← gap false cs with
    | '}' :: rest => return (drafts, rest)
    | cs =>
      let (path, cs) ← keys cs.length cs
      match ← gap false cs with
      | '=' :: cs => do
        let (v, cs) ← value (← gap false cs)
        let drafts ← Draft.assign v true path drafts
        match ← gap false cs with
        | '}' :: rest => return (drafts, rest)
        | ',' :: cs => members value drafts count cs
        | _ => none
      | _ => none

/-- A value in which arrays and tables nest at most `room` deep. -/
def value : Nat → Reader Toml
  | room, cs =>
    match cs with
    | '"' :: '"' :: '"' :: rest =>
      (basicLines .none (afterBreak rest)).map fun (s, rest) => (.text (String.ofList s), rest)
    | '"' :: rest => (basic .none rest).map fun (s, rest) => (.text (String.ofList s), rest)
    | '\'' :: '\'' :: '\'' :: rest =>
      (literalLines (afterBreak rest)).map fun (s, rest) => (.text (String.ofList s), rest)
    | '\'' :: rest => (literal rest).map fun (s, rest) => (.text (String.ofList s), rest)
    | '[' :: rest =>
      match room with
      | 0 => none
      | room + 1 =>
        (elements (value room) (rest.length + 1) rest).map fun (xs, rest) => (.array xs, rest)
    | '{' :: rest =>
      match room with
      | 0 => none
      | room + 1 =>
        (members (value room) [] (rest.length + 1) rest).map fun (drafts, rest) =>
          (.table (Draft.finishEntries drafts), rest)
    | cs =>
      let (front, rest) := word cs
      (word? front).map fun v => (v, rest)

/-! ## Documents -/

def maxNesting : Nat := 80

/-- A document that is being read: what has been read, and the header that the next line is under. -/
structure Document where
  drafts : Drafts
  header : List String

namespace Document

def readHeader (doc : Document) (cs : List Char) : Option (Document × List Char) :=
  match cs with
  | '[' :: cs => do
    let (path, cs) ← keys cs.length (blanks cs)
    let key ← path.getLast?
    match blanks cs with
    | ']' :: ']' :: rest => do
      let drafts ← Draft.inside (Draft.openItem key) path.dropLast doc.drafts
      return (⟨drafts, path⟩, ← lineEnd false rest)
    | _ => none
  | cs => do
    let (path, cs) ← keys cs.length (blanks cs)
    let key ← path.getLast?
    match blanks cs with
    | ']' :: rest => do
      let drafts ← Draft.inside (Draft.openTable key) path.dropLast doc.drafts
      return (⟨drafts, path⟩, ← lineEnd false rest)
    | _ => none

def readMember (doc : Document) (cs : List Char) : Option (Document × List Char) := do
  let (path, cs) ← keys cs.length cs
  match blanks cs with
  | '=' :: cs => do
    let (v, cs) ← value maxNesting (blanks cs)
    let drafts ← Draft.inside (Draft.assign v true path) doc.header doc.drafts
    return ({ doc with drafts }, ← lineEnd false cs)
  | _ => none

/-- Reads at most so many lines. -/
def readLines (doc : Document) : Nat → List Char → Option Document
  | 0, _ => none
  | count + 1, cs => do
    match ← gap false cs with
    | [] => return doc
    | '[' :: rest =>
      let (doc, rest) ← doc.readHeader rest
      doc.readLines count rest
    | cs =>
      let (doc, rest) ← doc.readMember cs
      doc.readLines count rest

end Document

/-- The characters after a byte order mark, if there is one. -/
def withoutMark : List Char → List Char
  | '\ufeff' :: rest => rest
  | cs => cs

/-- Reads a document, which may start with a byte order mark; its value is a table. -/
def ofText? (text : String) : Option Toml :=
  let cs := withoutMark text.toList
  (Document.readLines ⟨[], []⟩ (cs.length + 1) cs).map fun doc =>
    .table (Draft.finishEntries doc.drafts)

end RuleTree.Toml
