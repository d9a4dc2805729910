import DeviceAgent.Toml.Scalar
import DeviceAgent.Toml.Table

/-!
# Reading a settings document

The TOML format, version 1.0: lines that are headers or keys with values, strings of four kinds, arrays and
inline tables. A document reads as one record or not at all.
-/

namespace DeviceAgent.Toml

def isSpace (c : Char) : Bool := c == ' ' || c == '\t'

def skipSpace (cs : List Char) : List Char := cs.dropWhile isSpace

/-- A character that may stand in a comment; tabs are the only control characters. -/
def isPrintable (c : Char) : Bool :=
  c == '\t' || (' ' ≤ c && c ≤ '~') || 0x80 ≤ c.toNat

def lineEnd? : List Char → Option (List Char)
  | '\n' :: rest => some rest
  | '\r' :: '\n' :: rest => some rest
  | _ => none

def skipComment (cs : List Char) : List Char :=
  match skipSpace cs with
  | '#' :: rest => rest.dropWhile isPrintable
  | rest => rest

/-- Drops blanks, comments and line ends. -/
def skipLines : (fuel : Nat) → List Char → List Char
  | 0, cs => cs
  | fuel + 1, cs =>
    let rest := skipComment cs
    match lineEnd? rest with
    | some rest => skipLines fuel rest
    | none => rest

/-- A character of a key without quotes. -/
def isBare (c : Char) : Bool :=
  ('a' ≤ c && c ≤ 'z') || ('A' ≤ c && c ≤ 'Z') || ('0' ≤ c && c ≤ '9') || c == '_' || c == '-'

/-- The character with this number, unless it is half of a pair or too large. -/
def scalarValue? (n : Nat) : Option Char :=
  if n < 0xD800 || (0xDFFF < n && n < 0x110000) then some (Char.ofNat n) else none

/-- The character of an escape with hexadecimal digits. -/
def hexEscape? (count : Nat) (cs : List Char) : Option (Char × List Char) :=
  let ds := (cs.take count).filterMap (digitIn? 16)
  if ds.length = count then
    (scalarValue? (ds.foldl (fun n d => n * 16 + d) 0)).map fun c => (c, cs.drop count)
  else none

def escape? : List Char → Option (Char × List Char)
  | 'b' :: rest => some ('\x08', rest)
  | 't' :: rest => some ('\t', rest)
  | 'n' :: rest => some ('\n', rest)
  | 'f' :: rest => some ('\x0c', rest)
  | 'r' :: rest => some ('\r', rest)
  | '"' :: rest => some ('"', rest)
  | '\\' :: rest => some ('\\', rest)
  | 'u' :: rest => hexEscape? 4 rest
  | 'U' :: rest => hexEscape? 8 rest
  | _ => none

/-- Reads a string with escapes behind its quote; `done` is what was read so far in reverse. -/
def basicString? : (fuel : Nat) → (done : List Char) → List Char → Option (String × List Char)
  | 0, _, _ => none
  | _, _, [] => none
  | fuel + 1, done, c :: rest =>
    if c = '"' then some (String.ofList done.reverse, rest)
    else if c = '\\' then (escape? rest).bind fun (c, rest) => basicString? fuel (c :: done) rest
    else if isPrintable c then basicString? fuel (c :: done) rest
    else none

def literalString? (cs : List Char) : Option (String × List Char) :=
  let body := cs.takeWhile fun c => c != '\'' && isPrintable c
  match cs.drop body.length with
  | '\'' :: rest => some (String.ofList body, rest)
  | _ => none

/-- Reads the quotes at the end of a string over several lines: three close it, and up to two before them
belong to it. The number of those, and what follows. -/
def closing? (quote : Char) (cs : List Char) : Option (Nat × List Char) :=
  let count := (cs.takeWhile (· == quote)).length
  if count < 3 then none
  else let extra := min (count - 3) 2
    some (extra, cs.drop (extra + 3))

/-- Drops blanks and line ends. A carriage return that ends no line stays. -/
def skipBlankLines : List Char → List Char
  | '\r' :: '\n' :: rest => skipBlankLines rest
  | c :: rest => if isSpace c || c == '\n' then skipBlankLines rest else c :: rest
  | [] => []

/-- Drops the blanks and line ends that a backslash at the end of a line swallows; none when the backslash is
not at the end of a line. -/
def continuation? (cs : List Char) : Option (List Char) :=
  (lineEnd? (skipSpace cs)).map skipBlankLines

def longString? (quote : Char) : (fuel : Nat) → (done : List Char) → List Char → Option (String × List Char)
  | 0, _, _ => none
  | _, _, [] => none
  | fuel + 1, done, c :: rest =>
    match closing? quote (c :: rest) with
    | some (extra, rest) => some (String.ofList (done.reverse ++ List.replicate extra quote), rest)
    | none =>
      match lineEnd? (c :: rest) with
      | some rest => longString? quote fuel ('\n' :: done) rest
      | none =>
        if quote = '"' && c = '\\' then
          match continuation? rest with
          | some rest => longString? quote fuel done rest
          | none => (escape? rest).bind fun (c, rest) => longString? quote fuel (c :: done) rest
        else if isPrintable c then longString? quote fuel (c :: done) rest
        else none

/-- Drops the line end that may follow the opening of a string over several lines. -/
def dropFirstLineEnd (cs : List Char) : List Char := (lineEnd? cs).getD cs

/-- Reads a string behind nothing; none when the text starts with no quote. -/
def string? (cs : List Char) : Option (String × List Char) :=
  match cs with
  | '"' :: '"' :: '"' :: rest => longString? '"' (rest.length + 1) [] (dropFirstLineEnd rest)
  | '\'' :: '\'' :: '\'' :: rest => longString? '\'' (rest.length + 1) [] (dropFirstLineEnd rest)
  | '"' :: rest => basicString? (rest.length + 1) [] rest
  | '\'' :: rest => literalString? rest
  | _ => none

def keyPart? (cs : List Char) : Option (String × List Char) :=
  match cs with
  | '"' :: rest => basicString? (rest.length + 1) [] rest
  | '\'' :: rest => literalString? rest
  | _ =>
    match cs.takeWhile isBare with
    | [] => none
    | part => some (String.ofList part, cs.drop part.length)

/-- Reads a key of parts with points between them: the parts in front, and the last. -/
def key? : (fuel : Nat) → List Char → Option (List String × String × List Char)
  | 0, _ => none
  | fuel + 1, cs =>
    (keyPart? (skipSpace cs)).bind fun (part, rest) =>
      match skipSpace rest with
      | '.' :: rest => (key? fuel rest).map fun (path, last, rest) => (part :: path, last, rest)
      | rest => some ([], part, rest)

/-- The containers that may nest. -/
def depthLimit : Nat := 79

def isWordChar (c : Char) : Bool := isBare c || c == '+' || c == '.' || c == ':'

/-- Reads a word that stands for itself. A date may have a time behind one blank. -/
def word? (cs : List Char) : Option (Tree × List Char) :=
  let word := cs.takeWhile isWordChar
  let rest := cs.drop word.length
  match rest with
  | ' ' :: more =>
    let time := more.takeWhile isWordChar
    if date? word == some [] && (hourMinute? (time.take 5)).isSome then
      (scalar? (word ++ ' ' :: time)).map fun t => (t, more.drop time.length)
    else (scalar? word).map fun t => (t, rest)
  | _ => (scalar? word).map fun t => (t, rest)

mutual

/-- Reads a value with at most `depth` nested containers. -/
def value? : (fuel depth : Nat) → List Char → Option (Tree × List Char)
  | 0, _, _ => none
  | _, _, [] => none
  | fuel + 1, depth, c :: rest =>
    if c = '"' || c = '\'' then (string? (c :: rest)).map fun (s, rest) => (.string (some s), rest)
    else if c = '[' then
      if depth = 0 then none
      else (items? fuel (depth - 1) [] rest).map fun (ts, rest) => (.array ts, rest)
    else if c = '{' then
      if depth = 0 then none
      else match skipSpace rest with
        | '}' :: rest => some (.object [], rest)
        | rest => (pairs? fuel (depth - 1) [] rest).map fun (entries, rest) => (.object (memberTrees entries), rest)
    else word? (c :: rest)

/-- Reads the items of an array up to its end, behind those already read. -/
def items? : (fuel depth : Nat) → List Tree → List Char → Option (List Tree × List Char)
  | 0, _, _, _ => none
  | fuel + 1, depth, done, cs =>
    match skipLines cs.length cs with
    | ']' :: rest => some (done.reverse, rest)
    | cs =>
      match value? fuel depth cs with
      | none => none
      | some (t, rest) =>
        match skipLines rest.length rest with
        | ',' :: rest => items? fuel depth (t :: done) rest
        | ']' :: rest => some ((t :: done).reverse, rest)
        | _ => none

/-- Reads the pairs of an inline table up to its end, behind those already read. -/
def pairs? : (fuel depth : Nat) → Entries → List Char → Option (Entries × List Char)
  | 0, _, _, _ => none
  | fuel + 1, depth, done, cs =>
    match key? cs.length cs with
    | some (path, key, '=' :: rest) =>
      if depthLimit ≤ path.length then none
      else match value? fuel depth (skipSpace rest) with
        | none => none
        | some (t, rest) =>
          match addValue path key t .opened done with
          | none => none
          | some done =>
            match skipSpace rest with
            | ',' :: rest => pairs? fuel depth done rest
            | '}' :: rest => some (done, rest)
            | _ => none
    | _ => none

end

/-- What is known while reading: all tables, and the path of the one that a header opened last. -/
structure Document where
  root : Entries
  current : List String

/-- Reads a header behind its brackets up to the closing ones. -/
def header? (close : List Char) (cs : List Char) : Option (List String × String × List Char) :=
  match key? (cs.length + 1) cs with
  | some (path, key, rest) =>
    if path.length < depthLimit && close.isPrefixOf rest then some (path, key, rest.drop close.length) else none
  | none => none

/-- Reads one line: a header, a key with its value, or nothing. -/
def line? (d : Document) (cs : List Char) : Option (Document × List Char) :=
  match skipSpace cs with
  | '[' :: '[' :: rest => do
    let (path, key, rest) ← header? [']', ']'] rest
    let root ← openItem path key d.root
    return (⟨root, path ++ [key]⟩, rest)
  | '[' :: rest => do
    let (path, key, rest) ← header? [']'] rest
    let root ← openTable path key d.root
    return (⟨root, path ++ [key]⟩, rest)
  | rest =>
    if rest.isEmpty || rest.head? == some '#' || (lineEnd? rest).isSome then some (d, rest)
    else match key? rest.length rest with
      | some (path, key, '=' :: rest) => do
        if depthLimit ≤ path.length then none
        let (t, rest) ← value? (2 * rest.length + 2) depthLimit (skipSpace rest)
        let root ← updateAt false (addValue path key t) d.current .opened d.root
        return (⟨root, d.current⟩, rest)
      | _ => none

def lines? : (fuel : Nat) → Document → List Char → Option Entries
  | 0, _, _ => none
  | fuel + 1, d, cs =>
    match line? d cs with
    | none => none
    | some (d, rest) =>
      match skipComment rest with
      | [] => some d.root
      | rest => match lineEnd? rest with
        | some rest => lines? fuel d rest
        | none => none

/-- Reads a document as one record; a byte order mark in front is skipped. -/
def read? (text : String) : Option Tree :=
  let cs := match text.toList with
    | c :: rest => if c.toNat = 0xFEFF then rest else c :: rest
    | [] => []
  (lines? (cs.length + 1) ⟨[], []⟩ cs).map fun entries => .object (memberTrees entries)

end DeviceAgent.Toml
