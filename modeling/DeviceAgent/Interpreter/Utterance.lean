import DeviceAgent.Text.Blank
import DeviceAgent.Text.Decimal
import DeviceAgent.Text.Word

/-!
# Utterances

What a user said, in lower case and cut into words.
-/

namespace DeviceAgent

structure Utterance where
  text : List Char
  words : List String

namespace Utterance

def isWordChar (c : Char) : Bool :=
  Text.isAlphanumeric c || c == '-' || c == '%' || c == '.'

/-- A character that does not count at the ends of a word. -/
def isWordEdge (c : Char) : Bool :=
  c == '.' || c == '-'

def wordsOf (text : List Char) : List String :=
  ((text.splitOnP (! isWordChar ·)).map (Text.trimWhile isWordEdge)).filterMap fun w =>
    if w.isEmpty then none else some (String.ofList w)

def ofString (s : String) : Utterance :=
  let text := Text.lower s.toList
  ⟨text, wordsOf text⟩

def mentions (u : Utterance) (needle : String) : Bool :=
  Text.occursIn needle.toList u.text

def mentionsAny (u : Utterance) (needles : List String) : Bool :=
  needles.any u.mentions

def hasWord (u : Utterance) (word : String) : Bool :=
  u.words.contains word

def hasAnyWord (u : Utterance) (words : List String) : Bool :=
  words.any u.hasWord

/-- The whole number that a word is, percent signs behind it aside. -/
def wordNumber? (word : String) : Option Int :=
  Text.int64? (Text.dropEndWhile (· == '%') word.toList)

def number? (u : Utterance) : Option Int :=
  u.words.findSome? wordNumber?

end Utterance

end DeviceAgent
