import EntityForge.Text.LetterCase

/-! # File names

The file of a class is named after it: the words "component" and "system" are left out, and the rest
is written in small letters with a hyphen before every further word. A run of capitals is one word,
so `EnemyAISystem` lives in `enemy-ai.js` and `HTTPClient` in `http-client.js`.

* `stripWord`: a text without the occurrences of a word.
* `hyphenated`: a name in small letters with hyphens between its words.
* `fileName`: the name of a file. -/

namespace EntityForge

/-! ### Leaving words out -/

/-- Whether a text starts with a lower-case word, in any mixture of ASCII letter case. -/
def startsWithWord (word cs : List Char) : Bool :=
  (cs.take word.length).map Char.toLower = word

/-- The text without the occurrences of a word, where the first `skip` characters belong to an
occurrence that has begun. -/
def stripFrom (word : List Char) : Nat → List Char → List Char
  | _, [] => []
  | skip + 1, _ :: cs => stripFrom word skip cs
  | 0, c :: cs =>
    if startsWithWord word (c :: cs) then stripFrom word (word.length - 1) cs
    else c :: stripFrom word 0 cs

/-- **The text without the occurrences of a lower-case word,** found from left to right in any
mixture of ASCII letter case. -/
def stripWord (word : String) (cs : List Char) : List Char :=
  stripFrom word.toList 0 cs

/-- The name without the words "component" and "system"; a name made of nothing else is kept. -/
def stem (name : List Char) : List Char :=
  let stripped := stripWord "system" (stripWord "component" name)
  if stripped = [] then name else stripped

/-! ### Hyphens -/

/-- Whether a capital starts a word: after a small letter, or before one if a capital or an ASCII
digit precedes it. -/
def beginsWord (before : Char) (after : Option Char) : Bool :=
  Text.isLower before || (Text.isUpper before || before.isDigit) && after.any Text.isLower

/-- The characters of a name in small letters with hyphens, after the character `before`. -/
def hyphenatedFrom (before : Option Char) : List Char → List Char
  | [] => []
  | c :: cs =>
    (if Text.isUpper c then
      (if before.any (beginsWord · cs.head?) then ['-'] else []) ++ Text.lower c
    else [c]) ++ hyphenatedFrom (some c) cs

/-- **A name in small letters,** a hyphen before every word but the first. -/
def hyphenated (cs : List Char) : List Char :=
  hyphenatedFrom none cs

/-- **The file name** of a class. -/
def fileName (name extension : String) : String :=
  String.ofList (hyphenated (stem name.toList)) ++ "." ++ extension

/-- The file name of a generated script. -/
def scriptFile (name : String) : String :=
  fileName name "js"

end EntityForge
