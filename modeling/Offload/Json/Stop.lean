/-!
Where and why the reading of a structured text stops.

Readers work on the characters not yet read. One that stops names its reason, what it had left,
and how many bytes of that count as read; line and column follow from the whole text.
-/

namespace Offload.Json

/-- What is found where something else was expected. -/
inductive Found
  | null
  | bool (b : Bool)
  | integer (n : Int)
  | float (text : String)
  | string (quoted : String)
  | sequence
  | map
  deriving DecidableEq, Repr

def Found.text : Found → String
  | .null => "null"
  | .bool b => "boolean `" ++ (if b then "true" else "false") ++ "`"
  | .integer n => "integer `" ++ toString n ++ "`"
  | .float s => "floating point `" ++ s ++ "`"
  | .string s => "string " ++ s
  | .sequence => "sequence"
  | .map => "map"

inductive Reason
  | endOfValue
  | endOfList
  | endOfObject
  | endOfString
  | expectedColon
  | expectedListComma
  | expectedObjectComma
  | expectedIdent
  | expectedValue
  | invalidEscape
  | invalidNumber
  | numberOutOfRange
  | loneSurrogate
  | unpairedSurrogate
  | controlCharacter
  | keyNotString
  | trailingComma
  | trailingCharacters
  | duplicateField (name : String)
  | wrongType (found : Found) (expected : String)
  | wrongValue (found : Found) (expected : String)
  deriving DecidableEq, Repr

def Reason.message : Reason → String
  | .endOfValue => "EOF while parsing a value"
  | .endOfList => "EOF while parsing a list"
  | .endOfObject => "EOF while parsing an object"
  | .endOfString => "EOF while parsing a string"
  | .expectedColon => "expected `:`"
  | .expectedListComma => "expected `,` or `]`"
  | .expectedObjectComma => "expected `,` or `\x7d`"
  | .expectedIdent => "expected ident"
  | .expectedValue => "expected value"
  | .invalidEscape => "invalid escape"
  | .invalidNumber => "invalid number"
  | .numberOutOfRange => "number out of range"
  | .loneSurrogate => "lone leading surrogate in hex escape"
  | .unpairedSurrogate => "unexpected end of hex escape"
  | .controlCharacter => "control character (\\u0000-\\u001F) found while parsing a string"
  | .keyNotString => "key must be a string"
  | .trailingComma => "trailing comma"
  | .trailingCharacters => "trailing characters"
  | .duplicateField name => "duplicate field `" ++ name ++ "`"
  | .wrongType found expected => "invalid type: " ++ found.text ++ ", expected " ++ expected
  | .wrongValue found expected => "invalid value: " ++ found.text ++ ", expected " ++ expected

structure Stop where
  reason : Reason
  /-- The characters not read. -/
  rest : List Char
  /-- How many bytes of them the position counts as read. -/
  ahead : Nat := 0
  deriving DecidableEq, Repr

/-- Lines count from one; columns are the bytes since the line began. -/
structure Position where
  line : Nat
  column : Nat
  deriving DecidableEq, Repr

def Position.after (p : Position) (c : Char) : Position :=
  if c = '\n' then ⟨p.line + 1, 0⟩ else ⟨p.line, p.column + c.utf8Size⟩

/-- The position after `n` more bytes, which may end inside a character. -/
def Position.afterBytes (p : Position) : Nat → List Char → Position
  | 0, _ | _, [] => p
  | n + 1, c :: cs =>
    if n + 1 < c.utf8Size then ⟨p.line, p.column + (n + 1)⟩
    else (p.after c).afterBytes (n + 1 - c.utf8Size) cs

def Stop.position (text : List Char) (s : Stop) : Position :=
  let consumed := text.take (text.length - s.rest.length)
  (consumed.foldl Position.after ⟨1, 0⟩).afterBytes s.ahead s.rest

def Stop.message (text : List Char) (s : Stop) : String :=
  let p := s.position text
  s.reason.message ++ " at line " ++ toString p.line ++ " column " ++ toString p.column

/-- Gives up at the next character, which counts as read. -/
def stopAt {α : Type} (reason : Reason) (rest : List Char) : Except Stop α :=
  .error ⟨reason, rest, 1⟩

/-- Gives up behind what has been read. -/
def stopBefore {α : Type} (reason : Reason) (rest : List Char) : Except Stop α :=
  .error ⟨reason, rest, 0⟩

def isSpace (c : Char) : Bool := c = ' ' || c = '\n' || c = '\t' || c = '\r'

def skipSpace (cs : List Char) : List Char := cs.dropWhile isSpace

theorem length_skipSpace_le (cs : List Char) : (skipSpace cs).length ≤ cs.length :=
  (List.dropWhile_suffix isSpace).length_le

/-- Reads the remaining letters of a word. -/
def word : List Char → List Char → Except Stop (List Char)
  | [], cs => .ok cs
  | _ :: _, [] => stopBefore .endOfValue []
  | w :: ws, c :: cs => if c = w then word ws cs else stopAt .expectedIdent (c :: cs)

theorem length_word_le {ws cs r : List Char} (h : word ws cs = .ok r) : r.length ≤ cs.length := by
  induction ws generalizing cs with
  | nil =>
    simp only [word, Except.ok.injEq] at h
    simp [h]
  | cons w ws ih =>
    cases cs with
    | nil => simp [word, stopBefore] at h
    | cons c cs =>
      rw [word] at h
      split at h
      · have := ih h
        simp only [List.length_cons]
        omega
      · simp [stopAt] at h

end Offload.Json
