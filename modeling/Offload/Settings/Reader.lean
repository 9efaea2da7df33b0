import Offload.Settings.Basic
import Offload.Json.Skip

/-!
Reading settings from a structured text.

The text is an object whose known members may come once each, in any order, among unknown ones
that are skipped; or a list with up to three values in the order of the members. What is left out
keeps its default.
-/

namespace Offload.Settings

open Json

/-- The members read so far. -/
structure Draft where
  library : Option (List Char) := none
  fallbackCores : Option UInt32 := none
  verifyObjects : Option Bool := none
  deriving DecidableEq, Repr

namespace Draft

def has (d : Draft) : Field → Bool
  | .library => d.library.isSome
  | .fallbackCores => d.fallbackCores.isSome
  | .verifyObjects => d.verifyObjects.isSome

def settings (d : Draft) : Settings where
  library := (d.library.map fun cs => Text.utf8 (String.ofList cs)).getD Settings.default.library
  fallbackCores := d.fallbackCores.getD Settings.default.fallbackCores
  verifyObjects := d.verifyObjects.getD Settings.default.verifyObjects

end Draft

/-- Reads a value where another kind of value was expected, and says what it is. A list or an
object is named at its bracket, without being read. -/
def mismatch {α : Type} (expected : String) (cs : List Char) : Except Stop α :=
  match cs with
  | [] => stopBefore .endOfValue []
  | c :: r =>
    let wrong (found : Found) (rest : List Char) : Except Stop α :=
      stopBefore (.wrongType found expected) rest
    if c = 'n' then (word ['u', 'l', 'l'] r).bind (wrong .null)
    else if c = 't' then (word ['r', 'u', 'e'] r).bind (wrong (.bool true))
    else if c = 'f' then (word ['a', 'l', 's', 'e'] r).bind (wrong (.bool false))
    else if c = '-' then (number true r).bind fun (n, t) => wrong n.found t
    else if c.isDigit then (number false (c :: r)).bind fun (n, t) => wrong n.found t
    else if c = '"' then
      (string r).bind fun (s, t) => wrong (.string (Text.quoted (String.ofList s))) t
    else if c = '[' then wrong .sequence (c :: r)
    else if c = '\x7b' then wrong .map (c :: r)
    else stopAt .expectedValue (c :: r)

def pathValue (cs : List Char) : Except Stop (List Char × List Char) :=
  match skipSpace cs with
  | '"' :: r => string r
  | r => mismatch "path string" r

def coreCount (n : Number) (rest : List Char) : Except Stop (UInt32 × List Char) :=
  match n with
  | .natural v =>
    if v < UInt32.size then .ok (UInt32.ofNat v, rest)
    else stopBefore (.wrongValue n.found "u32") rest
  | .negative _ => stopBefore (.wrongValue n.found "u32") rest
  | .float _ => stopBefore (.wrongType n.found "u32") rest

def coresValue (cs : List Char) : Except Stop (UInt32 × List Char) :=
  match skipSpace cs with
  | [] => mismatch "u32" []
  | c :: r =>
    if c = '-' then (number true r).bind fun (n, t) => coreCount n t
    else if c.isDigit then (number false (c :: r)).bind fun (n, t) => coreCount n t
    else mismatch "u32" (c :: r)

def flagValue (cs : List Char) : Except Stop (Bool × List Char) :=
  match skipSpace cs with
  | 't' :: r => (word ['r', 'u', 'e'] r).map fun t => (true, t)
  | 'f' :: r => (word ['a', 'l', 's', 'e'] r).map fun t => (false, t)
  | r => mismatch "a boolean" r

/-- Reads the value of a member into the draft. -/
def memberValue (d : Draft) (f : Field) (cs : List Char) : Except Stop (Draft × List Char) :=
  match f with
  | .library => (pathValue cs).map fun (v, r) => ({ d with library := some v }, r)
  | .fallbackCores => (coresValue cs).map fun (v, r) => ({ d with fallbackCores := some v }, r)
  | .verifyObjects => (flagValue cs).map fun (v, r) => ({ d with verifyObjects := some v }, r)

/-- Stops at a key that has been read before. The object is left behind first, as far as what
follows the key allows. -/
def duplicate {α : Type} (f : Field) (cs : List Char) : Except Stop α :=
  match skipSpace cs with
  | '\x7d' :: r => stopBefore (.duplicateField f.key) r
  | r => stopBefore (.duplicateField f.key) r

/-- Reads a member behind the opening quote of its key. -/
def member (d : Draft) (cs : List Char) : Except Stop (Draft × List Char) := do
  let (key, r) ← string cs
  match Field.ofKey? key with
  | some f =>
    if d.has f then duplicate f r
    else memberValue d f (← colon r)
  | none => return (d, ← skipValue (← colon r))

/-- Reads members up to the closing brace. Every member takes a character, so the length of the
text bounds their number. -/
def members (d : Draft) (isFirst : Bool) (cs : List Char) :
    Nat → Except Stop (Draft × List Char)
  | 0 => stopBefore .endOfObject []
  | fuel + 1 =>
    match skipSpace cs with
    | [] => stopBefore .endOfObject []
    | '\x7d' :: r => .ok (d, r)
    | c :: r =>
      if isFirst then
        if c = '"' then (member d r).bind fun (d', t) => members d' false t fuel
        else stopAt .keyNotString (c :: r)
      else if c = ',' then
        match skipSpace r with
        | [] => stopBefore .endOfValue []
        | '"' :: r' => (member d r').bind fun (d', t) => members d' false t fuel
        | '\x7d' :: r' => stopAt .trailingComma ('\x7d' :: r')
        | r' => stopAt .keyNotString r'
      else stopAt .expectedObjectComma (c :: r)

/-- The closing bracket of a list whose values have been read. -/
def listEnd (cs : List Char) : Except Stop (List Char) :=
  match skipSpace cs with
  | [] => stopBefore .endOfList []
  | ']' :: r => .ok r
  | ',' :: r =>
    match skipSpace r with
    | ']' :: r' => stopAt .trailingComma (']' :: r')
    | r' => stopAt .trailingCharacters r'
  | r => stopAt .trailingCharacters r

/-- Reads the values of the given members from a list, as far as it goes. -/
def elements (d : Draft) (isFirst : Bool) :
    List Field → List Char → Except Stop (Draft × List Char)
  | [], cs => (listEnd cs).map fun r => (d, r)
  | f :: fs, cs =>
    match skipSpace cs with
    | [] => stopBefore .endOfList []
    | ']' :: r => .ok (d, r)
    | c :: r =>
      if isFirst then
        (memberValue d f (c :: r)).bind fun (d', t) => elements d' false fs t
      else if c = ',' then
        match skipSpace r with
        | [] => stopBefore .endOfValue []
        | ']' :: r' => stopAt .trailingComma (']' :: r')
        | r' => (memberValue d f r').bind fun (d', t) => elements d' false fs t
      else stopAt .expectedListComma (c :: r)

/-- The draft that a whole text stands for. -/
def draft (cs : List Char) : Except Stop Draft := do
  let (d, r) ←
    match skipSpace cs with
    | [] => stopBefore .endOfValue []
    | '[' :: r => elements {} true Field.all r
    | '\x7b' :: r => members {} true r (r.length + 1)
    | r => mismatch "struct BridgeConfig" r
  match skipSpace r with
  | [] => .ok d
  | r' => stopAt .trailingCharacters r'

/-- Reads settings from a text; a text that does not hold any is explained by a message. -/
def parse (text : String) : Except String Settings :=
  match draft text.toList with
  | .ok d => .ok d.settings
  | .error stop => .error (stop.message text.toList)

end Offload.Settings
