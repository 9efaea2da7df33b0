import Offload.Value
import Offload.Signature
import Offload.Region
import Offload.Text.Blank
import Offload.Text.Integer
import Offload.Floating.Reader

/-!
Reading kernel arguments from text, a text for each slot of a signature.

Blanks around a text do not count. An object is the null reference or an offset into the host's
heap; a char is a single character other than a digit, or the number of a code unit.
-/

namespace Offload.Command

/-- Why a text is no value of its slot. -/
inductive ValueFault
  | integer (fault : Text.IntegerFault)
  | float (fault : Floating.ReadFault)
  | notBoolean (text : String)
  | notObject (text : String)
  | beyondPlane
  | outsideHeap (offset size : Nat)
  deriving DecidableEq, Repr

/-- The messages of a fault, the outermost first. -/
def ValueFault.messages : ValueFault → List String
  | .integer fault => [fault.message]
  | .float fault => [fault.message]
  | .notBoolean text => ["expected true/false, got " ++ Text.quoted text]
  | .notObject text =>
    ["object arguments are \"null\" or \"@OFFSET\", got " ++ Text.quoted text]
  | .beyondPlane => ["character outside the BMP", Text.IntegerFault.tooLarge.message]
  | .outsideHeap offset size =>
    ["offset " ++ toString offset ++ " is outside the " ++ toString size ++ "-byte host heap"]

def readSigned (size : Nat) (cs : List Char) : Except ValueFault Int :=
  (Text.readSigned size cs).mapError .integer

def readUnsigned (radix size : Nat) (cs : List Char) : Except ValueFault Nat :=
  (Text.readUnsigned radix size cs).mapError .integer

/-- An offset is hexadecimal behind its mark, and decimal otherwise. -/
def readOffset : List Char → Except ValueFault Nat
  | '0' :: 'x' :: digits => readUnsigned 16 UInt64.size digits
  | digits => readUnsigned 10 UInt64.size digits

def readObject (heap : Region) (cs : List Char) : Except ValueFault Value :=
  if cs = ['n', 'u', 'l', 'l'] then .ok .null
  else
    match cs with
    | '@' :: rest => do
      let offset ← readOffset rest
      if heap.size.toNat ≤ offset then .error (.outsideHeap offset heap.size.toNat)
      else .ok (.object (heap.base + UInt64.ofNat offset))
    | _ => .error (.notObject (String.ofList cs))

def readBoolean (cs : List Char) : Except ValueFault Value :=
  if cs = ['t', 'r', 'u', 'e'] ∨ cs = ['1'] then .ok (.boolean true)
  else if cs = ['f', 'a', 'l', 's', 'e'] ∨ cs = ['0'] then .ok (.boolean false)
  else .error (.notBoolean (String.ofList cs))

def readChar (cs : List Char) : Except ValueFault Value :=
  let number := (readUnsigned 10 UInt16.size cs).map fun n => Value.char (UInt16.ofNat n)
  match cs with
  | [c] =>
    if c.isDigit then number
    else if c.toNat < UInt16.size then .ok (.char (UInt16.ofNat c.toNat))
    else .error .beyondPlane
  | _ => number

def readFloat (f : Floating.Format) (cs : List Char) : Except ValueFault Nat :=
  (Floating.parse f cs).mapError .float

/-- Reads a text from which the blanks around it have been taken. -/
def readTrimmed (heap : Region) (kind : Kind) (cs : List Char) : Except ValueFault Value :=
  match kind with
  | .object => readObject heap cs
  | .boolean => readBoolean cs
  | .byte => (readSigned Int8.size cs).map fun n => .byte (Int8.ofInt n)
  | .short => (readSigned Int16.size cs).map fun n => .short (Int16.ofInt n)
  | .char => readChar cs
  | .int => (readSigned Int32.size cs).map fun n => .int (Int32.ofInt n)
  | .long => (readSigned Int64.size cs).map fun n => .long (Int64.ofInt n)
  | .float => (readFloat .single cs).map fun n => .float (UInt32.ofNat n)
  | .double => (readFloat .double cs).map fun n => .double (UInt64.ofNat n)

def readValue (heap : Region) (kind : Kind) (text : String) : Except ValueFault Value :=
  readTrimmed heap kind (Text.trim text.toList)

/-- Why texts are no arguments of a signature. -/
inductive ArgumentsFault
  | count (slots given : Nat)
  | value (index : Nat) (kind : Kind) (fault : ValueFault)
  deriving DecidableEq, Repr

def ArgumentsFault.messages : ArgumentsFault → List String
  | .count slots given =>
    ["signature has " ++ toString slots ++ " slot(s) but " ++ toString given ++
      " --arg value(s) were given"]
  | .value index kind fault =>
    ("argument " ++ toString index ++ " (" ++ kind.name ++ ")") :: fault.messages

/-- Reads texts for slots, counting the slots from `i`. -/
def readSlots (heap : Region) : Nat → List Kind → List String →
    Except ArgumentsFault (List Value)
  | i, kind :: kinds, text :: texts =>
    match readValue heap kind text with
    | .error fault => .error (.value i kind fault)
    | .ok v => (readSlots heap (i + 1) kinds texts).map (v :: ·)
  | _, _, _ => .ok []

def readArguments (s : Signature) (heap : Region) (texts : List String) :
    Except ArgumentsFault (List Value) :=
  if texts.length ≠ s.arity then .error (.count s.arity texts.length)
  else readSlots heap 0 s.slots texts

end Offload.Command
