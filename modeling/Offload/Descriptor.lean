import Offload.Kind

/-!
Reading a method descriptor, as a one-pass scan over its characters.

A descriptor is a parameter list in parentheses and a result: `(ILa/B;[J)V`. A field type is a
letter for a basic kind, a class name between `L` and `;`, or an array mark before a field type.
The scan stands at the start, among the parameters, at the result or at the end; inside a field
type it also knows whether it follows an array mark or stands in a class name.
-/

namespace Offload.Descriptor

/-- Why a text is no descriptor. -/
inductive Flaw
  | noOpening
  | noClosing
  | noResult
  | trailing
  | emptyClass
  | openClass
  | misplacedVoid
  | unknownType
  | cutShort
  deriving DecidableEq, Repr

def Flaw.message : Flaw → String
  | .noOpening => "missing '('"
  | .noClosing => "missing ')'"
  | .noResult => "missing return type"
  | .trailing => "trailing characters after return type"
  | .emptyClass => "empty class name"
  | .openClass => "unterminated class name"
  | .misplacedVoid => "void is only valid as a return type"
  | .unknownType => "unknown type character"
  | .cutShort => "unexpected end of descriptor"

/-- Where the scan stands within a field type: at its first character, behind an array mark, or
in a class name, of which it may have seen a character. -/
inductive Field
  | fresh
  | array
  | className (started : Bool)
  deriving DecidableEq, Repr

/-- Where the scan stands in the descriptor. The kinds seen among the parameters are listed from
the latest. -/
inductive Scan
  | start
  | parameters (seen : List Kind) (field : Field)
  | result (params : List Kind) (field : Field)
  | finished (params : List Kind) (returns : Option Kind)
  deriving DecidableEq, Repr

def basicKind? : Char → Option Kind
  | 'Z' => some .boolean
  | 'B' => some .byte
  | 'S' => some .short
  | 'C' => some .char
  | 'I' => some .int
  | 'J' => some .long
  | 'F' => some .float
  | 'D' => some .double
  | _ => none

/-- One character of a field type: it is complete, with its kind, or goes on. -/
def Field.step : Field → Char → Except Flaw (Kind ⊕ Field)
  | .className true, ';' => .ok (.inl .object)
  | .className false, ';' => .error .emptyClass
  | .className _, _ => .ok (.inr (.className true))
  | field, c =>
    if c = 'L' then .ok (.inr (.className false))
    else if c = '[' then .ok (.inr .array)
    else if c = 'V' then .error .misplacedVoid
    else
      match basicKind? c with
      | some k => .ok (.inl (if field = .array then .object else k))
      | none => .error .unknownType

def Scan.step : Scan → Char → Except Flaw Scan
  | .start, c => if c = '(' then .ok (.parameters [] .fresh) else .error .noOpening
  | .parameters seen field, c =>
    if field = .fresh ∧ c = ')' then .ok (.result seen.reverse .fresh)
    else (field.step c).map fun
      | .inl k => .parameters (k :: seen) .fresh
      | .inr next => .parameters seen next
  | .result params field, c =>
    if field = .fresh ∧ c = 'V' then .ok (.finished params none)
    else (field.step c).map fun
      | .inl k => .finished params (some k)
      | .inr next => .result params next
  | .finished _ _, _ => .error .trailing

/-- The flaw of a field type that ends here; `fresh` is the flaw when it has not begun. -/
def Field.flawAtEnd (fresh : Flaw) : Field → Flaw
  | .fresh => fresh
  | .array => .cutShort
  | .className _ => .openClass

/-- What the scan has read when the text ends. -/
def Scan.close : Scan → Except Flaw (List Kind × Option Kind)
  | .start => .error .noOpening
  | .parameters _ field => .error (field.flawAtEnd .noClosing)
  | .result _ field => .error (field.flawAtEnd .noResult)
  | .finished params returns => .ok (params, returns)

def Scan.run (s : Scan) (cs : List Char) : Except Flaw Scan := cs.foldlM Scan.step s

/-- The kinds of the parameters and of the result; no kind stands for a void result. -/
def parse (cs : List Char) : Except Flaw (List Kind × Option Kind) :=
  (Scan.run .start cs).bind Scan.close

@[simp] theorem Scan.run_nil (s : Scan) : s.run [] = .ok s := rfl

@[simp] theorem Scan.run_cons (s : Scan) (c : Char) (cs : List Char) :
    s.run (c :: cs) = (s.step c).bind (·.run cs) := rfl

theorem Scan.run_append (s : Scan) (as bs : List Char) :
    s.run (as ++ bs) = (s.run as).bind (·.run bs) := by
  simp only [Scan.run, List.foldlM_append]
  rfl

end Offload.Descriptor
