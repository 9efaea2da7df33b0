/-!
The kinds of a kernel's parameter slots, and the push that carries each of them.

A device queue knows seven pushes for nine kinds: short and char ride the int push.
-/

namespace Offload

inductive Kind
  | object
  | boolean
  | byte
  | short
  | char
  | int
  | long
  | float
  | double
  deriving DecidableEq, Repr

inductive PushKind
  | object
  | boolean
  | byte
  | int
  | long
  | float
  | double
  deriving DecidableEq, Repr

def Kind.name : Kind → String
  | .object => "object"
  | .boolean => "boolean"
  | .byte => "byte"
  | .short => "short"
  | .char => "char"
  | .int => "int"
  | .long => "long"
  | .float => "float"
  | .double => "double"

/-- The push a slot of this kind goes through. -/
def Kind.push : Kind → PushKind
  | .object => .object
  | .boolean => .boolean
  | .byte => .byte
  | .short | .char | .int => .int
  | .long => .long
  | .float => .float
  | .double => .double

/-- The kind that a push is named after. -/
def PushKind.kind : PushKind → Kind
  | .object => .object
  | .boolean => .boolean
  | .byte => .byte
  | .int => .int
  | .long => .long
  | .float => .float
  | .double => .double

def PushKind.name (p : PushKind) : String := p.kind.name

@[simp] theorem PushKind.push_kind (p : PushKind) : p.kind.push = p := by
  cases p <;> rfl

end Offload
