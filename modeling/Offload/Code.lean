import Offload.Fault
import Offload.Text.Quoted
import Offload.Text.Utf8

/-!
Device code under the name it is shown by.

The entry point that loads it is told neither length, so both travel as zero-terminated bytes:
the code may not be empty and the name may not hold a zero.
-/

namespace Offload

structure Code where
  bytes : List UInt8
  name : String
  bytes_ne_nil : bytes ≠ []
  name_noZero : '\x00' ∉ name.toList

/-- A name that would be cut short on its way. -/
def Fault.zeroInName (name : String) : Fault :=
  .invalidKernel ("name " ++ Text.quoted name ++ " contains a NUL byte")

namespace Code

def of (bytes : List UInt8) (name : String) : Except Fault Code :=
  if hb : bytes = [] then .error (.invalidKernel ("'" ++ name ++ "' has empty code"))
  else if hn : '\x00' ∈ name.toList then .error (.zeroInName name)
  else .ok ⟨bytes, name, hb, hn⟩

theorem of_eq_ok_iff {bytes : List UInt8} {name : String} {code : Code} :
    of bytes name = .ok code ↔ code.bytes = bytes ∧ code.name = name := by
  constructor
  · intro h
    unfold of at h
    split at h
    · cases h
    · split at h
      · cases h
      · obtain rfl := Except.ok.inj h
        exact ⟨rfl, rfl⟩
  · rintro ⟨rfl, rfl⟩
    rw [of, dif_neg code.bytes_ne_nil, dif_neg code.name_noZero]

variable (c : Code)

def size : Nat := c.bytes.length

/-- The code as it is handed over: ended by a zero, which is added only when none ends it. -/
def terminated : List UInt8 :=
  if c.bytes.getLast? = some 0 then c.bytes else c.bytes ++ [0]

/-- The name as it is handed over, looked through once more for a zero among its bytes. -/
def terminatedName : Except Fault (List UInt8) :=
  let bytes := Text.utf8 c.name
  if 0 ∈ bytes then .error (.zeroInName c.name) else .ok (bytes ++ [0])

/-- No zero is found, since the name holds no character that is encoded with one. -/
theorem terminatedName_eq : c.terminatedName = .ok (Text.utf8 c.name ++ [0]) :=
  if_neg (Text.zero_notMem_utf8 c.name_noZero)

end Code

/-- What a reader of zero-terminated bytes sees of them. -/
def upToZero (bytes : List UInt8) : List UInt8 := bytes.takeWhile (· ≠ 0)

theorem upToZero_append_singleton (bytes : List UInt8) :
    upToZero (bytes ++ [0]) = upToZero bytes := by
  induction bytes with
  | nil => rfl
  | cons b bytes ih =>
    by_cases hb : b = 0
    · simp [upToZero, hb]
    · simpa [upToZero, hb] using ih

theorem upToZero_append_zero {bytes : List UInt8} (h : 0 ∉ bytes) :
    upToZero (bytes ++ [0]) = bytes := by
  have hall : ∀ b ∈ bytes, decide (b ≠ 0) = true :=
    fun b hb => by simpa using fun heq : b = 0 => h (heq ▸ hb)
  rw [upToZero, List.takeWhile_append_of_pos hall]
  simp

/-- The zero that may have been added hides nothing, and shows nothing. -/
theorem Code.upToZero_terminated_eq (c : Code) : upToZero c.terminated = upToZero c.bytes := by
  unfold terminated
  split
  · rfl
  · exact upToZero_append_singleton c.bytes

end Offload
