/-!
Text as bytes.

Bytes that are no text can still be shown: every longest stretch that begins a character and
does not finish it, and every byte that begins none, is shown as one replacement character.
-/

namespace Offload.Text

def utf8 (s : String) : List UInt8 := s.toList.flatMap String.utf8EncodeChar

/-- The text that the bytes are, if they are one. -/
def ofUtf8? (bytes : List UInt8) : Option String := String.fromUTF8? bytes.toByteArray

@[simp] theorem ofUtf8?_utf8 (s : String) : ofUtf8? (utf8 s) = some s := by
  have h : (utf8 s).toByteArray = s.toByteArray := by
    rw [← String.utf8Encode_toList]
    rfl
  unfold ofUtf8? String.fromUTF8?
  rw [h]
  simp [String.isValidUTF8, String.fromUTF8]

theorem zero_ne_ofNat {n : Nat} (hpos : 0 < n) (hlt : n < 256) : (0 : UInt8) ≠ UInt8.ofNat n := by
  intro heq
  have hn := congrArg UInt8.toNat heq
  rw [UInt8.toNat_ofNat_of_lt' hlt] at hn
  simp at hn
  omega

theorem zero_notMem_utf8EncodeChar {c : Char} (hc : c ≠ '\x00') :
    (0 : UInt8) ∉ String.utf8EncodeChar c := by
  have hpos : 0 < c.val.toNat :=
    Nat.pos_of_ne_zero fun h => hc (Char.ext (UInt32.toNat_inj.1 h))
  intro h
  unfold String.utf8EncodeChar at h
  simp only at h
  split at h
  · rename_i hv
    exact zero_ne_ofNat hpos (by omega) (List.mem_singleton.1 h)
  -- the first byte of a longer form has its top bits set, and so have those that follow
  · split at h
    · simp only [List.mem_cons, List.not_mem_nil, or_false] at h
      rcases h with h | h <;> exact zero_ne_ofNat (by omega) (by omega) h
    · split at h <;> simp only [List.mem_cons, List.not_mem_nil, or_false] at h
      · rcases h with h | h | h <;> exact zero_ne_ofNat (by omega) (by omega) h
      · rcases h with h | h | h | h <;> exact zero_ne_ofNat (by omega) (by omega) h

/-- Only the character zero has a zero byte. -/
theorem zero_notMem_utf8 {s : String} (h : '\x00' ∉ s.toList) : (0 : UInt8) ∉ utf8 s := by
  intro hm
  obtain ⟨c, hc, hz⟩ := List.mem_flatMap.1 hm
  exact zero_notMem_utf8EncodeChar (fun heq => h (heq ▸ hc)) hz

/-- A character begun: how many bytes it lacks, the range of the next one and the bits so far. -/
structure Begun where
  lacking : Nat
  low : UInt8
  high : UInt8
  bits : Nat

def replacement : Char := '\ufffd'

/-- What a byte at a character boundary shows or begins. -/
def beginByte (b : UInt8) : List Char × Option Begun :=
  if b < 0x80 then ([Char.ofNat b.toNat], none)
  else if b < 0xc2 then ([replacement], none)
  else if b < 0xe0 then ([], some ⟨1, 0x80, 0xbf, b.toNat % 32⟩)
  else if b < 0xf0 then
    let low := if b = 0xe0 then 0xa0 else 0x80
    let high := if b = 0xed then 0x9f else 0xbf
    ([], some ⟨2, low, high, b.toNat % 16⟩)
  else if b < 0xf5 then
    let low := if b = 0xf0 then 0x90 else 0x80
    let high := if b = 0xf4 then 0x8f else 0xbf
    ([], some ⟨3, low, high, b.toNat % 8⟩)
  else ([replacement], none)

def showBytes : Option Begun → List UInt8 → List Char
  | none, [] => []
  | some _, [] => [replacement]
  | none, b :: r => (beginByte b).1 ++ showBytes (beginByte b).2 r
  | some s, b :: r =>
    if s.low ≤ b ∧ b ≤ s.high then
      let bits := s.bits * 64 + b.toNat % 64
      if s.lacking ≤ 1 then Char.ofNat bits :: showBytes none r
      else showBytes (some ⟨s.lacking - 1, 0x80, 0xbf, bits⟩) r
    else replacement :: ((beginByte b).1 ++ showBytes (beginByte b).2 r)

/-- The bytes as text, whether they are one or not. -/
def ofUtf8 (bytes : List UInt8) : String :=
  (ofUtf8? bytes).getD (String.ofList (showBytes none bytes))

@[simp] theorem ofUtf8_utf8 (s : String) : ofUtf8 (utf8 s) = s := by
  simp [ofUtf8]

end Offload.Text
