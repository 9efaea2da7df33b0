import Offload.Proofs.Simulator.Calls

/-!
Handles as words: the slot's field stands above the twenty bits of the target's.

A target whose field fits never carries into the slot's bits. So a word decodes to at most one
slot and target, the ones that it is the handle of, and different ones have different handles.
-/

namespace Offload.Simulator

/-- The field of a target is within its twenty bits. -/
def Target.Fits (target : Target) : Prop := target.field < indexSpan

instance (target : Target) : Decidable target.Fits :=
  inferInstanceAs (Decidable (_ < indexSpan))

lemma Target.fits_kernel_iff {i : Nat} : (Target.kernel i).Fits ↔ i < capacity := by
  change i + 1 < indexSpan ↔ i < indexSpan - 1
  simp only [indexSpan]
  omega

namespace Handle

variable {h : Handle} {slot slot' : Slot} {target target' : Target} {i : Nat}

/-- A word decodes to the slot and target that it is the handle of, and to nothing else. -/
lemma decode?_eq_some_iff :
    h.decode? = some (slot, target) ↔ target.Fits ∧ h = encode slot target := by
  constructor
  · intro hd
    unfold decode? at hd
    simp only at hd
    split at hd
    · simp at hd
    rename_i hhigh
    obtain ⟨slot', hslot, heq⟩ := Option.map_eq_some_iff.1 hd
    obtain ⟨rfl, htarget⟩ := Prod.mk.inj heq
    have hs : h.bits.toNat / indexSpan = slot'.val + 1 := by
      unfold Simulator.slot? at hslot
      split at hslot
      · rw [← Option.some.inj hslot]
        exact (Nat.sub_add_cancel (Nat.pos_of_ne_zero hhigh)).symm
      · simp at hslot
    have hlow : h.bits.toNat % indexSpan < indexSpan := Nat.mod_lt _ (by decide)
    have hfield : target.field = h.bits.toNat % indexSpan := by
      rw [← htarget]
      split
      · rename_i hz
        exact hz.symm
      · simp only [Target.field]
        omega
    have hfits : target.Fits := by rwa [Target.Fits, hfield]
    have hbits : h.bits = (encode slot' target).bits := by
      apply UInt64.toNat_inj.1
      rw [toNat_encode hfits, hfield, ← hs, Nat.div_add_mod']
    exact ⟨hfits, congrArg Handle.mk hbits⟩
  · rintro ⟨hfits, rfl⟩
    exact decode?_encode hfits

lemma encode_inj (ht : target.Fits) (ht' : target'.Fits)
    (heq : encode slot target = encode slot' target') : slot = slot' ∧ target = target' := by
  have hd : (encode slot target).decode? = some (slot', target') :=
    decode?_eq_some_iff.2 ⟨ht', heq⟩
  rw [decode?_encode ht] at hd
  exact Prod.mk.inj (Option.some.inj hd)

lemma isNull_encode (ht : target.Fits) : (encode slot target).isNull = false := by
  have hpos : (encode slot target).bits.toNat ≠ 0 := by
    rw [toNat_encode ht]
    simp only [indexSpan]
    omega
  refine decide_eq_false fun hz => hpos ?_
  rw [hz]
  rfl

/-- The fields of a handle do not overlap: adding them up is joining their bits. -/
lemma bits_encode (ht : target.Fits) :
    (encode slot target).bits =
      UInt64.ofNat (slot.val + 1) <<< 20 ||| UInt64.ofNat target.field := by
  have hs := slot.isLt
  have hfield : target.field < 2 ^ 20 := ht
  have hhigh : (UInt64.ofNat (slot.val + 1)).toNat = slot.val + 1 :=
    UInt64.toNat_ofNat_of_lt' (by simp only [UInt64.size, slotCount] at *; omega)
  have hlow : (UInt64.ofNat target.field).toNat = target.field :=
    UInt64.toNat_ofNat_of_lt' (by simp only [UInt64.size] at *; omega)
  have hshift : (slot.val + 1) <<< ((20 : UInt64).toNat % 64) % 2 ^ 64 = (slot.val + 1) <<< 20 := by
    have h20 : (20 : UInt64).toNat % 64 = 20 := by decide
    rw [h20, Nat.shiftLeft_eq, Nat.mod_eq_of_lt]
    simp only [slotCount] at hs
    omega
  apply UInt64.toNat_inj.1
  rw [toNat_encode ht, UInt64.toNat_or, UInt64.toNat_shiftLeft, hhigh, hlow, hshift,
    ← Nat.shiftLeft_add_eq_or_of_lt hfield, Nat.shiftLeft_eq]

lemma contextSlot?_eq_some_iff : h.contextSlot? = some slot ↔ h = encode slot .context := by
  constructor
  · intro hs
    unfold contextSlot? at hs
    split at hs
    · rename_i slot' hd
      obtain rfl := Option.some.inj hs
      exact (decode?_eq_some_iff.1 hd).2
    · simp at hs
  · rintro rfl
    exact contextSlot?_encode slot

lemma kernelIndex?_eq_some_iff :
    h.kernelIndex? = some (slot, i) ↔ i < capacity ∧ h = encode slot (.kernel i) := by
  constructor
  · intro hs
    unfold kernelIndex? at hs
    split at hs
    · rename_i slot' i' hd
      obtain ⟨rfl, rfl⟩ := Prod.mk.inj (Option.some.inj hs)
      obtain ⟨hfits, heq⟩ := decode?_eq_some_iff.1 hd
      exact ⟨Target.fits_kernel_iff.1 hfits, heq⟩
    · simp at hs
  · rintro ⟨hi, rfl⟩
    exact kernelIndex?_encode slot hi

end Handle

end Offload.Simulator
