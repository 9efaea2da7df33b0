import Mathlib.Tactic.Common
import Offload.Text.Blank
import Offload.Text.Integer

/-!
Integers read back: the digits of a number are read as the number, as far as it lies in the range.

The digits of a number in a radix are those of its quotient with one more behind them, and so they
are read. A letter among them counts the same in either case.
-/

namespace Offload.Text

variable {radix limit size n : Nat} {beyond : IntegerFault} {cs ds : List Char}

/-! ### Digits -/

lemma digit?_digitChar (hle : radix ≤ 16) (hn : n < radix) :
    digit? radix n.digitChar = some n := by
  have hall : ∀ radix ≤ 16, ∀ n < radix, digit? radix n.digitChar = some n := by decide
  exact hall radix hle n hn

/-- A hexadecimal digit has the same value in either case. -/
lemma digit?_toLower (c : Char) : digit? 16 c.toLower = digit? 16 c := by
  have hletter : ∀ n < 26, digit? 16 (Char.ofNat (65 + n)).toLower =
      digit? 16 (Char.ofNat (65 + n)) := by decide
  by_cases hc : 65 ≤ c.toNat ∧ c.toNat ≤ 90
  · have hnat : Char.ofNat (65 + (c.toNat - 65)) = c := by
      rw [Nat.add_sub_cancel' hc.1, Char.ofNat_toNat]
    have h := hletter (c.toNat - 65) (by omega)
    rwa [hnat] at h
  · have hsame : c.toLower = c := dif_neg hc
    rw [hsame]

/-- A digit is an ASCII digit or one of the first letters. -/
lemma toNat_of_digit? {c : Char} {d : Nat} (h : digit? radix c = some d) :
    48 ≤ c.toNat ∧ c.toNat ≤ 57 ∨ 97 ≤ c.toNat ∧ c.toNat ≤ 102 ∨
      65 ≤ c.toNat ∧ c.toNat ≤ 70 := by
  have hle : ∀ {a b : Char}, a ≤ b ↔ a.toNat ≤ b.toNat := fun {a b} => UInt32.le_iff_toNat_le
  by_contra hnone
  have hout : ¬ ('0' ≤ c ∧ c ≤ '9') ∧ ¬ ('a' ≤ c ∧ c ≤ 'f') ∧ ¬ ('A' ≤ c ∧ c ≤ 'F') := by
    simp only [hle, Char.reduceToNat]
    omega
  simp [digit?, hout] at h

lemma readDigits_append (acc : Nat) :
    readDigits radix limit beyond acc (cs ++ ds) =
      (readDigits radix limit beyond acc cs).bind fun v => readDigits radix limit beyond v ds := by
  induction cs generalizing acc with
  | nil => rfl
  | cons c cs ih =>
    rw [List.cons_append, readDigits, readDigits]
    rcases digit? radix c with _ | d
    · rfl
    · simp only
      split
      · exact ih _
      · rfl

/-- **Numbers read back**: the digits of a number that does not pass the limit are read as it. -/
lemma readDigits_toDigits (hradix : 1 < radix) (hle : radix ≤ 16) (hn : n ≤ limit) :
    readDigits radix limit beyond 0 (Nat.toDigits radix n) = .ok n := by
  induction n using Nat.strongRecOn with
  | ind n ih =>
    rw [Nat.toDigits_eq_if hradix]
    split
    · rename_i hlt
      simp [readDigits, digit?_digitChar hle hlt, hn]
    · rename_i hge
      have hquotient : n / radix < n := Nat.div_lt_self (by omega) hradix
      have hdigit : n % radix < radix := Nat.mod_lt _ (by omega)
      have hvalue : n / radix * radix + n % radix = n := Nat.div_add_mod' n radix
      rw [readDigits_append, ih (n / radix) hquotient (by omega)]
      simp [Except.bind, readDigits, digit?_digitChar hle hdigit, hvalue, hn]

/-- Zeros before a number are read over. -/
lemma readDigits_zeros (hradix : 0 < radix) (zeros : Nat) :
    readDigits radix limit beyond 0 (List.replicate zeros '0' ++ cs) =
      readDigits radix limit beyond 0 cs := by
  have hzero : digit? radix '0' = some 0 := if_pos hradix
  induction zeros with
  | zero => rfl
  | succ zeros ih => simpa [List.replicate_succ, readDigits, hzero] using ih

/-- Only the values of the digits count. -/
lemma readDigits_map_toLower (acc : Nat) :
    readDigits 16 limit beyond acc (cs.map Char.toLower) = readDigits 16 limit beyond acc cs := by
  induction cs generalizing acc with
  | nil => rfl
  | cons c cs ih =>
    rw [List.map_cons, readDigits, readDigits, digit?_toLower]
    simp only [ih]

lemma exists_digit?_of_readDigits {acc : Nat} (h : readDigits radix limit beyond acc cs = .ok n) :
    ∀ c ∈ cs, ∃ d, digit? radix c = some d := by
  induction cs generalizing acc with
  | nil => simp
  | cons c cs ih =>
    rw [readDigits] at h
    rcases hc : digit? radix c with _ | d
    · simp [hc] at h
    · simp only [hc] at h
      split at h
      · intro x hx
        rcases List.mem_cons.1 hx with rfl | hx
        · exact ⟨d, hc⟩
        · exact ih h x hx
      · cases h

/-- Digits that are read have no blank among them. -/
lemma isBlank_of_readDigits {acc : Nat} (h : readDigits radix limit beyond acc cs = .ok n) :
    ∀ c ∈ cs, isBlank c = false := by
  intro c hc
  obtain ⟨d, hd⟩ := exists_digit?_of_readDigits h c hc
  have hrange := toNat_of_digit? hd
  simp only [isBlank, Bool.or_eq_false_iff, Bool.and_eq_false_iff, decide_eq_false_iff_not]
  omega

/-! ### Decimal numbers -/

/-- Decimal digits, one at least. -/
structure Digits (ds : List Char) : Prop where
  ne_nil : ds ≠ []
  isDigit : ∀ c ∈ ds, c.isDigit = true

/-- The decimal digits of a natural number, behind any zeros. -/
structure Decimal (n : Nat) (ds : List Char) : Prop extends Digits ds where
  value : Nat.ofDigitChars 10 ds 0 = n

lemma Digits.head (h : Digits ds) : ∃ c r, ds = c :: r ∧ c.isDigit = true := by
  obtain ⟨c, r, rfl⟩ := List.exists_cons_of_ne_nil h.ne_nil
  exact ⟨c, r, rfl, h.isDigit c (by simp)⟩

lemma decimal_toDigits (n : Nat) : Decimal n (Nat.toDigits 10 n) where
  ne_nil := Nat.toDigits_ne_nil
  isDigit := fun _ hc => Nat.isDigit_of_mem_toDigits (by decide) (by decide) hc
  value := Nat.ofDigitChars_ten_toDigits

lemma le_ofDigitChars (ds : List Char) (v : Nat) : v ≤ Nat.ofDigitChars 10 ds v := by
  induction ds generalizing v with
  | nil => simp
  | cons c ds ih =>
    rw [Nat.ofDigitChars_cons]
    have hstep := ih (10 * v + (c.toNat - '0'.toNat))
    omega

lemma digit?_ten (c : Char) :
    digit? 10 c = if c.isDigit then some (c.toNat - '0'.toNat) else none := by
  have hle : ∀ {a b : Char}, a ≤ b ↔ a.toNat ≤ b.toNat := fun {a b} => UInt32.le_iff_toNat_le
  unfold digit?
  simp only [hle, Char.isDigit_iff_toNat, Char.reduceToNat]
  split
  · rw [if_pos (by omega)]
  split
  · rw [if_neg (by omega)]
  split
  · rw [if_neg (by omega)]
  · rw [if_neg (by omega)]

/-- What is read as digits behind a value, is digits and leads to no more than the limit. -/
lemma readDigits_ten_eq_ok_iff {acc : Nat} (hacc : acc ≤ limit) :
    readDigits 10 limit beyond acc cs = .ok n ↔
      (∀ c ∈ cs, c.isDigit = true) ∧ Nat.ofDigitChars 10 cs acc = n ∧ n ≤ limit := by
  induction cs generalizing acc with
  | nil =>
    simp only [readDigits_nil, Except.ok.injEq, List.not_mem_nil, false_implies, implies_true,
      Nat.ofDigitChars_nil, true_and]
    exact ⟨fun h => ⟨h, h ▸ hacc⟩, And.left⟩
  | cons c cs ih =>
    rw [readDigits, digit?_ten, Nat.ofDigitChars_cons, Nat.mul_comm acc 10]
    by_cases hc : c.isDigit = true
    · simp only [hc, if_true, List.forall_mem_cons, true_and]
      by_cases hfits : 10 * acc + (c.toNat - '0'.toNat) ≤ limit
      · rw [if_pos hfits]
        exact ih hfits
      · rw [if_neg hfits]
        have hgrow := le_ofDigitChars cs (10 * acc + (c.toNat - '0'.toNat))
        constructor
        · rintro ⟨⟩
        · rintro ⟨-, hvalue, hn⟩
          omega
    · simp [hc]

/-! ### Numbers with a sign -/

/-- A sign is no digit. -/
lemma sign_notMem_of_readDigits (h : readDigits radix limit beyond 0 cs = .ok n) :
    '+' ∉ cs ∧ '-' ∉ cs := by
  constructor <;> intro hm <;> obtain ⟨d, hd⟩ := exists_digit?_of_readDigits h _ hm <;>
    simpa using toNat_of_digit? hd

lemma readUnsigned_of_readDigits (hcs : cs ≠ [])
    (h : readDigits radix (size - 1) .tooLarge 0 cs = .ok n) :
    readUnsigned radix size cs = .ok n := by
  have hplus := (sign_notMem_of_readDigits h).1
  unfold readUnsigned
  split
  · exact absurd rfl hcs
  · simp at hplus
  · simp at hplus
  · exact h

lemma readUnsigned_toDigits (hradix : 1 < radix) (hle : radix ≤ 16) (hn : n < size) :
    readUnsigned radix size (Nat.toDigits radix n) = .ok n :=
  readUnsigned_of_readDigits Nat.toDigits_ne_nil (readDigits_toDigits hradix hle (by omega))

/-- What a natural number may be written as. -/
inductive Unsigned (n : Nat) : List Char → Prop
  | mk {sign ds : List Char} (hsign : sign = [] ∨ sign = ['+']) (h : Decimal n ds) :
      Unsigned n (sign ++ ds)

/-- **Natural numbers**: what is read as one is one of the texts that it may be written as. -/
lemma readUnsigned_eq_ok_iff (hsize : 0 < size) :
    readUnsigned 10 size cs = .ok n ↔ Unsigned n cs ∧ n < size := by
  have hdigits : ∀ {ds}, readDigits 10 (size - 1) .tooLarge 0 ds = .ok n ↔
      (∀ c ∈ ds, c.isDigit = true) ∧ Nat.ofDigitChars 10 ds 0 = n ∧ n ≤ size - 1 :=
    readDigits_ten_eq_ok_iff (Nat.zero_le _)
  constructor
  · intro h
    have hread : ∀ {ds}, ds ≠ [] → readDigits 10 (size - 1) .tooLarge 0 ds = .ok n →
        Decimal n ds ∧ n < size := by
      intro ds hne hds
      obtain ⟨hall, hvalue, hn⟩ := hdigits.1 hds
      exact ⟨⟨⟨hne, hall⟩, hvalue⟩, by omega⟩
    unfold readUnsigned at h
    split at h
    · cases h
    · cases h
    · rename_i ds hne
      obtain ⟨hds, hn⟩ := hread (by simpa using hne) h
      exact ⟨.mk (.inr rfl) hds, hn⟩
    · rename_i ds hne _ _
      obtain ⟨hds, hn⟩ := hread hne h
      exact ⟨.mk (.inl rfl) hds, hn⟩
  · rintro ⟨⟨hsign, h⟩, hn⟩
    have hread := hdigits.2 ⟨h.isDigit, h.value, by omega⟩
    obtain rfl | rfl := hsign
    · exact readUnsigned_of_readDigits h.ne_nil hread
    · rename_i ds
      cases ds with
      | nil => exact absurd rfl h.ne_nil
      | cons c r => exact hread

/-- Hexadecimal digits are read in either case. -/
lemma readUnsigned_of_map_toLower (hcs : cs.map Char.toLower = Nat.toDigits 16 n)
    (hn : n < size) : readUnsigned 16 size cs = .ok n := by
  refine readUnsigned_of_readDigits ?_ ?_
  · rintro rfl
    exact Nat.toDigits_ne_nil hcs.symm
  · rw [← readDigits_map_toLower, hcs]
    exact readDigits_toDigits (by decide) (by decide) (by omega)

lemma readSigned_of_readDigits (hcs : cs ≠ [])
    (h : readDigits 10 (size / 2 - 1) .tooLarge 0 cs = .ok n) :
    readSigned size cs = .ok (n : Int) := by
  obtain ⟨hplus, hminus⟩ := sign_notMem_of_readDigits h
  unfold readSigned
  split
  · exact absurd rfl hcs
  · simp at hplus
  · simp at hminus
  · simp at hminus
  · simp at hplus
  · rw [h]
    rfl

lemma readSigned_minus (hcs : cs ≠ []) (h : readDigits 10 (size / 2) .tooSmall 0 cs = .ok n) :
    readSigned size ('-' :: cs) = .ok (-(n : Int)) := by
  cases cs with
  | nil => exact absurd rfl hcs
  | cons c cs =>
    rw [readSigned, h]
    · rfl
    · rintro ⟨⟩

/-- What an integer may be written as. -/
inductive Signed : Int → List Char → Prop
  | unsigned {n : Nat} {cs : List Char} (h : Unsigned n cs) : Signed n cs
  | minus {n : Nat} {ds : List Char} (h : Decimal n ds) : Signed (-n) ('-' :: ds)

/-- **Integers**: whatever an integer is written as, it is read as the integer. -/
lemma readSigned_of_signed {i : Int} (h : Signed i cs) (hlow : -(size / 2 : Nat) ≤ i)
    (hhigh : i < (size / 2 : Nat)) : readSigned size cs = .ok i := by
  have hread : ∀ {n ds} limit beyond, Decimal n ds → n ≤ limit →
      readDigits 10 limit beyond 0 ds = .ok n := fun limit beyond hds hn =>
    (readDigits_ten_eq_ok_iff (Nat.zero_le limit)).2 ⟨hds.isDigit, hds.value, hn⟩
  cases h with
  | unsigned h =>
    obtain ⟨hsign, h⟩ := h
    have hdigits := hread (size / 2 - 1) .tooLarge h (by omega)
    obtain rfl | rfl := hsign
    · exact readSigned_of_readDigits h.ne_nil hdigits
    · obtain ⟨c, r, rfl, -⟩ := h.head
      rw [List.singleton_append, readSigned, hdigits]
      · rfl
      · rintro ⟨⟩
  | minus h => exact readSigned_minus h.ne_nil (hread _ _ h (by omega))

lemma unsigned_toDigits (n : Nat) : Unsigned n (Nat.toDigits 10 n) :=
  .mk (.inl rfl) (decimal_toDigits n)

/-- The decimal text of an integer shows a sign only before a negative one. -/
lemma signed_toString (i : Int) : Signed i (toString i).toList := by
  have hlist : (toString i).toList =
      if 0 ≤ i then Nat.toDigits 10 i.toNat else '-' :: Nat.toDigits 10 (-i).toNat := by
    rw [Int.toString_eq_repr, Int.repr_eq_if]
    split <;> simp [Nat.toList_repr]
  rw [hlist]
  split
  · rename_i hpos
    have h := Signed.unsigned (unsigned_toDigits i.toNat)
    rwa [Int.toNat_of_nonneg hpos] at h
  · rename_i hneg
    have h := Signed.minus (decimal_toDigits (-i).toNat)
    rwa [Int.toNat_of_nonneg (by omega), Int.neg_neg] at h

/-- **Integers read back**: an integer is read from its decimal text. -/
lemma readSigned_toString {i : Int} (hlow : -(size / 2 : Nat) ≤ i) (hhigh : i < (size / 2 : Nat)) :
    readSigned size (toString i).toList = .ok i :=
  readSigned_of_signed (signed_toString i) hlow hhigh

/-! ### No blanks -/

lemma isBlank_of_readUnsigned (h : readUnsigned radix size cs = .ok n) :
    ∀ c ∈ cs, isBlank c = false := by
  unfold readUnsigned at h
  split at h
  · cases h
  · cases h
  · simpa using ⟨by decide, isBlank_of_readDigits h⟩
  · exact isBlank_of_readDigits h

lemma isBlank_of_readSigned {i : Int} (h : readSigned size cs = .ok i) :
    ∀ c ∈ cs, isBlank c = false := by
  have hdigits : ∀ {limit beyond ds} {f : Int → Int},
      (readDigits 10 limit beyond 0 ds >>= fun n => pure (n : Int)).map f = .ok i →
        ∀ c ∈ ds, isBlank c = false := by
    intro limit beyond ds f h
    rcases hread : readDigits 10 limit beyond 0 ds with e | n
    · rw [hread] at h
      cases h
    · exact isBlank_of_readDigits hread
  unfold readSigned at h
  split at h
  · cases h
  · cases h
  · cases h
  · simpa using ⟨by decide, hdigits h⟩
  · simpa using ⟨by decide, hdigits h⟩
  · exact hdigits h

lemma isBlank_toDigits (hradix : 1 < radix) (hle : radix ≤ 16) (n : Nat) :
    ∀ c ∈ Nat.toDigits radix n, isBlank c = false :=
  isBlank_of_readUnsigned (readUnsigned_toDigits hradix hle n.lt_succ_self)

lemma isBlank_toString (i : Int) : ∀ c ∈ (toString i).toList, isBlank c = false := by
  have hread : readSigned (2 * (i.natAbs + 1)) (toString i).toList = .ok i :=
    readSigned_toString (by omega) (by omega)
  exact isBlank_of_readSigned hread

end Offload.Text
