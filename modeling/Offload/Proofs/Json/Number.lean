import Offload.Proofs.Json.Grammar

/-!
Numbers: the decimal digits of a natural number that fits a word are read as the number, those of a
larger one never as a natural number, and a number of any kind is skipped, in front of anything
that does not continue it.
-/

namespace Offload.Json

open Text

/-- What can follow a whole number without continuing it. -/
def EndsNumber (rest : List Char) : Prop :=
  ∀ c, rest.head? = some c → c.isDigit = false ∧ c ≠ '.' ∧ c ≠ 'e' ∧ c ≠ 'E'

variable {rest : List Char}

lemma EndsNumber.startsWithDigit (h : EndsNumber rest) : startsWithDigit rest = false := by
  cases rest with
  | nil => rfl
  | cons c r => exact (h c rfl).1

lemma EndsNumber.afterWhole (h : EndsNumber rest) (n : Nat) :
    afterWhole false n 0 true rest = .ok (.natural n, rest) := by
  unfold Json.afterWhole
  split
  · exact absurd rfl (h _ rfl).2.1
  · exact absurd rfl (h _ rfl).2.2.1
  · exact absurd rfl (h _ rfl).2.2.2
  · simp

/-! ### Digits -/

/-- Digits whose value fits a word are taken, and no more than they. -/
lemma takeFitting_append {ds : List Char} (hds : ∀ c ∈ ds, c.isDigit = true)
    (hrest : startsWithDigit rest = false) {v : Nat} (hfit : Nat.ofDigitChars 10 ds v ≤ wordLimit) :
    takeFitting v (ds ++ rest) = (Nat.ofDigitChars 10 ds v, ds.length, rest) := by
  induction ds generalizing v with
  | nil =>
    cases rest with
    | nil => rfl
    | cons c r =>
      have hc : c.isDigit = false := hrest
      simp [takeFitting, hc]
  | cons c ds ih =>
    have hnext : v * 10 + digitValue c = 10 * v + (c.toNat - '0'.toNat) := by
      rw [digitValue, Nat.mul_comm]
    rw [Nat.ofDigitChars_cons] at hfit ⊢
    have hle : v * 10 + digitValue c ≤ wordLimit := by
      have hgrow := le_ofDigitChars ds (10 * v + (c.toNat - '0'.toNat))
      omega
    rw [List.cons_append, takeFitting, if_pos ⟨hds c (by simp), hle⟩, hnext,
      ih (fun x hx => hds x (List.mem_cons_of_mem c hx)) hfit]
    rfl

/-- Digits whose value does not fit a word are not all taken. -/
lemma takeFitting_beyond {ds : List Char} (hds : ∀ c ∈ ds, c.isDigit = true) {v : Nat}
    (hv : v ≤ wordLimit) (hbeyond : wordLimit < Nat.ofDigitChars 10 ds v) (rest : List Char) :
    ∃ u taken left, takeFitting v (ds ++ rest) = (u, taken, left ++ rest) ∧ Digits left := by
  induction ds generalizing v with
  | nil =>
    rw [Nat.ofDigitChars_nil] at hbeyond
    omega
  | cons c ds ih =>
    have hc : c.isDigit = true := hds c (by simp)
    have hnext : v * 10 + digitValue c = 10 * v + (c.toNat - '0'.toNat) := by
      rw [digitValue, Nat.mul_comm]
    rw [Nat.ofDigitChars_cons, ← hnext] at hbeyond
    rw [List.cons_append, takeFitting]
    by_cases hfits : v * 10 + digitValue c ≤ wordLimit
    · obtain ⟨u, taken, left, htake, hleft⟩ :=
        ih (fun x hx => hds x (List.mem_cons_of_mem c hx)) hfits hbeyond
      exact ⟨u, taken + 1, left, by rw [if_pos ⟨hc, hfits⟩, htake], hleft⟩
    · exact ⟨v, 0, c :: ds, if_neg fun h => hfits h.2, by simp, hds⟩

lemma digitChar_ne_zero {d : Nat} (hpos : 0 < d) (hlt : d < 10) : d.digitChar ≠ '0' := by
  intro h
  have hnat := Nat.toNat_digitChar_of_lt_ten hlt
  rw [h] at hnat
  change 48 = 48 + d at hnat
  omega

/-- A positive number is written without a leading zero. -/
lemma head?_toDigits_ne_zero {n : Nat} (hn : 0 < n) : (Nat.toDigits 10 n).head? ≠ some '0' := by
  induction n using Nat.strongRecOn with
  | ind n ih =>
    rw [Nat.toDigits_eq_if (by decide)]
    split
    · rename_i hlt
      intro h
      exact digitChar_ne_zero hn hlt (Option.some.inj h)
    · rename_i hge
      obtain ⟨c, ds, hds⟩ :=
        List.exists_cons_of_ne_nil (Nat.toDigits_ne_nil (n := n / 10) (b := 10))
      have hhead := ih (n / 10) (by omega) (by omega)
      rw [hds] at hhead ⊢
      exact hhead

lemma wholeText_toDigits (n : Nat) : WholeText n (Nat.toDigits 10 n) := by
  refine ⟨decimal_toDigits n, fun hzero => ?_⟩
  rcases Nat.eq_zero_or_pos n with rfl | hpos
  · rfl
  · exact absurd hzero (head?_toDigits_ne_zero hpos)

/-! ### Reading -/

variable {n : Nat} {ds : List Char}

lemma startsWithDigit_append (h : Digits ds) (rest : List Char) :
    startsWithDigit (ds ++ rest) = true := by
  obtain ⟨c, r, rfl, hc⟩ := h.head
  exact hc

/-- Behind a zero that begins a number there are no digits. -/
lemma WholeText.eq_zero_or (h : WholeText n ds) :
    (ds = ['0'] ∧ n = 0) ∨ ∃ c r, ds = c :: r ∧ c ≠ '0' ∧ c.isDigit = true := by
  obtain ⟨c, r, rfl, hc⟩ := h.head
  by_cases hzero : c = '0'
  · have hds := h.zero (by rw [hzero]; rfl)
    exact .inl ⟨hds, by rw [← h.value, hds]; rfl⟩
  · exact .inr ⟨c, r, rfl, hzero, hc⟩

/-- A number that begins with a digit other than zero is read as far as it fits a word. -/
lemma number_of_ne_zero {c : Char} {r : List Char} (hc : c.isDigit = true) (hzero : c ≠ '0') :
    number false (c :: r) =
      let (v, _, t) := takeFitting 0 (c :: r)
      if startsWithDigit t then
        let left := t.takeWhile Char.isDigit
        afterWhole false v left.length false (t.drop left.length)
      else afterWhole false v 0 true t := by
  unfold number
  split
  · rename_i heq
    cases heq
  · rename_i heq
    exact absurd (List.cons.inj heq).1 hzero
  · rename_i heq
    obtain ⟨rfl, rfl⟩ := List.cons.inj heq
    rw [hc]
    rfl

/-- **Numbers read back**: the digits of a number are read as the number, whatever ends it. -/
lemma WholeText.number (h : WholeText n ds) (hn : n ≤ wordLimit) (hrest : EndsNumber rest) :
    number false (ds ++ rest) = .ok (.natural n, rest) := by
  obtain ⟨rfl, rfl⟩ | ⟨c, r, rfl, hzero, hc⟩ := h.eq_zero_or
  · change (if Json.startsWithDigit rest then _ else _) = _
    rw [hrest.startsWithDigit]
    exact hrest.afterWhole 0
  · have htake := takeFitting_append (v := 0) h.isDigit hrest.startsWithDigit
      (by rw [h.value]; exact hn)
    rw [h.value, List.cons_append] at htake
    rw [List.cons_append, number_of_ne_zero hc hzero, htake]
    simp only [hrest.startsWithDigit, Bool.false_eq_true, if_false]
    exact hrest.afterWhole n

/-- A number whose digits were not all taken is a double, if it is anything. -/
lemma EndsNumber.afterWhole_inexact (h : EndsNumber rest) (v left : Nat) :
    Json.afterWhole false v left false rest = double false v left rest := by
  unfold Json.afterWhole
  split
  · exact absurd rfl (h _ rfl).2.1
  · exact absurd rfl (h _ rfl).2.2.1
  · exact absurd rfl (h _ rfl).2.2.2
  · rfl

/-- The digits of a number that fits no word are not read as a natural number. -/
lemma WholeText.number_beyond (h : WholeText n ds) (hn : wordLimit < n)
    (hrest : EndsNumber rest) : ∃ v left,
      Json.number false (ds ++ rest) = double false v left rest := by
  obtain ⟨-, rfl⟩ | ⟨c, r, rfl, hzero, hc⟩ := h.eq_zero_or
  · exact absurd hn (Nat.not_lt_zero _)
  · obtain ⟨v, taken, left, htake, hleft⟩ := takeFitting_beyond (v := 0) h.isDigit
      (Nat.zero_le _) (by rw [h.value]; exact hn) rest
    have hrun : (left ++ rest).takeWhile Char.isDigit = left := by
      rw [List.takeWhile_append_of_pos hleft.isDigit]
      cases rest with
      | nil => simp
      | cons x rest => simp [(hrest x rfl).1]
    rw [List.cons_append] at htake ⊢
    refine ⟨v, left.length, ?_⟩
    rw [number_of_ne_zero hc hzero, htake]
    simp only [startsWithDigit_append hleft, if_true, hrun, List.drop_left]
    exact hrest.afterWhole_inexact v left.length

/-! ### Skipping -/

lemma skipDigits_append (hds : ∀ c ∈ ds, c.isDigit = true) (hrest : startsWithDigit rest = false) :
    skipDigits (ds ++ rest) = rest := by
  rw [skipDigits, List.dropWhile_append_of_pos hds]
  cases rest with
  | nil => rfl
  | cons c r => exact List.dropWhile_cons_of_neg (by simpa [startsWithDigit] using hrest)

lemma dropSign_append {sign : List Char} (hsign : sign = [] ∨ sign = ['+'] ∨ sign = ['-'])
    (h : Digits ds) : dropSign (sign ++ (ds ++ rest)) = ds ++ rest := by
  obtain rfl | rfl | rfl := hsign
  · obtain ⟨c, r, rfl, hc⟩ := h.head
    unfold dropSign
    split
    · rename_i heq
      obtain ⟨rfl, -⟩ := List.cons.inj heq
      cases hc
    · rename_i heq
      obtain ⟨rfl, -⟩ := List.cons.inj heq
      cases hc
    · rfl
  · rfl
  · rfl

lemma skipTail_exponent {exponent : List Char} (h : ExponentText exponent)
    (hrest : EndsNumber rest) : skipTail (exponent ++ rest) = .ok rest := by
  cases h with
  | absent =>
    unfold skipTail
    rw [List.nil_append]
    split
    · exact absurd rfl (hrest _ rfl).2.2.1
    · exact absurd rfl (hrest _ rfl).2.2.2
    · rfl
  | @present e sign ds he hsign h =>
    have hexponent : skipExponent (sign ++ (ds ++ rest)) = .ok rest := by
      rw [skipExponent, dropSign_append hsign h, startsWithDigit_append h, if_pos rfl,
        skipDigits_append h.isDigit hrest.startsWithDigit]
    rw [List.cons_append, List.append_assoc]
    obtain rfl | rfl := he
    · exact hexponent
    · exact hexponent

/-- Neither an exponent nor what ends a number continues its digits or begins a fraction. -/
lemma ExponentText.head {exponent : List Char} (h : ExponentText exponent)
    (hrest : EndsNumber rest) {c : Char} (hc : (exponent ++ rest).head? = some c) :
    c.isDigit = false ∧ c ≠ '.' := by
  cases h with
  | absent => exact ⟨(hrest c hc).1, (hrest c hc).2.1⟩
  | present he =>
    obtain rfl := Option.some.inj hc
    obtain rfl | rfl := he
    · decide
    · decide

lemma startsWithDigit_of_head {cs : List Char} (h : ∀ c, cs.head? = some c → c.isDigit = false) :
    startsWithDigit cs = false := by
  cases cs with
  | nil => rfl
  | cons c r => exact h c rfl

lemma skipFraction_append {fraction exponent : List Char} (h : FractionText fraction)
    (he : ExponentText exponent) (hrest : EndsNumber rest) :
    skipFraction (fraction ++ (exponent ++ rest)) = .ok rest := by
  cases h with
  | absent =>
    unfold skipFraction
    rw [List.nil_append]
    split
    · rename_i heq
      exact absurd rfl (he.head hrest (by rw [heq]; rfl)).2
    · exact skipTail_exponent he hrest
  | @present ds h =>
    have hstop : startsWithDigit (exponent ++ rest) = false :=
      startsWithDigit_of_head fun c hc => (he.head hrest hc).1
    rw [List.cons_append, skipFraction, startsWithDigit_append h, if_pos rfl,
      skipDigits_append h.isDigit hstop]
    exact skipTail_exponent he hrest

/-- **Numbers skipped**: a number without its sign, in front of whatever ends it. -/
lemma skipNumber_append {fraction exponent : List Char} (h : WholeText n ds)
    (hf : FractionText fraction) (he : ExponentText exponent) (hrest : EndsNumber rest) :
    skipNumber (ds ++ (fraction ++ (exponent ++ rest))) = .ok rest := by
  have hfraction := skipFraction_append hf he hrest
  have hstop : startsWithDigit (fraction ++ (exponent ++ rest)) = false := by
    cases hf with
    | absent => exact startsWithDigit_of_head fun c hc => (he.head hrest hc).1
    | present => rfl
  obtain ⟨rfl, -⟩ | ⟨c, r, rfl, hzero, hc⟩ := h.eq_zero_or
  · change (if startsWithDigit (fraction ++ (exponent ++ rest)) then _ else _) = _
    rw [hstop]
    exact hfraction
  · have hskip := skipDigits_append h.isDigit hstop
    rw [List.cons_append] at hskip ⊢
    unfold skipNumber
    split
    · rename_i heq
      exact absurd (List.cons.inj heq).1 hzero
    · rw [hskip]
      exact (if_pos hc).trans hfraction

end Offload.Json
