import Offload.Proofs.Json.Grammar

/-!
Quoted texts: whatever the grammar allows for a text is read as that text, and skipped, in front of
anything that follows it.

Readers take the characters one by one, so that it is enough to see how they take what is written
for one of them: plain, by its letter, or by its numbers. What the writer puts is one such spelling.
-/

namespace Offload.Json

/-! ### One step of the readers -/

@[simp] lemma string_quote (r : List Char) : string ('"' :: r) = .ok ([], r) := by
  rw [string, if_pos rfl]

lemma string_of_escape {r t : List Char} {d : Char} (h : escape r = .ok (d, t)) :
    string ('\\' :: r) = (string t).map fun (s, u) => (d :: s, u) := by
  rw [string, if_neg (by decide), if_pos rfl]
  split
  · rename_i e he
    simp [h] at he
  · rename_i d' t' he
    obtain ⟨rfl, rfl⟩ := Prod.mk.inj (Except.ok.inj (h.symm.trans he))
    rfl

lemma string_of_plain {c : Char} (hquote : c ≠ '"') (hback : c ≠ '\\') (hplain : ¬ c.toNat < 0x20)
    (r : List Char) : string (c :: r) = (string r).map fun (s, u) => (c :: s, u) := by
  rw [string, if_neg hquote, if_neg hback, if_neg hplain]

@[simp] lemma skipString_quote (r : List Char) : skipString ('"' :: r) = .ok r := by
  rw [skipString, if_pos rfl]

lemma skipString_of_escape {r t : List Char} (h : skipEscape r = .ok t) :
    skipString ('\\' :: r) = skipString t := by
  rw [skipString, if_neg (by decide), if_pos rfl]
  split
  · rename_i e he
    simp [h] at he
  · rename_i t' he
    obtain rfl := Except.ok.inj (h.symm.trans he)
    rfl

lemma skipString_of_plain {c : Char} (hquote : c ≠ '"') (hback : c ≠ '\\')
    (hplain : ¬ c.toNat < 0x20) (r : List Char) : skipString (c :: r) = skipString r := by
  rw [skipString, if_neg hquote, if_neg hback, if_neg hplain]

/-! ### Numbers of code units -/

lemma hexDigit?_eq_digit? (c : Char) : hexDigit? c = Text.digit? 16 c := by
  have hle : ∀ {a b : Char}, a ≤ b ↔ a.toNat ≤ b.toNat := fun {a b} => UInt32.le_iff_toNat_le
  unfold hexDigit? Text.digit?
  simp only [hle, Char.reduceToNat]
  split
  · rw [if_pos (by omega)]
  split
  · rw [if_pos (by omega)]
  split
  · rw [if_pos (by omega)]
  · rw [if_neg (by omega)]

lemma hexValue?_of_readDigits {cs : List Char} {limit acc n : Nat} {beyond : Text.IntegerFault}
    (h : Text.readDigits 16 limit beyond acc cs = .ok n) :
    cs.foldlM (fun n c => (hexDigit? c).map (16 * n + ·)) acc = some n := by
  induction cs generalizing acc with
  | nil =>
    rw [Text.readDigits_nil, Except.ok.injEq] at h
    rw [List.foldlM_nil, h]
    rfl
  | cons c cs ih =>
    rw [Text.readDigits] at h
    rw [List.foldlM_cons, hexDigit?_eq_digit?]
    rcases hc : Text.digit? 16 c with _ | d
    · rw [hc] at h
      cases h
    · simp only [hc] at h
      split at h
      · rw [Nat.mul_comm] at h
        exact ih h
      · cases h

variable {n : Nat} {ds : List Char}

lemma HexUnit.hexValue? (h : HexUnit n ds) : hexValue? ds = some n := by
  obtain ⟨-, zeros, hds⟩ := h
  have hread : Text.readDigits 16 n .tooLarge 0 ds = .ok n := by
    rw [← Text.readDigits_map_toLower, hds, Text.readDigits_zeros (by decide)]
    exact Text.readDigits_toDigits (by decide) (by decide) (Nat.le_refl n)
  exact hexValue?_of_readDigits hread

lemma length_le_utf8ByteSize (cs : List Char) : cs.length ≤ (String.ofList cs).utf8ByteSize := by
  induction cs with
  | nil => exact Nat.zero_le _
  | cons c cs ih =>
    have hc : 0 < c.utf8Size := c.utf8Size_pos
    have hsize : (String.ofList (c :: cs)).utf8ByteSize =
        c.utf8Size + (String.ofList cs).utf8ByteSize := by
      simp [String.ofList_cons]
    simp only [List.length_cons]
    omega

lemma codeUnit_append (h : HexUnit n ds) (r : List Char) : codeUnit (ds ++ r) = .ok (n, r) := by
  have htake : (ds ++ r).take 4 = ds := List.take_left' h.length_eq
  have hdrop : (ds ++ r).drop 4 = r := List.drop_left' h.length_eq
  have hsize : ¬ (String.ofList ds).utf8ByteSize < 4 := by
    have hlen := length_le_utf8ByteSize ds
    rw [h.length_eq] at hlen
    exact Nat.not_lt.2 hlen
  rw [codeUnit, htake, hdrop, h.hexValue?, if_neg hsize]


/-! ### Spelled characters -/

/-- A character is no surrogate and has at most 21 bits. -/
lemma toNat_char (c : Char) : c.toNat < 0xd800 ∨ 0xdfff < c.toNat ∧ c.toNat < 0x110000 := c.valid

lemma letterEscape?_of_mem {x c : Char} (h : (x, c) ∈ letterEscapes) :
    letterEscape? x = some c := by
  have hall : ∀ p ∈ letterEscapes, letterEscape? p.1 = some p.2 := by decide
  exact hall (x, c) h

lemma escape_unit {c : Char} (h : HexUnit c.toNat ds) (r : List Char) :
    escape ('u' :: ds ++ r) = .ok (c, r) := by
  have hlow : isLowSurrogate c.toNat = false := by
    have := toNat_char c
    simp only [isLowSurrogate, Bool.and_eq_false_iff, decide_eq_false_iff_not]
    omega
  have hhigh : isHighSurrogate c.toNat = false := by
    have := toNat_char c
    simp only [isHighSurrogate, Bool.and_eq_false_iff, decide_eq_false_iff_not]
    omega
  have hletter : letterEscape? 'u' = none := by decide
  simp only [List.cons_append, escape, hletter, ne_eq, not_true, if_false, bind, Except.bind,
    codeUnit_append h, hlow, hhigh, Bool.false_eq_true, Char.ofNat_toNat]

lemma escape_pair {c : Char} {high low : List Char} (hwide : 0x10000 ≤ c.toNat)
    (hhigh : HexUnit (0xd800 + (c.toNat - 0x10000) / 0x400) high)
    (hlow : HexUnit (0xdc00 + (c.toNat - 0x10000) % 0x400) low) (r : List Char) :
    escape ('u' :: high ++ ('\\' :: 'u' :: low ++ r)) = .ok (c, r) := by
  have hc := toNat_char c
  have hnot : isLowSurrogate (0xd800 + (c.toNat - 0x10000) / 0x400) = false := by
    simp only [isLowSurrogate, Bool.and_eq_false_iff, decide_eq_false_iff_not]
    omega
  have hfirst : isHighSurrogate (0xd800 + (c.toNat - 0x10000) / 0x400) = true := by
    simp only [isHighSurrogate, Bool.and_eq_true, decide_eq_true_eq]
    omega
  have hsecond : isLowSurrogate (0xdc00 + (c.toNat - 0x10000) % 0x400) = true := by
    simp only [isLowSurrogate, Bool.and_eq_true, decide_eq_true_eq]
    omega
  have hletter : letterEscape? 'u' = none := by decide
  have hvalue : 0x10000 + (0xd800 + (c.toNat - 0x10000) / 0x400 - 0xd800) * 0x400 +
      (0xdc00 + (c.toNat - 0x10000) % 0x400 - 0xdc00) = c.toNat := by omega
  simp only [List.cons_append, escape, hletter, ne_eq, not_true, if_false, bind, Except.bind,
    codeUnit_append hhigh, hnot, hfirst, Bool.false_eq_true, if_true, secondUnit,
    codeUnit_append hlow, hsecond, hvalue, Char.ofNat_toNat]

lemma skipEscape_unit (h : HexUnit n ds) (r : List Char) :
    skipEscape ('u' :: ds ++ r) = .ok r := by
  have hletter : letterEscape? 'u' = none := by decide
  simp only [List.cons_append, skipEscape, hletter, codeUnit_append h]
  rfl

variable {c : Char} {s cs : List Char}

/-- **One character**: whatever is written for it is read as the character. -/
lemma SpelledChar.string (h : SpelledChar c cs) (r : List Char) :
    string (cs ++ r) = (string r).map fun (s, u) => (c :: s, u) := by
  cases h with
  | plain hprints hquote hback => exact string_of_plain hquote hback (Nat.not_lt.2 hprints) r
  | letter h =>
    refine string_of_escape (r := _ :: r) ?_
    simp only [escape, letterEscape?_of_mem h]
  | unit h => exact string_of_escape (escape_unit h r)
  | pair hwide hhigh hlow =>
    rw [List.append_assoc]
    exact string_of_escape (escape_pair hwide hhigh hlow r)

lemma SpelledChar.skipString (h : SpelledChar c cs) (r : List Char) :
    skipString (cs ++ r) = skipString r := by
  cases h with
  | plain hprints hquote hback => exact skipString_of_plain hquote hback (Nat.not_lt.2 hprints) r
  | letter h =>
    refine skipString_of_escape (r := _ :: r) ?_
    simp only [skipEscape, letterEscape?_of_mem h, Option.isSome_some, if_true]
  | unit h => exact skipString_of_escape (skipEscape_unit h r)
  | pair _ hhigh hlow =>
    rw [List.append_assoc]
    exact (skipString_of_escape (skipEscape_unit hhigh _)).trans
      (skipString_of_escape (skipEscape_unit hlow r))

/-- **Texts**: whatever is written between quotes for a text is read as the text, in front of any
rest. -/
lemma Spelled.string (h : Spelled s cs) (r : List Char) :
    string (cs ++ '"' :: r) = .ok (s, r) := by
  induction h with
  | nil => exact string_quote r
  | cons hc _ ih =>
    rw [List.append_assoc, hc.string, ih]
    rfl

lemma Spelled.skipString (h : Spelled s cs) (r : List Char) :
    skipString (cs ++ '"' :: r) = .ok r := by
  induction h with
  | nil => exact skipString_quote r
  | cons hc _ ih => rw [List.append_assoc, hc.skipString, ih]

lemma Spelled.append {s' ds : List Char} (h : Spelled s cs) (h' : Spelled s' ds) :
    Spelled (s ++ s') (cs ++ ds) := by
  induction h with
  | nil => exact h'
  | cons hc _ ih =>
    rw [List.append_assoc]
    exact .cons hc ih

/-! ### Written texts -/

lemma fourDigits_unit : ∀ n < 0x20, HexUnit n (fourDigits n) := by
  have hall : ∀ n < 0x20, (fourDigits n).length = 4 ∧
      (fourDigits n).map Char.toLower = fourDigits n := by decide +kernel
  intro n hn
  obtain ⟨hlength, hlower⟩ := hall n hn
  exact ⟨hlength, _, hlower⟩

lemma escaped_spelled (c : Char) : SpelledChar c (escaped c) := by
  unfold escaped
  split
  · exact .letter (by decide)
  · exact .letter (by decide)
  · exact .letter (by decide)
  · exact .letter (by decide)
  · exact .letter (by decide)
  · exact .letter (by decide)
  · exact .letter (by decide)
  · rename_i hquote hback _ _ _ _ _
    split
    · rename_i hcontrol
      exact .unit (fourDigits_unit c.toNat hcontrol)
    · rename_i hplain
      exact .plain (Nat.not_lt.1 hplain) hquote hback

lemma flatMap_escaped_spelled (s : List Char) : Spelled s (s.flatMap escaped) := by
  induction s with
  | nil => exact .nil
  | cons c s ih => exact .cons (escaped_spelled c) ih

lemma stringText_render (s : List Char) : StringText s (renderString s) :=
  .mk (flatMap_escaped_spelled s)

end Offload.Json
