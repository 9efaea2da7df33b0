import Offload.Json.Stop
import Offload.Floating.Text

/-!
Numbers of a structured text.

A whole number that fits a 64-bit word is exact. Any other number becomes a double: as many
leading digits as fit a word are rounded once, and then scaled by a power of ten, which rounds
again. Readers begin at the first digit, the sign already taken.
-/

namespace Offload.Json

inductive Number
  | natural (n : Nat)
  | negative (n : Nat)
  | float (bits : Nat)
  deriving DecidableEq, Repr

def Number.found : Number → Found
  | .natural n => .integer n
  | .negative n => .integer (-(n : Int))
  | .float bits => .float (Floating.citedText .double bits)

def wordLimit : Nat := UInt64.size - 1

def digitValue (c : Char) : Nat := c.toNat - '0'.toNat

/-- Takes digits while the value fits a word: the value, how many were taken, and the rest. -/
def takeFitting (value : Nat) : List Char → Nat × Nat × List Char
  | [] => (value, 0, [])
  | c :: r =>
    if c.isDigit ∧ value * 10 + digitValue c ≤ wordLimit then
      let (v, n, t) := takeFitting (value * 10 + digitValue c) r
      (v, n + 1, t)
    else (value, 0, c :: r)

def startsWithDigit : List Char → Bool
  | c :: _ => c.isDigit
  | [] => false

/-- The magnitude of a double, times or divided by a power of ten, each result rounded. The power
is applied in one step when it is a double itself; a magnitude that vanishes stays zero. -/
def scaleByTen (bits : Nat) (exponent : Int) : Nat → Option Nat
  | 0 => some bits
  | fuel + 1 =>
    match Floating.read .double bits with
    | .finite _ m q =>
      if m = 0 then some 0
      else
        match Floating.read .double (Floating.nearest .double (Floating.tenTo (min exponent.natAbs 308)) 1) with
        | .finite _ m' q' =>
          if 0 ≤ exponent then
            let product := Floating.nearestScaled .double (m * m') (q + q')
            if 308 < exponent ∨ product = Floating.Format.double.infinity then none
            else some product
          else
            let quotient :=
              if q' ≤ q then Floating.nearest .double (m * Floating.twoTo (q - q').toNat) m'
              else Floating.nearest .double m (m' * Floating.twoTo (q' - q).toNat)
            if exponent < -308 then scaleByTen quotient (exponent + 308) fuel else some quotient
        | _ => none
    | _ => none

/-- The double of `value · 10 ^ exponent`; the rest says where a number out of range ends. -/
def double (isNegative : Bool) (value : Nat) (exponent : Int) (rest : List Char) :
    Except Stop (Number × List Char) :=
  match scaleByTen (Floating.nearest .double value 1) exponent 5 with
  | some bits => .ok (.float (Floating.withSign .double isNegative bits), rest)
  | none => stopBefore .numberOutOfRange rest

def exponentLimit : Nat := Int32.size / 2 - 1

/-- Takes the digits of an exponent while it fits its range; `none` once it does not. -/
def takeExponent (value : Nat) : List Char → Option Nat × List Char
  | [] => (some value, [])
  | c :: r =>
    if c.isDigit then
      if value * 10 + digitValue c ≤ exponentLimit then
        takeExponent (value * 10 + digitValue c) r
      else (none, r)
    else (some value, c :: r)

/-- Reads an exponent behind its letter and finishes the number. -/
def withExponent (isNegative : Bool) (value : Nat) (start : Int) (cs : List Char) :
    Except Stop (Number × List Char) :=
  let (down, digits) :=
    match cs with
    | '+' :: r => (false, r)
    | '-' :: r => (true, r)
    | r => (false, r)
  match digits with
  | [] => stopBefore .endOfValue []
  | c :: r =>
    if !c.isDigit then stopAt .invalidNumber (c :: r)
    else
      match takeExponent (digitValue c) r with
      | (some e, t) => double isNegative value (if down then start - e else start + e) t
      | (none, t) =>
        if value ≠ 0 ∧ !down then stopBefore .numberOutOfRange t
        else
          .ok (.float (Floating.withSign .double isNegative 0), t.dropWhile Char.isDigit)

/-- Finishes a number whose digits are read, with an exponent if one follows. -/
def finish (isNegative : Bool) (value : Nat) (exponent : Int) (cs : List Char) :
    Except Stop (Number × List Char) :=
  match cs with
  | c :: r =>
    if c = 'e' ∨ c = 'E' then withExponent isNegative value exponent r
    else double isNegative value exponent (c :: r)
  | [] => double isNegative value exponent []

/-- Reads a fraction behind its point; `before` digits of the whole part were left out. -/
def withFraction (isNegative : Bool) (value before : Nat) (cs : List Char) :
    Except Stop (Number × List Char) :=
  let (v, n, t) := takeFitting value cs
  if startsWithDigit t then
    finish isNegative v ((before : Int) - n) (t.dropWhile Char.isDigit)
  else if n = 0 then
    if t.isEmpty then stopBefore .endOfValue [] else stopAt .invalidNumber t
  else finish isNegative v ((before : Int) - n) t

/-- What follows the whole part, of which `left` digits were left out. -/
def afterWhole (isNegative : Bool) (value left : Nat) (exact : Bool) (cs : List Char) :
    Except Stop (Number × List Char) :=
  match cs with
  | '.' :: r => withFraction isNegative value left r
  | 'e' :: r | 'E' :: r => withExponent isNegative value left r
  | r =>
    if !exact then double isNegative value left r
    else if !isNegative then .ok (.natural value, r)
    else if value = 0 ∨ Int64.size / 2 < value then double true value 0 r
    else .ok (.negative value, r)

def number (isNegative : Bool) (cs : List Char) : Except Stop (Number × List Char) :=
  match cs with
  | [] => stopBefore .endOfValue []
  | '0' :: r =>
    if startsWithDigit r then stopAt .invalidNumber r else afterWhole isNegative 0 0 true r
  | c :: r =>
    if !c.isDigit then stopAt .invalidNumber (c :: r)
    else
      let (v, _, t) := takeFitting 0 (c :: r)
      if startsWithDigit t then
        let left := t.takeWhile Char.isDigit
        afterWhole isNegative v left.length false (t.drop left.length)
      else afterWhole isNegative v 0 true t

/-! ### Skipping -/

def skipDigits (cs : List Char) : List Char := cs.dropWhile Char.isDigit

def dropSign : List Char → List Char
  | '+' :: r | '-' :: r => r
  | r => r

def skipExponent (cs : List Char) : Except Stop (List Char) :=
  if startsWithDigit (dropSign cs) then .ok (skipDigits (dropSign cs))
  else stopAt .invalidNumber (dropSign cs)

/-- Skips what follows the digits of a number: an exponent, if one does. -/
def skipTail : List Char → Except Stop (List Char)
  | 'e' :: r | 'E' :: r => skipExponent r
  | r => .ok r

def skipFraction : List Char → Except Stop (List Char)
  | '.' :: r => if startsWithDigit r then skipTail (skipDigits r) else stopAt .invalidNumber r
  | r => skipTail r

/-- Skips a number of any size; one that breaks off is not a number. -/
def skipNumber : List Char → Except Stop (List Char)
  | '0' :: r => if startsWithDigit r then stopAt .invalidNumber r else skipFraction r
  | cs => if startsWithDigit cs then skipFraction (skipDigits cs) else stopAt .invalidNumber cs

theorem length_skipDigits_le (cs : List Char) : (skipDigits cs).length ≤ cs.length :=
  (List.dropWhile_suffix Char.isDigit).length_le

theorem length_skipDigits_lt {cs : List Char} (h : startsWithDigit cs = true) :
    (skipDigits cs).length < cs.length := by
  cases cs with
  | nil => simp [startsWithDigit] at h
  | cons c r =>
    have := length_skipDigits_le r
    simp only [startsWithDigit] at h
    simp only [skipDigits, List.dropWhile, h, List.length_cons] at this ⊢
    omega

theorem length_dropSign_le (cs : List Char) : (dropSign cs).length ≤ cs.length := by
  unfold dropSign
  split <;> simp

theorem length_skipExponent_le {cs r : List Char} (h : skipExponent cs = .ok r) :
    r.length ≤ cs.length := by
  unfold skipExponent at h
  split at h
  · have h1 := length_skipDigits_le (dropSign cs)
    have h2 := length_dropSign_le cs
    simp only [Except.ok.injEq] at h
    rw [← h]
    omega
  · simp [stopAt] at h

theorem length_skipTail_le {cs r : List Char} (h : skipTail cs = .ok r) :
    r.length ≤ cs.length := by
  unfold skipTail at h
  split at h
  · have := length_skipExponent_le h
    simp only [List.length_cons]
    omega
  · have := length_skipExponent_le h
    simp only [List.length_cons]
    omega
  · simp_all

theorem length_skipFraction_le {cs r : List Char} (h : skipFraction cs = .ok r) :
    r.length ≤ cs.length := by
  unfold skipFraction at h
  split at h
  · rename_i r'
    split at h
    · have h1 := length_skipTail_le h
      have h2 := length_skipDigits_le r'
      simp only [List.length_cons]
      omega
    · simp [stopAt] at h
  · exact length_skipTail_le h

theorem length_skipNumber_lt {cs r : List Char} (h : skipNumber cs = .ok r) :
    r.length < cs.length := by
  unfold skipNumber at h
  split at h
  · split at h
    · simp [stopAt] at h
    · have := length_skipFraction_le h
      simp only [List.length_cons]
      omega
  · split at h
    · have h1 := length_skipFraction_le h
      have h2 := length_skipDigits_lt (by assumption)
      omega
    · simp [stopAt] at h

end Offload.Json
