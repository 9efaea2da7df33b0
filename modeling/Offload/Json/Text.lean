import Offload.Json.Stop
import Offload.Text.Quoted

/-!
Quoted texts of a structured text: reading, skipping and writing.

Reading and skipping begin behind the opening quote. A text that is read must denote characters,
so surrogates come in pairs; a text that is skipped only has to be well formed.
-/

namespace Offload.Json

def hexDigit? (c : Char) : Option Nat :=
  if '0' ≤ c ∧ c ≤ '9' then some (c.toNat - '0'.toNat)
  else if 'a' ≤ c ∧ c ≤ 'f' then some (c.toNat - 'a'.toNat + 10)
  else if 'A' ≤ c ∧ c ≤ 'F' then some (c.toNat - 'A'.toNat + 10)
  else none

def hexValue? (cs : List Char) : Option Nat :=
  cs.foldlM (fun n c => (hexDigit? c).map (16 * n + ·)) 0

/-- Reads a code unit of four digits. They are taken as four bytes at once: a text too short for
them ends, whatever it holds. -/
def codeUnit (cs : List Char) : Except Stop (Nat × List Char) :=
  if (String.ofList (cs.take 4)).utf8ByteSize < 4 then stopBefore .endOfString []
  else
    match hexValue? (cs.take 4) with
    | some n => .ok (n, cs.drop 4)
    | none => .error ⟨.invalidEscape, cs, 4⟩

theorem length_codeUnit_lt {cs r : List Char} {n : Nat} (h : codeUnit cs = .ok (n, r)) :
    r.length < cs.length := by
  unfold codeUnit at h
  split at h
  · simp [stopBefore] at h
  · split at h
    · simp only [Except.ok.injEq, Prod.mk.injEq] at h
      cases cs with
      | nil => simp_all
      | cons c cs =>
        rw [← h.2]
        simp only [List.length_drop, List.length_cons]
        omega
    · simp at h

def isHighSurrogate (n : Nat) : Bool := 0xd800 ≤ n && n < 0xdc00

def isLowSurrogate (n : Nat) : Bool := 0xdc00 ≤ n && n < 0xe000

/-- Reads the second half of a pair, behind the first. -/
def secondUnit (high : Nat) (cs : List Char) : Except Stop (Char × List Char) :=
  match cs with
  | [] => stopBefore .endOfString []
  | c :: r =>
    if c ≠ '\\' then stopAt .unpairedSurrogate (c :: r)
    else
      match r with
      | [] => stopBefore .endOfString []
      | u :: r' =>
        if u ≠ 'u' then stopAt .unpairedSurrogate (u :: r')
        else do
          let (low, t) ← codeUnit r'
          if isLowSurrogate low then
            .ok (Char.ofNat (0x10000 + (high - 0xd800) * 0x400 + (low - 0xdc00)), t)
          else stopBefore .loneSurrogate t

/-- The character that a one-letter escape stands for. -/
def letterEscape? : Char → Option Char
  | '"' => some '"'
  | '\\' => some '\\'
  | '/' => some '/'
  | 'b' => some '\x08'
  | 'f' => some '\x0c'
  | 'n' => some '\n'
  | 'r' => some '\r'
  | 't' => some '\t'
  | _ => none

/-- Reads an escape behind its backslash. -/
def escape (cs : List Char) : Except Stop (Char × List Char) :=
  match cs with
  | [] => stopBefore .endOfString []
  | c :: r =>
    match letterEscape? c with
    | some d => .ok (d, r)
    | none =>
      if c ≠ 'u' then stopAt .invalidEscape (c :: r)
      else do
        let (n, t) ← codeUnit r
        if isLowSurrogate n then stopBefore .loneSurrogate t
        else if isHighSurrogate n then secondUnit n t
        else .ok (Char.ofNat n, t)

theorem length_secondUnit_lt {high : Nat} {cs r : List Char} {c : Char}
    (h : secondUnit high cs = .ok (c, r)) : r.length < cs.length := by
  unfold secondUnit at h
  split at h
  · simp [stopBefore] at h
  · split at h
    · simp [stopAt] at h
    · split at h
      · simp [stopBefore] at h
      · split at h
        · simp [stopAt] at h
        · rename_i u r' _
          cases hu : codeUnit r' with
          | error e => simp [hu, bind, Except.bind] at h
          | ok p =>
            obtain ⟨low, t⟩ := p
            have := length_codeUnit_lt hu
            simp only [hu, bind, Except.bind] at h
            split at h
            · simp only [Except.ok.injEq, Prod.mk.injEq] at h
              simp only [← h.2, List.length_cons]
              omega
            · simp [stopBefore] at h

theorem length_escape_lt {cs r : List Char} {c : Char} (h : escape cs = .ok (c, r)) :
    r.length < cs.length := by
  unfold escape at h
  split at h
  · simp [stopBefore] at h
  · rename_i d rest
    split at h
    · simp only [Except.ok.injEq, Prod.mk.injEq] at h
      simp [h.2]
    · split at h
      · simp [stopAt] at h
      · cases hu : codeUnit rest with
        | error e => simp [hu, bind, Except.bind] at h
        | ok p =>
          obtain ⟨n, t⟩ := p
          have := length_codeUnit_lt hu
          simp only [hu, bind, Except.bind] at h
          split at h
          · simp [stopBefore] at h
          · split at h
            · have := length_secondUnit_lt h
              simp only [List.length_cons]
              omega
            · simp only [Except.ok.injEq, Prod.mk.injEq] at h
              simp only [← h.2, List.length_cons]
              omega

/-- Reads a text up to its closing quote. -/
def string (cs : List Char) : Except Stop (List Char × List Char) :=
  match cs with
  | [] => stopBefore .endOfString []
  | c :: r =>
    if c = '"' then .ok ([], r)
    else if c = '\\' then
      match _h : escape r with
      | .error e => .error e
      | .ok (d, t) => (string t).map fun (s, u) => (d :: s, u)
    else if c.toNat < 0x20 then stopAt .controlCharacter (c :: r)
    else (string r).map fun (s, u) => (c :: s, u)
  termination_by cs.length
  decreasing_by
    · have := length_escape_lt _h
      simp only [List.length_cons]
      omega
    · simp

/-- Skips an escape behind its backslash. -/
def skipEscape (cs : List Char) : Except Stop (List Char) :=
  match cs with
  | [] => stopBefore .endOfString []
  | c :: r =>
    if (letterEscape? c).isSome then .ok r
    else if c = 'u' then (codeUnit r).map (·.2)
    else stopAt .invalidEscape (c :: r)

theorem length_skipEscape_lt {cs r : List Char} (h : skipEscape cs = .ok r) :
    r.length < cs.length := by
  unfold skipEscape at h
  split at h
  · simp [stopBefore] at h
  · rename_i c rest
    split at h
    · simp_all
    · split at h
      · cases hu : codeUnit rest with
        | error e => simp [hu, Except.map] at h
        | ok p =>
          have := length_codeUnit_lt hu
          simp only [hu, Except.map, Except.ok.injEq] at h
          simp only [← h, List.length_cons]
          omega
      · simp [stopAt] at h

/-- Skips a text up to its closing quote. A control character that stops it is not counted. -/
def skipString (cs : List Char) : Except Stop (List Char) :=
  match cs with
  | [] => stopBefore .endOfString []
  | c :: r =>
    if c = '"' then .ok r
    else if c = '\\' then
      match _h : skipEscape r with
      | .error e => .error e
      | .ok t => skipString t
    else if c.toNat < 0x20 then stopBefore .controlCharacter (c :: r)
    else skipString r
  termination_by cs.length
  decreasing_by
    · have := length_skipEscape_lt _h
      simp only [List.length_cons]
      omega
    · simp

theorem length_skipString_lt {cs r : List Char} (h : skipString cs = .ok r) :
    r.length < cs.length := by
  fun_induction skipString cs with
  | case1 => simp [stopBefore] at h
  | case2 => simp_all
  | case3 => simp at h
  | case4 r' t' he _ ih =>
    have h1 := ih h
    have h2 := length_skipEscape_lt he
    simp only [List.length_cons]
    omega
  | case5 => simp [stopBefore] at h
  | case6 c r' _ _ _ ih =>
    have h1 := ih h
    simp only [List.length_cons]
    omega

/-- A control character without a letter of its own, as four hexadecimal digits. -/
def fourDigits (n : Nat) : List Char :=
  List.replicate (4 - (Text.lowerHex n).length) '0' ++ Text.lowerHex n

def escaped (c : Char) : List Char :=
  match c with
  | '"' => ['\\', '"']
  | '\\' => ['\\', '\\']
  | '\x08' => ['\\', 'b']
  | '\x0c' => ['\\', 'f']
  | '\n' => ['\\', 'n']
  | '\r' => ['\\', 'r']
  | '\t' => ['\\', 't']
  | _ => if c.toNat < 0x20 then '\\' :: 'u' :: fourDigits c.toNat else [c]

/-- The text between quotes. -/
def renderString (s : List Char) : List Char := '"' :: s.flatMap escaped ++ ['"']

end Offload.Json
