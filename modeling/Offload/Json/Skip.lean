import Offload.Json.Text
import Offload.Json.Number

/-!
Skipping a value of any shape and depth.

The open brackets are kept on a stack, so that a value is one scan from left to right. The scan
expects a value, a key, or what may follow an opening bracket or a finished element.
-/

namespace Offload.Json

inductive Bracket
  | list
  | object
  deriving DecidableEq, Repr

def Bracket.closing : Bracket → Char
  | .list => ']'
  | .object => '\x7d'

def Bracket.unfinished : Bracket → Reason
  | .list => .endOfList
  | .object => .endOfObject

def Bracket.expectedComma : Bracket → Reason
  | .list => .expectedListComma
  | .object => .expectedObjectComma

inductive Expecting
  | value
  | key
  /-- What follows the opening of the innermost bracket. -/
  | first
  /-- What follows an element of the innermost bracket. -/
  | more
  deriving DecidableEq, Repr

/-- The expectation of one element within a bracket. -/
def Bracket.element : Bracket → Expecting
  | .list => .value
  | .object => .key

/-- Orders the expectations that succeed each other without reading. -/
def Expecting.rank : Expecting → Nat
  | .value => 0
  | .key => 0
  | .first => 1
  | .more => 1

/-- Skips a value that opens no bracket, at its first character. -/
def skipScalar (cs : List Char) : Except Stop (List Char) :=
  match cs with
  | [] => stopBefore .endOfValue []
  | c :: r =>
    if c = 'n' then word ['u', 'l', 'l'] r
    else if c = 't' then word ['r', 'u', 'e'] r
    else if c = 'f' then word ['a', 'l', 's', 'e'] r
    else if c = '-' then skipNumber r
    else if c.isDigit then skipNumber (c :: r)
    else if c = '"' then skipString r
    else stopAt .expectedValue (c :: r)

theorem length_skipScalar_lt {cs r : List Char} (h : skipScalar cs = .ok r) :
    r.length < cs.length := by
  unfold skipScalar at h
  split at h
  · simp [stopBefore] at h
  · rename_i c r'
    simp only [List.length_cons]
    repeat' split at h
    · exact Nat.lt_succ_of_le (length_word_le h)
    · exact Nat.lt_succ_of_le (length_word_le h)
    · exact Nat.lt_succ_of_le (length_word_le h)
    · have := length_skipNumber_lt h
      omega
    · simpa using length_skipNumber_lt h
    · have := length_skipString_lt h
      omega
    · simp [stopAt] at h

/-- The colon between a key and its value. -/
def colon (cs : List Char) : Except Stop (List Char) :=
  match skipSpace cs with
  | [] => stopBefore .endOfObject []
  | c :: r => if c = ':' then .ok r else stopAt .expectedColon (c :: r)

theorem length_colon_lt {cs r : List Char} (h : colon cs = .ok r) : r.length < cs.length := by
  unfold colon at h
  have hs := length_skipSpace_le cs
  split at h
  · simp [stopBefore] at h
  · rename_i heq
    rw [heq] at hs
    split at h
    · simp only [Except.ok.injEq] at h
      simp only [List.length_cons] at hs
      rw [← h]
      omega
    · simp [stopAt] at h

/-- Skips a key and its colon, at the key's quote. -/
def skipKey (cs : List Char) : Except Stop (List Char) :=
  match cs with
  | [] => stopBefore .endOfObject []
  | c :: r => if c = '"' then (skipString r).bind colon else stopAt .keyNotString (c :: r)

theorem length_skipKey_lt {cs r : List Char} (h : skipKey cs = .ok r) :
    r.length < cs.length := by
  unfold skipKey at h
  split at h
  · simp [stopBefore] at h
  · split at h
    · rename_i r' _
      cases hs : skipString r' with
      | error e => simp [hs, Except.bind] at h
      | ok t =>
        rw [hs] at h
        have h1 := length_skipString_lt hs
        have h2 : r.length < t.length := length_colon_lt h
        simp only [List.length_cons]
        omega
    · simp [stopAt] at h

/-- Skips from an expectation to the end of the outermost value. `stack` holds the brackets not
yet closed, the innermost first. -/
def skipFrom (expecting : Expecting) (stack : List Bracket) (cs : List Char) :
    Except Stop (List Char) :=
  match expecting, stack, _h : skipSpace cs with
  | .value, stack, '[' :: r => skipFrom .first (.list :: stack) r
  | .value, stack, '\x7b' :: r => skipFrom .first (.object :: stack) r
  | .value, stack, scalar =>
    match _hs : skipScalar scalar with
    | .error e => .error e
    | .ok t => if stack = [] then .ok t else skipFrom .more stack t
  | .key, stack, key =>
    match _hk : skipKey key with
    | .error e => .error e
    | .ok t => skipFrom .value stack t
  | _, [], rest => .ok rest
  | _, b :: _, [] => stopBefore b.unfinished []
  | .first, b :: outer, c :: r =>
    if c = b.closing then
      if outer = [] then .ok r else skipFrom .more outer r
    else skipFrom b.element (b :: outer) (c :: r)
  | .more, b :: outer, c :: r =>
    if c = ',' then skipFrom b.element (b :: outer) r
    else if c = b.closing then
      if outer = [] then .ok r else skipFrom .more outer r
    else stopAt b.expectedComma (c :: r)
  termination_by (cs.length, expecting.rank)
  decreasing_by
    all_goals
      have hspace := length_skipSpace_le cs
      try rw [_h] at hspace
      try have hscalar := length_skipScalar_lt _hs
      try have hkey := length_skipKey_lt _hk
      try simp only [List.length_cons] at hspace
      try simp only [List.length_cons]
      first
        | exact Prod.Lex.left _ _ (by omega)
        | skip
    · rcases Nat.lt_or_ge (r.length + 1) cs.length with hlt | hge
      · exact Prod.Lex.left _ _ hlt
      · have heq : r.length + 1 = cs.length := by omega
        rw [← heq]
        refine Prod.Lex.right _ ?_
        cases b <;> simp [Bracket.element, Expecting.rank]

/-- Skips a value and the space before it. -/
def skipValue (cs : List Char) : Except Stop (List Char) := skipFrom .value [] cs

end Offload.Json
