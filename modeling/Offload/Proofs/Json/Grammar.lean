import Offload.Json.Skip
import Offload.Proofs.Text.Integer

/-!
The grammar of structured texts, apart from any reader.

Each rule derives the characters of one construct from those of its parts. A quoted text has many
spellings, since any character may be written by its number; a value is a word, a number, a quoted
text, or items between brackets, to any depth. Space may stand before and behind every token.
-/

namespace Offload.Json

def Spaces (cs : List Char) : Prop := ∀ c ∈ cs, c ∈ [' ', '\t', '\n', '\r']

instance (cs : List Char) : Decidable (Spaces cs) := List.decidableBAll _ cs

/-! ### Quoted texts -/

/-- The letters that stand behind a backslash for one character each. -/
def letterEscapes : List (Char × Char) :=
  [('"', '"'), ('\\', '\\'), ('/', '/'), ('b', '\x08'), ('f', '\x0c'), ('n', '\n'), ('r', '\r'),
    ('t', '\t')]

/-- Four hexadecimal digits, of either case, for a code unit. -/
structure HexUnit (n : Nat) (ds : List Char) : Prop where
  length_eq : ds.length = 4
  digits : ∃ zeros, ds.map Char.toLower = List.replicate zeros '0' ++ Nat.toDigits 16 n

/-- What may be written between quotes for a character. One beyond sixteen bits takes the numbers
of two code units. -/
inductive SpelledChar : Char → List Char → Prop
  | plain {c : Char} (hprints : 0x20 ≤ c.toNat) (hquote : c ≠ '"') (hback : c ≠ '\\') :
      SpelledChar c [c]
  | letter {x c : Char} (h : (x, c) ∈ letterEscapes) : SpelledChar c ['\\', x]
  | unit {c : Char} {ds : List Char} (h : HexUnit c.toNat ds) : SpelledChar c ('\\' :: 'u' :: ds)
  | pair {c : Char} {high low : List Char} (hwide : 0x10000 ≤ c.toNat)
      (hhigh : HexUnit (0xd800 + (c.toNat - 0x10000) / 0x400) high)
      (hlow : HexUnit (0xdc00 + (c.toNat - 0x10000) % 0x400) low) :
      SpelledChar c ('\\' :: 'u' :: high ++ '\\' :: 'u' :: low)

/-- What may be written between quotes for a text. -/
inductive Spelled : List Char → List Char → Prop
  | nil : Spelled [] []
  | cons {c : Char} {s cs ds : List Char} (hc : SpelledChar c cs) (hs : Spelled s ds) :
      Spelled (c :: s) (cs ++ ds)

inductive StringText : List Char → List Char → Prop
  | mk {s cs : List Char} (h : Spelled s cs) : StringText s ('"' :: cs ++ ['"'])

/-! ### Numbers -/

/-- The decimal digits of a natural number, which begin with a zero only where they are one. -/
structure WholeText (n : Nat) (ds : List Char) : Prop extends Text.Decimal n ds where
  zero : ds.head? = some '0' → ds = ['0']

inductive FractionText : List Char → Prop
  | absent : FractionText []
  | present {ds : List Char} (h : Text.Digits ds) : FractionText ('.' :: ds)

inductive ExponentText : List Char → Prop
  | absent : ExponentText []
  | present {e : Char} {sign ds : List Char} (he : e = 'e' ∨ e = 'E')
      (hsign : sign = [] ∨ sign = ['+'] ∨ sign = ['-']) (h : Text.Digits ds) :
      ExponentText (e :: (sign ++ ds))

inductive NumberText : List Char → Prop
  | mk {sign whole fraction exponent : List Char} {n : Nat} (hsign : sign = [] ∨ sign = ['-'])
      (hwhole : WholeText n whole) (hfraction : FractionText fraction)
      (hexponent : ExponentText exponent) :
      NumberText (sign ++ (whole ++ (fraction ++ exponent)))

/-! ### Values -/

def Bracket.opening : Bracket → Char
  | .list => '['
  | .object => '\x7b'

/-- The constructs that a value is made of. -/
inductive Part
  | value
  /-- What stands between two commas within a bracket, with the space around it. -/
  | item (b : Bracket)
  /-- Items with commas between them. -/
  | items (b : Bracket)

/-- A quoted text, a colon, and what stands behind it, with space before each of them. -/
inductive EntryText (key : List Char) : List Char → List Char → Prop
  | mk {before quoted between space value : List Char} (hbefore : Spaces before)
      (hquoted : StringText key quoted) (hbetween : Spaces between) (hspace : Spaces space) :
      EntryText key value (before ++ (quoted ++ (between ++ ':' :: (space ++ value))))

/-- What a part may be written as. -/
inductive Formed : Part → List Char → Prop
  | word {w : String} (h : w ∈ ["null", "true", "false"]) : Formed .value w.toList
  | number {cs : List Char} (h : NumberText cs) : Formed .value cs
  | string {s cs : List Char} (h : StringText s cs) : Formed .value cs
  | empty {b : Bracket} {space : List Char} (h : Spaces space) :
      Formed .value (b.opening :: (space ++ [b.closing]))
  | bracketed {b : Bracket} {cs : List Char} (h : Formed (.items b) cs) :
      Formed .value (b.opening :: (cs ++ [b.closing]))
  | element {before cs after : List Char} (hbefore : Spaces before) (h : Formed .value cs)
      (hafter : Spaces after) : Formed (.item .list) (before ++ (cs ++ after))
  | entry {key value cs after : List Char} (h : Formed .value value) (hcs : EntryText key value cs)
      (hafter : Spaces after) : Formed (.item .object) (cs ++ after)
  | last {b : Bracket} {cs : List Char} (h : Formed (.item b) cs) : Formed (.items b) cs
  | next {b : Bracket} {cs ds : List Char} (h : Formed (.item b) cs) (hs : Formed (.items b) ds) :
      Formed (.items b) (cs ++ ',' :: ds)

end Offload.Json
