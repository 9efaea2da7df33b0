import Offload.Floating.Shortest

/-!
Numbers as decimal text, in the two layouts the program writes.

An argument is written positionally whatever its size, whole numbers without a point. A number
cited from a settings text always has a point or an exponent, and moves to an exponent below
`1e-5` and from `1e16` on.
-/

namespace Offload.Floating

def zeros (n : Nat) : String := String.ofList (List.replicate n '0')

def signed (negative : Bool) (s : String) : String := if negative then "-" ++ s else s

/-- `digits · 10 ^ k` with a point where it belongs; `whole` follows a number without one. -/
def positional (whole : String) (digits : String) (k : Int) : String :=
  if 0 ≤ k then digits ++ zeros k.toNat ++ whole
  else
    let places := (-k).toNat
    if places < digits.length then
      String.ofList (digits.toList.take (digits.length - places)) ++ "." ++
        String.ofList (digits.toList.drop (digits.length - places))
    else "0." ++ zeros (places - digits.length) ++ digits

/-- One digit before the point, and an exponent that always shows its sign. -/
def scientific (digits : String) (exponent : Int) : String :=
  let mantissa :=
    match digits.toList with
    | [] => ""
    | [d] => String.ofList [d]
    | d :: rest => String.ofList (d :: '.' :: rest)
  mantissa ++ (if exponent < 0 then "e-" else "e+") ++ toString exponent.natAbs

/-- The text of a number given as an argument. -/
def argumentText (f : Format) (bits : Nat) : String :=
  match read f bits with
  | .nan => "NaN"
  | .infinite negative => signed negative "inf"
  | .finite negative 0 _ => signed negative "0"
  | .finite negative m q =>
    let (c, k) := shortest f .up m q
    signed negative (positional "" (toString c) k)

/-- The text of a number cited from a settings text. -/
def citedText (f : Format) (bits : Nat) : String :=
  match read f bits with
  | .nan => "NaN"
  | .infinite negative => signed negative "inf"
  | .finite negative 0 _ => signed negative "0.0"
  | .finite negative m q =>
    let (c, k) := shortest f .even m q
    let digits := toString c
    let exponent := k + digits.length - 1
    signed negative
      (if -5 ≤ exponent ∧ exponent ≤ 15 then positional ".0" digits k
       else scientific digits exponent)

end Offload.Floating
