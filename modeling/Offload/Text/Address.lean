import Offload.Text.Quoted

/-!
Addresses as text: hexadecimal in lower case behind its mark.
-/

namespace Offload.Text

def address (a : Nat) : String := "0x" ++ String.ofList (lowerHex a)

end Offload.Text
