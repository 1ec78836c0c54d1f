/-!
# Powers

The powers of two and ten that bound numbers and scale them.
-/

namespace StatusLookup

def pow2 (n : Nat) : Nat := Nat.pow 2 n

def pow10 (n : Nat) : Nat := Nat.pow 10 n

end StatusLookup
