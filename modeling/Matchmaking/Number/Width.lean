/-!
# Fixed widths

The largest numbers of the widths that are stored and exchanged.
-/

namespace Matchmaking.Number

def mostUnsigned32 : Nat := 4294967295

def mostUnsigned64 : Nat := 18446744073709551615

def mostSigned32 : Nat := 2147483647

def mostSigned64 : Nat := 9223372036854775807

end Matchmaking.Number
