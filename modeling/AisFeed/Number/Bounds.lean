/-!
# Bounds of numbers

The largest numbers of the sizes that inputs, settings and written forms allow.
-/

set_option autoImplicit false

namespace AisFeed

/-- The largest number of eight bits. -/
def byteBound : Nat := 255

/-- The largest port, a number of sixteen bits. -/
def portBound : Nat := 65535

/-- The largest number of thirty-two bits. -/
def wordBound : Nat := 4294967295

/-- The largest count, a number of sixty-four bits. -/
def countBound : Nat := 18446744073709551615

/-- The largest integer of sixty-four bits with a sign. The least is one further from zero. -/
def integerBound : Nat := 9223372036854775807

end AisFeed
