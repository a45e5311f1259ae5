/-!
# Instances of the core library

Powers and sums of numbers, the hashes of characters and the order of lists are those of the core
library, also where a library is imported that brings its own.
-/

namespace ParserConformance

attribute [instance (high)] instPowNat instHashableChar List.instLE List.decidableLE

attribute [default_instance 10001] instPowNat

/-- The zero from which sums of natural numbers start. -/
instance (priority := high) zeroNat : Zero Nat := Zero.ofOfNat0

end ParserConformance
