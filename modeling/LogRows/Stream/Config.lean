/-!
# The sizes of a stream

A stream holds a limited number of rows between the party that reads and the
party that takes rows out, and reads its source in pieces of a limited size.
What a stream delivers does not depend on either.
-/

namespace LogRows.Stream

/-- The tunable sizes of a stream. -/
structure Config where
  /-- The number of rows between worker and consumer. -/
  queueCapacity : Nat
  /-- The size of a single read. -/
  readChunkBytes : Nat
deriving DecidableEq

/-- The sizes that are used unless others are set. -/
def Config.default : Config :=
  ⟨16, 8 * 1024⟩

instance : Inhabited Config :=
  ⟨.default⟩

end LogRows.Stream
