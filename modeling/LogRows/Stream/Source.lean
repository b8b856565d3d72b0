/-!
# Byte sources

A `Source` is what the next reads of a file or of an open stream give.  It is a
list of supplies: bytes, which a read may take in part, and faults.  A file that
is read to its end answers with the end, and may be read again when it has
grown; an open stream makes its reader wait until there is more.
-/

namespace LogRows.Stream

/-- What a source gives next. -/
inductive Supply where
  | bytes (content : List UInt8)
  /-- A read that was interrupted and may be tried again. -/
  | interruption
  /-- A read that failed for good. -/
  | failure (reason : String)

/-- The supplies of a source, and what it answers when they are used up. -/
structure Source where
  supplies : List Supply
  /-- Whether a reader has to wait for more when the supplies are used up. -/
  waits : Bool

/-- The answer to a read. -/
inductive ReadResult where
  | bytes (content : List UInt8)
  | ended
  | interrupted
  | failed (reason : String)

/-- The bytes of a supply. -/
def Supply.content : Supply → List UInt8
  | .bytes content => content
  | .interruption => []
  | .failure _ => []

namespace Source

/-- The bytes that a source has still to give. -/
def content (source : Source) : List UInt8 :=
  source.supplies.flatMap Supply.content

/-- The supplies that are left when the first bytes have been taken. -/
def putBack (rest : List UInt8) (supplies : List Supply) : List Supply :=
  if rest.isEmpty then supplies else .bytes rest :: supplies

/-- Read supplies, skipping empty ones; no answer means that there is none yet. -/
def readSupplies (chunk : Nat) (waits : Bool) :
    List Supply → Option (ReadResult × List Supply)
  | [] => if waits then none else some (.ended, [])
  | .bytes [] :: rest => readSupplies chunk waits rest
  | .bytes content :: rest =>
      some (.bytes (content.take chunk), putBack (content.drop chunk) rest)
  | .interruption :: rest => some (.interrupted, rest)
  | .failure reason :: rest => some (.failed reason, rest)

/-- Read at most `chunk` bytes. -/
def read (source : Source) (chunk : Nat) : Option (ReadResult × Source) :=
  (readSupplies chunk source.waits source.supplies).map
    fun (result, supplies) => (result, ⟨supplies, source.waits⟩)

/-- The source with one more supply. -/
def grow (source : Source) (supply : Supply) : Source :=
  ⟨source.supplies ++ [supply], source.waits⟩

/-- The source that ends where its supplies do. -/
def close (source : Source) : Source :=
  ⟨source.supplies, false⟩

/-- A bound on the reads that a source can answer. -/
def size (source : Source) : Nat :=
  source.supplies.foldr (fun supply size => supply.content.length + 1 + size) 0

end Source

end LogRows.Stream
