import LogRows.Stream.Source

/-!
# What a read takes from a source

A read takes a non-empty part of the bytes that a source has still to give, an
interruption or a failure, and finds the end only of a source that has nothing
left and ends there.  However the supplies are cut, the bytes come in their order.
-/

namespace LogRows.Stream

/-- Whether a supply is a failure that ends all reading. -/
def Supply.isFailure : Supply → Bool
  | .failure _ => true
  | _ => false

/-- The bytes that a read gives. -/
def ReadResult.content : ReadResult → List UInt8
  | .bytes content => content
  | _ => []

/-- What the answer to a read says on the supplies before and after it. -/
def ReadResult.Explains (waits : Bool) (before after : List Supply) : ReadResult → Prop
  | .bytes content =>
      content ≠ [] ∧
        before.flatMap Supply.content = content ++ after.flatMap Supply.content
  | .ended => before.flatMap Supply.content = [] ∧ after = [] ∧ waits = false
  | .interrupted => before.flatMap Supply.content = after.flatMap Supply.content
  | .failed reason => .failure reason ∈ before

namespace Source

@[simp]
theorem content_putBack (rest : List UInt8) (supplies : List Supply) :
    (putBack rest supplies).flatMap Supply.content =
      rest ++ supplies.flatMap Supply.content := by
  cases rest with
  | nil => rfl
  | cons byte rest => rfl

@[simp]
theorem content_grow (source : Source) (supply : Supply) :
    (source.grow supply).content = source.content ++ supply.content := by
  simp [grow, content]

theorem readSupplies_explains
    {chunk : Nat}
    (positive : 0 < chunk)
    {waits : Bool}
    {supplies rest : List Supply}
    {result : ReadResult}
    (read : readSupplies chunk waits supplies = some (result, rest)) :
    result.Explains waits supplies rest := by
  induction supplies with
  | nil =>
      cases waits with
      | true => cases read
      | false =>
          cases read
          exact ⟨rfl, rfl, rfl⟩
  | cons supply supplies ih =>
      cases supply with
      | bytes content =>
          cases content with
          | nil =>
              have inner := ih read
              cases result with
              | failed reason => exact List.mem_cons_of_mem _ inner
              | _ => exact inner
          | cons byte content =>
              cases read
              constructor
              · intro impossible
                rw [List.take_eq_nil_iff] at impossible
                rcases impossible with none | empty
                · omega
                · cases empty
              · rw [content_putBack, ← List.append_assoc, List.take_append_drop]
                rfl
      | interruption =>
          cases read
          rfl
      | failure reason =>
          cases read
          exact List.mem_cons_self

/-- A read gives the first bytes, and loses none whatever it answers. -/
theorem readSupplies_content
    {chunk : Nat}
    {waits : Bool}
    {supplies rest : List Supply}
    {result : ReadResult}
    (read : readSupplies chunk waits supplies = some (result, rest)) :
    supplies.flatMap Supply.content = result.content ++ rest.flatMap Supply.content := by
  induction supplies with
  | nil =>
      cases waits with
      | true => cases read
      | false =>
          cases read
          rfl
  | cons supply supplies ih =>
      cases supply with
      | bytes content =>
          cases content with
          | nil => exact ih read
          | cons byte content =>
              cases read
              rw [ReadResult.content, content_putBack, ← List.append_assoc,
                List.take_append_drop]
              rfl
      | interruption | failure =>
          cases read
          rfl

theorem readSupplies_failures
    {chunk : Nat}
    {waits : Bool}
    {supplies rest : List Supply}
    {result : ReadResult}
    (read : readSupplies chunk waits supplies = some (result, rest))
    (whole : ∀ supply ∈ supplies, supply.isFailure = false) :
    ∀ supply ∈ rest, supply.isFailure = false := by
  induction supplies with
  | nil =>
      cases waits with
      | true => cases read
      | false =>
          cases read
          exact whole
  | cons supply supplies ih =>
      have later := (List.forall_mem_cons.mp whole).2
      cases supply with
      | bytes content =>
          cases content with
          | nil => exact ih read later
          | cons byte content =>
              cases read
              unfold putBack
              split
              · exact later
              · exact List.forall_mem_cons.mpr ⟨rfl, later⟩
      | interruption | failure =>
          cases read
          exact later

section

variable
    {source after : Source}
    {chunk : Nat}
    {result : ReadResult}

theorem supplies_of_read (read : source.read chunk = some (result, after)) :
    readSupplies chunk source.waits source.supplies = some (result, after.supplies) ∧
      after.waits = source.waits := by
  rcases Option.map_eq_some_iff.mp read with ⟨⟨given, rest⟩, taken, equal⟩
  cases equal
  exact ⟨taken, rfl⟩

theorem explains_of_read
    (positive : 0 < chunk)
    (read : source.read chunk = some (result, after)) :
    result.Explains source.waits source.supplies after.supplies :=
  readSupplies_explains positive (supplies_of_read read).1

theorem content_of_read (read : source.read chunk = some (result, after)) :
    source.content = result.content ++ after.content :=
  readSupplies_content (supplies_of_read read).1

theorem failures_of_read
    (read : source.read chunk = some (result, after))
    (whole : ∀ supply ∈ source.supplies, supply.isFailure = false) :
    ∀ supply ∈ after.supplies, supply.isFailure = false :=
  readSupplies_failures (supplies_of_read read).1 whole

/-- A source that does not wait answers every read. -/
theorem read_of_not_waits (chunk : Nat) (unwaiting : source.waits = false) :
    ∃ result after, source.read chunk = some (result, after) := by
  rcases source with ⟨supplies, waits⟩
  cases unwaiting
  have answers : ∃ result rest, readSupplies chunk false supplies = some (result, rest) := by
    induction supplies with
    | nil => exact ⟨_, _, rfl⟩
    | cons supply supplies ih =>
        cases supply with
        | bytes content =>
            cases content with
            | nil => exact ih
            | cons byte content => exact ⟨_, _, rfl⟩
        | interruption | failure => exact ⟨_, _, rfl⟩
  rcases answers with ⟨result, rest, answered⟩
  refine ⟨result, ⟨rest, false⟩, ?_⟩
  rw [read, answered]
  rfl

end

end Source

end LogRows.Stream
