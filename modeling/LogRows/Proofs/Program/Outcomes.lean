import LogRows.Program.Host
import LogRows.Proofs.Stream.Scheduling

/-!
# All that a program may do

`Simulation` lets the parties of a stream take their steps in one order.  Here a
computation is the relation between a world and every answer and world that it may lead
to: a stream hands over the rows of any run that tells its consumer of the end, and the
standard input comes in any pieces and with any interruptions.

A stream that yields rows hands over nothing else, whatever the order of steps
(`Yields.handsOver_iff`), so commands over it have one outcome (`Outcomes.Leads`).
-/

namespace LogRows

namespace Stream

/-- Whether the consumer of a stream may get some rows, and no more, up to its end. -/
def HandsOver (start : Pipeline) (script : List Action) (rows : List Row) : Prop :=
  ∃ history now,
    Pipeline.Run start history now ∧
      history.outside <+: script ∧ .finished ∈ history.answers ∧ history.given = rows

section

variable
    {start now : Pipeline}
    {history : History}
    {script : List Action}
    {rows given : List Row}
    {phase : Phase}

/-- A stream that yields rows hands over those rows. -/
theorem Yields.handsOver_iff (yields : Yields start script rows phase) :
    HandsOver start script given ↔ given = rows := by
  constructor
  · rintro ⟨history, now, run, obeys, told, rfl⟩
    exact (yields.complete run obeys told).1
  · rintro rfl
    rcases yields.exists_finish with ⟨history, now, run, obeys, told⟩
    exact ⟨history, now, run, obeys, told, (yields.complete run obeys told).1⟩

end

end Stream

/-- All that a computation over a world may lead to. -/
def Outcomes (Result : Type) : Type :=
  World → Result → World → Prop

namespace Outcomes

instance : Monad Outcomes where
  pure result := fun world answer later => answer = result ∧ later = world
  bind first next := fun world answer later =>
    ∃ result between, first world result between ∧ next result between answer later

/-- A computation that leads to one end. -/
def ofSimulation {Result : Type} (action : Simulation Result) : Outcomes Result :=
  fun world answer later => action world = (answer, later)

/-- Hand over the rows of a file. -/
def deliverOpened
    (deliver : Row → Outcomes Unit) :
    Except Stream.OpenError Stream.Pipeline → Outcomes (Except Stream.OpenError Unit)
  | .error error => pure (.error error)
  | .ok pipeline => fun world answer later =>
      answer = .ok () ∧
        ∃ rows, Stream.HandsOver pipeline [] rows ∧ deliverAll deliver rows world () later

/-- The host on which streams run in any order; a file that is followed never ends. -/
def host : Host Outcomes where
  files :=
    {
      read := fun path => ofSimulation (Simulation.host.files.read path)
      makeParents := fun path => ofSimulation (Simulation.host.files.makeParents path)
      write := fun path content => ofSimulation (Simulation.host.files.write path content)
    }
  today := ofSimulation Simulation.host.today
  print text := ofSimulation (Simulation.host.print text)
  report text := ofSimulation (Simulation.host.report text)
  tail config filter path bytes deliver := fun world =>
    deliverOpened deliver
      (Stream.openTail world.disk config .fresh filter path bytes) world
  followFile config path _ := fun world answer later =>
    later = world ∧
      ∃ error,
        Stream.openWatch world.disk config .fresh path = .error error ∧ answer = .error error
  followInput config deliver := fun world answer later =>
    ∃ (supplies : List Stream.Supply) (rows : List Row),
      (∀ supply ∈ supplies, supply.isFailure = false) ∧
        supplies.flatMap Stream.Supply.content = world.input ∧
        Stream.HandsOver (.watchPipe config .fresh)
          (supplies.map .grow ++ [.closeSource]) rows ∧
        deliverAll deliver rows world answer later

/-! ## Computations with one outcome -/

/-- Whether a computation leads to one answer and one world, and to no others. -/
def Leads
    {Result : Type}
    (action : Outcomes Result)
    (world : World)
    (answer : Result)
    (later : World) :
    Prop :=
  ∀ other ending, action world other ending ↔ other = answer ∧ ending = later

section

variable
    {Result Next : Type}
    {world between later : World}

theorem Leads.pure (answer : Result) (world : World) :
    Leads (Pure.pure answer) world answer world :=
  fun _ _ => Iff.rfl

/-- What leads to one result alone passes it on. -/
theorem Leads.bind_iff
    {first : Outcomes Result}
    {next : Result → Outcomes Next}
    {result : Result}
    {answer : Next}
    (begins : Leads first world result between) :
    (first >>= next) world answer later ↔ next result between answer later := by
  constructor
  · rintro ⟨reached, there, leads, further⟩
    rcases (begins reached there).mp leads with ⟨rfl, rfl⟩
    exact further
  · exact fun further => ⟨result, between, (begins _ _).mpr ⟨rfl, rfl⟩, further⟩

theorem Leads.bind
    {first : Outcomes Result}
    {next : Result → Outcomes Next}
    {result : Result}
    {answer : Next}
    (begins : Leads first world result between)
    (goesOn : Leads (next result) between answer later) :
    Leads (first >>= next) world answer later :=
  fun other ending => begins.bind_iff.trans (goesOn other ending)

theorem Leads.ofSimulation
    {action : Simulation Result}
    {answer : Result}
    (runs : action world = (answer, later)) :
    Leads (Outcomes.ofSimulation action) world answer later := by
  intro other ending
  rw [Outcomes.ofSimulation, runs, Prod.mk.injEq]
  exact and_congr eq_comm eq_comm

end

end Outcomes

end LogRows
