import LogRows.Date
import LogRows.Settings.Store
import LogRows.Stream.Open

/-!
# What the program runs on

A `Host` is everything that commands ask of the world: files, the date, two
places to write to, and streams of rows.  A stream hands its rows over one by
one and returns when it is over.  `Simulation` is the host that is a value: a
disk, a standard input whose end is known, and all that has been written.
-/

namespace LogRows

/-- What commands ask of the world. -/
structure Host (m : Type → Type) where
  files : Files m
  today : m Date
  /-- Write to the standard output. -/
  print : String → m Unit
  /-- Write to the standard error. -/
  report : String → m Unit
  /-- Hand over the rows of the last bytes of a file, or of all if their number is zero. -/
  tail :
    (config : Stream.Config) → (filter : Filter) → (path : String) → (bytes : Nat) →
      (deliver : Row → m Unit) → m (Except Stream.OpenError Unit)
  /-- Hand over the rows that come to a file from now on. -/
  followFile :
    (config : Stream.Config) → (path : String) →
      (deliver : Row → m Unit) → m (Except Stream.OpenError Unit)
  /-- Hand over the rows of the standard input. -/
  followInput : (config : Stream.Config) → (deliver : Row → m Unit) → m Unit

/-- Hand over rows in their order. -/
def deliverAll
    {m : Type → Type}
    [Monad m]
    (deliver : Row → m Unit) :
    List Row → m Unit
  | [] => pure ()
  | row :: rest => do
      deliver row
      deliverAll deliver rest

/-- A world that is a value. -/
structure World where
  disk : Disk
  /-- The bytes of the standard input. -/
  input : List UInt8
  today : Date
  /-- What has been written to the standard output. -/
  printed : String
  /-- What has been written to the standard error. -/
  reported : String

/-- A computation over a world. -/
abbrev Simulation :=
  StateM World

namespace Simulation

/-- A computation over the disk of a world. -/
def onDisk {Result : Type} (action : StateM Disk Result) : Simulation Result :=
  fun world =>
    let (result, disk) := action world.disk
    (result, { world with disk := disk })

/-- Hand over the rows of a stream that opens. -/
def deliverOpened
    (deliver : Row → Simulation Unit) :
    Except Stream.OpenError Stream.Pipeline → Simulation (Except Stream.OpenError Unit)
  | .error error => pure (.error error)
  | .ok pipeline => do
      deliverAll deliver pipeline.allRows
      pure (.ok ())

/-- The stream of a standard input that has all been written and is closed. -/
def inputStream (config : Stream.Config) (input : List UInt8) : Stream.Pipeline :=
  ((Stream.Pipeline.watchPipe config .fresh).act (.grow (.bytes input))).act .closeSource

/-- The host that is a value. -/
def host : Host Simulation where
  files :=
    {
      read := fun path => onDisk (Disk.fileAccess.read path)
      makeParents := fun path => onDisk (Disk.fileAccess.makeParents path)
      write := fun path content => onDisk (Disk.fileAccess.write path content)
    }
  today := fun world => (world.today, world)
  print text := modify fun world => { world with printed := world.printed ++ text }
  report text := modify fun world => { world with reported := world.reported ++ text }
  tail config filter path bytes deliver := do
    deliverOpened deliver
      (Stream.openTail (← get).disk config .fresh filter path bytes)
  followFile config path deliver := do
    deliverOpened deliver (Stream.openWatch (← get).disk config .fresh path)
  followInput config deliver := do
    deliverAll deliver (inputStream config (← get).input).allRows

end Simulation

end LogRows
