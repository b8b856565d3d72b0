import LogRows.Program.Commands
import LogRows.Proofs.FilterComposition
import LogRows.Proofs.Program.Outcomes

/-!
# A file that is tailed and an input that is watched

`tail` lets the worker of its stream select the rows, `watch` takes them all and selects
where they are shown.  Over the same bytes both show the same (`tail_and_watch_show`): what
they write is said by the rows of the bytes that the filter lets pass (`showing`), for any
sizes of queue and reads and any order of steps.

The commands are run once, on a host of which only the laws are known (`Host.Semantics`);
the host that is a value and the one of all that may happen both obey them.
-/

namespace LogRows

/-- The world in which more has been written. -/
def World.wrote (world : World) (text lines : String) : World :=
  { world with printed := world.printed ++ text, reported := world.reported ++ lines }

@[simp]
theorem World.wrote_nothing (world : World) : world.wrote "" "" = world := by
  simp [wrote]

theorem World.wrote_wrote (world : World) (text lines more others : String) :
    (world.wrote text lines).wrote more others = world.wrote (text ++ more) (lines ++ others) := by
  simp [wrote, String.append_assoc]

/--
How the computations of a host lead from one world to another, if it writes to the world and
its streams hand over the rows of what they read.
-/
structure Host.Semantics {m : Type → Type} [Monad m] (host : Host m) where
  /-- Whether a computation leads from a world to an answer and another world. -/
  leads {Result : Type} (action : m Result) (world : World) (answer : Result) (later : World) : Prop
  pure {Result : Type} (answer : Result) (world : World) :
    leads (Pure.pure answer) world answer world
  bind
    {Result Next : Type} {first : m Result} {next : Result → m Next}
    {world between later : World} {result : Result} {answer : Next} :
    leads first world result between → leads (next result) between answer later →
      leads (first >>= next) world answer later
  print (text : String) (world : World) : leads (host.print text) world () (world.wrote text "")
  report (text : String) (world : World) : leads (host.report text) world () (world.wrote "" text)
  /-- A file that is read as a whole hands over the rows that the filter lets pass. -/
  tail
    {config : Stream.Config} {filter : Filter} {path : String} {deliver : Row → m Unit}
    {content : List UInt8} {world later : World} :
    world.disk.resolve path = .ok (.file content) →
      leads (deliverAll deliver (Stream.listing filter content)) world () later →
        leads (host.tail config filter path 0 deliver) world (.ok ()) later
  /-- The standard input hands over all its rows. -/
  followInput
    {config : Stream.Config} {deliver : Row → m Unit} {world later : World} :
    leads (deliverAll deliver (Stream.listing .all world.input)) world () later →
      leads (host.followInput config deliver) world () later

/-! ## The host that is a value -/

namespace Stream

/-- Who drains a file that is read as a whole gets the rows that the filter lets pass. -/
theorem Pipeline.allRows_readTail
    (config : Config)
    (filter : Filter)
    (content : List UInt8) :
    (readTail config .fresh filter 0 content).allRows = listing filter content := by
  refine (Yields.readTail config filter content).allRows ?_ ?_ .rest rfl rfl
  · rw [readTail_eq_readWhole]
    exact .readWhole config filter content
  · rw [readTail_eq_readWhole]
    exact .nothing rfl

theorem openTail_of_file
    {disk : Disk}
    {config : Config}
    {scope : Scope}
    {filter : Filter}
    {path : String}
    {bytes : Nat}
    {content : List UInt8}
    (found : disk.resolve path = .ok (.file content)) :
    openTail disk config scope filter path bytes =
      .ok (.readTail config scope filter bytes content) := by
  rw [openTail, found]

/-- Who drains a standard input that has been written and closed gets all its rows. -/
theorem Pipeline.allRows_inputStream
    (config : Config)
    (input : List UInt8) :
    (Simulation.inputStream config input).allRows = listing .all input := by
  have whole : ∀ supply ∈ [Supply.bytes input], supply.isFailure = false := by
    rw [List.forall_mem_singleton]
    rfl
  have start : Run (.watchPipe config .fresh) [] _ := .rest
  rcases start.act (.grow (.bytes input)) rfl rfl with ⟨fed, run, done, silent⟩
  rcases run.act .closeSource rfl rfl with ⟨closed, run, ended, still⟩
  have rows := (Yields.watchPipe config whole).allRows (.watchPipe config) (.supplies rfl whole)
    run (ended.trans (congrArg (· ++ [.closeSource]) done)) (still.trans silent)
  rw [Simulation.inputStream, rows, List.flatMap_singleton]
  rfl

end Stream

theorem Simulation.bind_eq
    {Result Next : Type}
    {first : Simulation Result}
    {next : Result → Simulation Next}
    {world between : World}
    {result : Result}
    {outcome : Next × World}
    (begins : first world = (result, between))
    (goesOn : next result between = outcome) :
    (first >>= next) world = outcome := by
  show (first >>= next).run world = outcome
  rw [StateT.run_bind, StateT.run, begins]
  exact goesOn

/-- The host that is a value obeys the laws. -/
def Simulation.semantics : Simulation.host.Semantics where
  leads action world answer later := action world = (answer, later)
  pure _ _ := rfl
  bind := Simulation.bind_eq
  print text world := by
    rw [World.wrote, String.append_empty]
    rfl
  report text world := by
    rw [World.wrote, String.append_empty]
    rfl
  tail {config filter path deliver content world _} found delivered := by
    show deliverOpened deliver (Stream.openTail world.disk config .fresh filter path 0) world = _
    rw [Stream.openTail_of_file found, deliverOpened, Stream.Pipeline.allRows_readTail]
    exact bind_eq delivered rfl
  followInput {config deliver world _} delivered := by
    show deliverAll deliver (inputStream config world.input).allRows world = _
    rw [Stream.Pipeline.allRows_inputStream, delivered]

theorem Simulation.leads_iff
    {Result : Type}
    {action : Simulation Result}
    {world : World}
    {outcome : Result × World} :
    semantics.leads action world outcome.1 outcome.2 ↔ action.run world = outcome :=
  Iff.rfl

/-- The host on which streams run in any order obeys the laws. -/
def Outcomes.semantics : Outcomes.host.Semantics where
  leads := Outcomes.Leads
  pure := .pure
  bind := .bind
  print text world := by
    apply Outcomes.Leads.ofSimulation
    exact Simulation.semantics.print text world
  report text world := by
    apply Outcomes.Leads.ofSimulation
    exact Simulation.semantics.report text world
  tail {config filter path deliver content world later} found delivered := by
    intro other ending
    show deliverOpened deliver (Stream.openTail world.disk config .fresh filter path 0) world
      other ending ↔ _
    rw [Stream.openTail_of_file found]
    show (other = .ok () ∧ ∃ rows, Stream.HandsOver _ [] rows ∧ _) ↔ _
    simp only [(Stream.Yields.readTail config filter content).handsOver_iff, exists_eq_left,
      delivered () ending, true_and]
  followInput {config deliver world later} delivered := by
    intro other ending
    constructor
    · rintro ⟨supplies, rows, whole, input, given, further⟩
      cases (Stream.Yields.watchPipe config whole).handsOver_iff.mp given
      rw [input] at further
      exact (delivered other ending).mp further
    · intro same
      have whole : ∀ supply ∈ [Stream.Supply.bytes world.input], supply.isFailure = false := by
        rw [List.forall_mem_singleton]
        rfl
      have input : [Stream.Supply.bytes world.input].flatMap Stream.Supply.content = world.input :=
        List.flatMap_singleton ..
      refine ⟨_, Stream.listing .all world.input, whole, input, ?_, (delivered _ _).mpr same⟩
      rw [(Stream.Yields.watchPipe config whole).handsOver_iff, input]

/-! ## What is written of rows -/

namespace Program

/-- What is written to the standard output of rows that have been selected. -/
def printedText (color : Bool) (rows : List Row) : String :=
  String.join <| rows.map fun
    | .data fields => Report.rowText .default color (.data fields) ++ "\n"
    | .failed _ => ""

/-- The lines about failed rows that are written to the standard error. -/
def reportedText (color : Bool) (rows : List Row) : String :=
  String.join <| rows.map fun
    | .data _ => ""
    | .failed error => Report.errorLine color error ++ "\n"

/-- Whether a row is shown; failed rows always are. -/
def passes (filter : Filter) (row : Row) : Bool :=
  row.isFailed || filter.accepts row

@[simp]
theorem passes_failed (filter : Filter) (error : RowError) :
    passes filter (.failed error) = true :=
  rfl

@[simp]
theorem passes_data (filter : Filter) (fields : Fields) :
    passes filter (.data fields) = filter.accepts (.data fields) :=
  rfl

theorem filter_passes_listing (filter : Filter) (content : List UInt8) :
    (Stream.listing .all content).filter (passes filter) = Stream.listing filter content := by
  rw [Stream.listing_all]
  rfl

theorem filter_passes_all (rows : List Row) :
    rows.filter (passes .all) = rows := by
  apply List.filter_eq_self.mpr
  intro row _
  simp [passes]

/-- The world after some rows have been shown. -/
def afterRows (color : Bool) (filter : Filter) (rows : List Row) (world : World) : World :=
  let selected := rows.filter (passes filter)
  world.wrote (printedText color selected) (reportedText color selected)

section

variable
    (color : Bool)
    (filter : Filter)

theorem printedText_append (rows more : List Row) :
    printedText color (rows ++ more) = printedText color rows ++ printedText color more := by
  simp [printedText]

theorem reportedText_append (rows more : List Row) :
    reportedText color (rows ++ more) = reportedText color rows ++ reportedText color more := by
  simp [reportedText]

theorem afterRows_nil (world : World) : afterRows color filter [] world = world :=
  world.wrote_nothing

/-- Rows that are shown one after the other are shown together. -/
theorem afterRows_cons (row : Row) (rows : List Row) (world : World) :
    afterRows color filter (row :: rows) world =
      afterRows color filter rows (afterRows color filter [row] world) := by
  simp only [afterRows, World.wrote_wrote, ← printedText_append, ← reportedText_append,
    ← List.filter_append, List.singleton_append]

theorem afterRows_failed (error : RowError) (world : World) :
    afterRows color filter [.failed error] world =
      world.wrote "" (Report.errorLine color error ++ "\n") := by
  simp [afterRows, List.filter_cons, printedText, reportedText]

theorem afterRows_accepted
    {fields : Fields}
    (accepted : filter.accepts (.data fields) = true)
    (world : World) :
    afterRows color filter [.data fields] world =
      world.wrote (Report.rowText .default color (.data fields) ++ "\n") "" := by
  simp [afterRows, accepted, printedText, reportedText]

theorem afterRows_rejected
    {fields : Fields}
    (rejected : filter.accepts (.data fields) = false)
    (world : World) :
    afterRows color filter [.data fields] world = world := by
  simp [afterRows, rejected, printedText, reportedText]

end

/-- The line that is reported before the rows of a watched input. -/
def watchBanner (condition : String) : String :=
  "Watch with filter \"" ++ condition ++ "\"\n\n"

/--
What a command answers that shows the rows of some bytes that fit a condition, and the world
after it.  If the condition does not compile, this is all that happens.
-/
def showing
    (banner : String)
    (color : Bool)
    (condition : String)
    (content : List UInt8)
    (world : World) :
    Except Failure Unit × World :=
  match compileCondition condition with
  | .error failure => (.error failure, world)
  | .ok filter =>
      let rows := Stream.listing filter content
      (.ok (), world.wrote (printedText color rows) (banner ++ reportedText color rows))

theorem showing_of_compiled
    (banner : String)
    (color : Bool)
    {condition : String}
    {filter : Filter}
    (compiled : compileCondition condition = .ok filter)
    (content : List UInt8)
    (world : World) :
    showing banner color condition content world =
      (.ok (), world.wrote (printedText color (Stream.listing filter content))
        (banner ++ reportedText color (Stream.listing filter content))) := by
  -- `unfold` would first derive equations, for which it evaluates the compilation.
  delta showing
  rw [compiled]

/-! ## The commands on a host that obeys the laws -/

section

variable
    {m : Type → Type}
    [Monad m]
    {host : Host m}
    (semantics : host.Semantics)
    (color : Bool)

include semantics

theorem showRow_leads (filter : Filter) (row : Row) (world : World) :
    semantics.leads (showRow host color filter .default row) world ()
      (afterRows color filter [row] world) := by
  cases row with
  | failed error =>
      rw [afterRows_failed]
      exact semantics.report _ world
  | data fields =>
      unfold showRow
      cases accepts : filter.accepts (.data fields) with
      | true =>
          rw [afterRows_accepted color filter accepts, if_pos rfl]
          exact semantics.print _ world
      | false =>
          rw [afterRows_rejected color filter accepts, if_neg Bool.false_ne_true]
          exact semantics.pure () world

theorem deliverAll_leads (filter : Filter) (rows : List Row) (world : World) :
    semantics.leads (deliverAll (showRow host color filter .default) rows) world ()
      (afterRows color filter rows world) := by
  induction rows generalizing world with
  | nil =>
      rw [afterRows_nil]
      exact semantics.pure () world
  | cons row rows ih =>
      rw [afterRows_cons]
      exact semantics.bind (showRow_leads semantics color filter row world) (ih _)

variable
    (settingsPath? : Option String)
    (config : Stream.Config)
    (condition : String)

/-- The worker has selected the rows, so all that come are shown. -/
theorem tail_leads
    {world : World}
    {path : String}
    {content : List UInt8}
    (found : world.disk.resolve path = .ok (.file content)) :
    semantics.leads (tail host ⟨settingsPath?, config, color⟩ path 0 condition) world
      (showing "" color condition content world).1
      (showing "" color condition content world).2 := by
  delta tail showing
  cases compileCondition condition with
  | error failure => exact semantics.pure _ world
  | ok filter =>
      have delivered :=
        deliverAll_leads semantics color .all (Stream.listing filter content) world
      rw [afterRows, filter_passes_all] at delivered
      simp only [String.empty_append]
      exact semantics.bind (semantics.tail found delivered) (semantics.pure _ _)

/-- All rows come, and those are shown that the filter lets pass. -/
theorem watch_leads (world : World) :
    semantics.leads
      (watch host ⟨settingsPath?, config, color⟩ ⟨none, some condition, none, none⟩ none) world
      (showing (watchBanner condition) color condition world.input world).1
      (showing (watchBanner condition) color condition world.input world).2 := by
  have condition_eq : View.condition ⟨none, some condition, none, none⟩ = condition := rfl
  have selection_eq : View.selection ⟨none, some condition, none, none⟩ = .default := rfl
  delta watch watchView showing
  simp only [condition_eq, selection_eq]
  cases compileCondition condition with
  | error failure => exact semantics.pure _ world
  | ok filter =>
      have delivered := deliverAll_leads semantics color filter
        (Stream.listing .all world.input) (world.wrote "" (watchBanner condition))
      rw [afterRows, filter_passes_listing, World.wrote_wrote, String.empty_append] at delivered
      refine semantics.bind (semantics.report _ world) ?_
      exact semantics.bind (semantics.followInput delivered) (semantics.pure _ _)

end

/--
A file that is tailed shows what an input of the same bytes shows that is watched.  Whatever
the sizes of queue and reads and the order of steps, both answer the same, write the same to
the standard output, and report the same rows; `watch` says before what it watches.
-/
theorem tail_and_watch_show
    {tailed watched : World}
    {path : String}
    (found : tailed.disk.resolve path = .ok (.file watched.input))
    (tailSettings? watchSettings? : Option String)
    (tailConfig watchConfig : Stream.Config)
    (color : Bool)
    (condition : String) :
    let tails := showing "" color condition watched.input tailed
    let watches := showing (watchBanner condition) color condition watched.input watched
    let tailContext : Context := ⟨tailSettings?, tailConfig, color⟩
    let watchContext : Context := ⟨watchSettings?, watchConfig, color⟩
    let view : View := ⟨none, some condition, none, none⟩
    (tail Simulation.host tailContext path 0 condition).run tailed = tails ∧
      (watch Simulation.host watchContext view none).run watched = watches ∧
      Outcomes.Leads (tail Outcomes.host tailContext path 0 condition) tailed tails.1 tails.2 ∧
      Outcomes.Leads (watch Outcomes.host watchContext view none) watched watches.1 watches.2 :=
  have tails {m : Type → Type} [Monad m] {host : Host m} (semantics : host.Semantics) :=
    tail_leads semantics color tailSettings? tailConfig condition found
  have watches {m : Type → Type} [Monad m] {host : Host m} (semantics : host.Semantics) :=
    watch_leads semantics color watchSettings? watchConfig condition watched
  ⟨Simulation.leads_iff.mp (tails Simulation.semantics),
    Simulation.leads_iff.mp (watches Simulation.semantics),
    tails Outcomes.semantics, watches Outcomes.semantics⟩

/-- A row that does not fit, a blank line, a failed row, and a last line without its newline. -/
theorem tail_and_watch_show_of_mixed_lines :
    let content := "\x7b\"a\":1\x7d\n\nnope\n\x7b\"a\":2\x7d".toUTF8.toList
    let tailed : World := ⟨⟨[(["app.log"], content)], []⟩, [], ⟨2024, 1, 1⟩, "", ""⟩
    let watched : World := ⟨.empty, content, ⟨2024, 1, 1⟩, "", ""⟩
    let printed := "********** No level field **********\n   a: 2\n**********\n"
    let reported := "row error: invalid JSON row: expected ident at line 1 column 2\n"
    (tail Simulation.host ⟨none, ⟨1, 1⟩, false⟩ "app.log" 0 "a = 2").run tailed =
        (.ok (), tailed.wrote printed reported) ∧
      (watch Simulation.host ⟨none, ⟨64, 512⟩, false⟩ ⟨none, some "a = 2", none, none⟩ none).run
          watched =
        (.ok (), watched.wrote printed (watchBanner "a = 2" ++ reported)) := by
  intro content tailed watched printed reported
  have built : Filter.compile "a = 2" = .ok ⟨.equalTo "a" "2", true⟩ :=
    Filter.compile_eq_ok_of_toOption (by decide +kernel)
  have compiled : compileCondition "a = 2" = .ok ⟨.equalTo "a" "2", true⟩ := by
    delta compileCondition
    rw [built]
  have texts :
      printedText false (Stream.listing ⟨.equalTo "a" "2", true⟩ content) = printed ∧
        reportedText false (Stream.listing ⟨.equalTo "a" "2", true⟩ content) = reported := by
    decide +kernel
  have shows (banner : String) (world : World) :
      showing banner false "a = 2" content world =
        (.ok (), world.wrote printed (banner ++ reported)) := by
    rw [showing_of_compiled banner false compiled content world, texts.1, texts.2]
  have found : tailed.disk.resolve "app.log" = .ok (.file watched.input) := rfl
  rcases tail_and_watch_show found none none ⟨1, 1⟩ ⟨64, 512⟩ false "a = 2" with
    ⟨tails, watches, _⟩
  exact ⟨tails.trans (shows "" tailed), watches.trans (shows _ watched)⟩

end Program

end LogRows
