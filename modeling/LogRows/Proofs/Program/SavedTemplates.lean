import LogRows.Proofs.Program.TailAndWatch
import LogRows.Proofs.TemplateStore

/-!
# Watching with a saved template

A view that is saved as a template comes back from the settings file as it was saved, also
after others have been saved.  To watch with it is therefore to watch with its flags where
the command line sets none (`watch_savedTemplate`): what is watched, how it is shown and
every failure are the same, in any order of steps.
-/

namespace LogRows

/-! ## Templates of views -/

namespace View

/-- The flags of a view. -/
def flags : List (View → Option String) :=
  [file?, condition?, output?, accent?]

/-- A flag of a view that completes another one is the other's where it is set. -/
theorem orElse_flag
    {flag : View → Option String}
    (member : flag ∈ flags)
    (given saved : View) :
    (∀ value, flag given = some value → flag (given.orElse saved) = some value) ∧
      (flag given = none → flag (given.orElse saved) = flag saved) := by
  have completed : flag (given.orElse saved) = (flag given).or (flag saved) := by
    simp only [flags, List.mem_cons, List.not_mem_nil, or_false] at member
    rcases member with rfl | rfl | rfl | rfl <;> rfl
  constructor
  · intro value set
    rw [completed, set, Option.some_or]
  · intro unset
    rw [completed, unset, Option.none_or]

/-- Only the view of which nothing is set has a template without flags. -/
theorem isEmpty_template_iff (view : View) :
    view.template.isEmpty = true ↔ view = empty := by
  constructor
  · intro none
    have entries : view.template.entries = [] := List.isEmpty_iff.mp none
    have absent (flag : String) : view.template.get? flag = .none := by
      rw [SortedMap.get?, entries]
      rfl
    rw [← ofTemplate_template view, ofTemplate, absent, absent, absent, absent]
    rfl
  · rintro rfl
    rfl

end View

/-! ## Saving templates -/

namespace Simulation

theorem onDisk_bind
    {Result Next : Type}
    (action : StateM Disk Result)
    (next : Result → StateM Disk Next) :
    onDisk (action >>= next) = onDisk action >>= fun result => onDisk (next result) :=
  rfl

theorem store_eq_onDisk (path : String) (settings : Settings) :
    Settings.store host.files path settings =
      onDisk (Settings.store Disk.fileAccess path settings) := by
  rw [Settings.store, Settings.store, onDisk_bind]
  refine bind_congr fun made => ?_
  cases made with
  | error cause => rfl
  | ok =>
      simp only
      rw [onDisk_bind]
      refine bind_congr fun written => ?_
      cases written <;> rfl

/-- Settings are saved in a world as they are on its disk. -/
theorem save_eq_onDisk (path name : String) (template : Template) :
    Settings.save host.files path name template =
      onDisk (Settings.save Disk.fileAccess path name template) := by
  rw [Settings.save, Settings.save, onDisk_bind]
  have loads : Settings.load host.files path = onDisk (Settings.load Disk.fileAccess path) := rfl
  rw [loads]
  refine bind_congr fun loaded => ?_
  cases loaded with
  | error error => rfl
  | ok settings => exact store_eq_onDisk path _

end Simulation

theorem Simulation.read_leads (path : String) (world : World) :
    semantics.leads (host.files.read path) world (world.disk.read path) world :=
  rfl

theorem Outcomes.read_leads (path : String) (world : World) :
    semantics.leads (host.files.read path) world (world.disk.read path) world :=
  .ofSimulation rfl

namespace Program

/-- Save views as templates one after the other, each under the name that comes with it. -/
def saveTemplates
    {m : Type → Type}
    [Monad m]
    (host : Host m)
    (path : String) :
    List (String × View) → m (List (Except Failure Unit))
  | [] => return []
  | (name, view) :: calls => do
      let answer ← saveTemplate host path name view
      return answer :: (← saveTemplates host path calls)

section

variable
    {world : World}
    {path : String}
    {settings : Settings}

/-- A template is saved in the settings file, and that is reported. -/
theorem saveTemplate_run
    (stands : Settings.Stands world.disk path settings)
    (name : String)
    (view : View) :
    ∃ later,
      (saveTemplate Simulation.host path name view).run world = (.ok (), later) ∧
        Settings.Stands later.disk path (settings.saveTemplate name view.template) := by
  rcases stands.save name view.template with ⟨disk, ran, ended⟩
  have saved :
      Settings.save Simulation.host.files path name view.template world =
        (.ok (), { world with disk := disk }) := by
    rw [StateT.run] at ran
    rw [Simulation.save_eq_onDisk, Simulation.onDisk, ran]
  rw [saveTemplate]
  cases view.template.isEmpty with
  | true => exact ⟨_, Simulation.bind_eq saved rfl, ended⟩
  | false => exact ⟨_, Simulation.bind_eq saved rfl, ended⟩

/-- The templates that calls of `saveTemplate` leave. -/
def templateOf (call : String × View) : Settings.Save :=
  (call.1, call.2.template)

theorem saveTemplates_run
    (stands : Settings.Stands world.disk path settings)
    (calls : List (String × View)) :
    ∃ later,
      (saveTemplates Simulation.host path calls).run world =
          (List.replicate calls.length (.ok ()), later) ∧
        Settings.Stands later.disk path
          ⟨settings.stream, (calls.map templateOf).foldl Settings.applySave settings.templates⟩ := by
  induction calls generalizing world settings with
  | nil => exact ⟨world, rfl, stands⟩
  | cons call calls ih =>
      rcases saveTemplate_run stands call.1 call.2 with ⟨between, first, standing⟩
      rcases ih standing with ⟨later, rest, ended⟩
      exact ⟨later, Simulation.bind_eq first (Simulation.bind_eq rest rfl), ended⟩

/-- What is saved under a name stays there while others are saved under other names. -/
theorem get?_foldl_templateOf
    (templates : SortedMap Template)
    (name : String)
    {saved : View}
    (nonempty : saved ≠ .empty)
    {others : List (String × View)}
    (elsewhere : ∀ call ∈ others, call.1 ≠ name) :
    ((((name, saved) :: others).map templateOf).foldl Settings.applySave templates).get? name =
      some saved.template := by
  have flagged : saved.template.isEmpty = false := by
    rw [← Bool.not_eq_true, View.isEmpty_template_iff]
    exact nonempty
  have none : (others.map templateOf).reverse.find? (·.1 = name) = none := by
    rw [List.find?_eq_none]
    intro save member
    rcases List.mem_map.mp (List.mem_reverse.mp member) with ⟨call, listed, rfl⟩
    rw [decide_eq_true_eq]
    exact elsewhere call listed
  rw [List.map_cons, List.foldl_cons, Settings.get?_foldl_applySave, none]
  simp [Settings.get?_applySave, templateOf, flagged]

end

section

variable
    {m : Type → Type}
    [Monad m]
    {host : Host m}
    (semantics : host.Semantics)
    {world : World}
    (reads :
      ∀ path world, semantics.leads (host.files.read path) world (world.disk.read path) world)

include semantics reads

/-- A template that the settings file holds completes the view. -/
theorem templateView_leads
    {context : Context}
    {path name : String}
    {settings : Settings}
    {template : Template}
    (known : context.settingsPath? = some path)
    (loads : Settings.ofRead path (world.disk.read path) = .ok settings)
    (found : settings.templates.get? name = some template)
    (view : View) :
    semantics.leads (templateView host context view name) world
      (.ok (view.orElse (.ofTemplate template))) world := by
  have loaded : semantics.leads (Settings.load host.files path) world (.ok settings) world :=
    semantics.bind (reads path world) (loads ▸ semantics.pure _ world)
  have looked :
      semantics.leads (Settings.loadTemplate host.files path name) world (.ok (some template))
        world :=
    semantics.bind loaded (found ▸ semantics.pure _ world)
  rw [templateView, known]
  exact semantics.bind looked (semantics.pure _ world)

end

/-- To watch with a template is to watch what it completes. -/
theorem watch_template_eq_bind
    {m : Type → Type}
    [Monad m]
    (host : Host m)
    (context : Context)
    (given : View)
    (name : String) :
    watch host context given (some name) =
      templateView host context given name >>= fun
        | .error failure => pure (.error failure)
        | .ok view => watch host context view none :=
  rfl

/--
A template of a view that has been saved stands for the flags of the view.  Later, after
templates have been saved under other names, whoever watches with it watches what the flags
describe that are given and, where one is not, the one that was saved; a flag that is given
counts even if it is empty.  The answer and what is written are those of watching with these
flags and no template, on the host that is a value and for any order of the steps of a stream.
-/
theorem watch_savedTemplate
    {world : World}
    {path : String}
    {first : Settings}
    (loads : (Settings.load Disk.fileAccess path).run world.disk = (.ok first, world.disk))
    (takes : world.disk.Takes path)
    (name : String)
    {saved : View}
    (nonempty : saved ≠ .empty)
    {others : List (String × View)}
    (elsewhere : ∀ call ∈ others, call.1 ≠ name) :
    ∃ later,
      (saveTemplates Simulation.host path ((name, saved) :: others)).run world =
          (List.replicate (others.length + 1) (.ok ()), later) ∧
        ∀ (context : Context) (given : View),
          context.settingsPath? = some path →
            let view := given.orElse saved
            (∀ flag ∈ View.flags,
              (∀ value, flag given = some value → flag view = some value) ∧
                (flag given = none → flag view = flag saved)) ∧
              (templateView Simulation.host context given name).run later = (.ok view, later) ∧
              (watch Simulation.host context given (some name)).run later =
                (watch Simulation.host context view none).run later ∧
              ∀ answer ending,
                watch Outcomes.host context given (some name) later answer ending ↔
                  watch Outcomes.host context view none later answer ending := by
  have stands : Settings.Stands world.disk path first := ⟨congrArg Prod.fst loads, takes⟩
  rcases saveTemplates_run stands ((name, saved) :: others) with ⟨later, ran, standing⟩
  refine ⟨later, ran, fun context given known => ?_⟩
  have found := get?_foldl_templateOf first.templates name nonempty elsewhere
  have viewed :
      (templateView Simulation.host context given name).run later =
        (.ok (given.orElse (.ofTemplate saved.template)), later) :=
    Simulation.leads_iff.mp <|
      templateView_leads Simulation.semantics Simulation.read_leads known standing.loads found given
  have led :
      Outcomes.Leads (templateView Outcomes.host context given name) later
        (.ok (given.orElse (.ofTemplate saved.template))) later :=
    templateView_leads Outcomes.semantics Outcomes.read_leads known standing.loads found given
  rw [View.ofTemplate_template] at viewed led
  refine ⟨fun flag member => View.orElse_flag member given saved, viewed, ?_, ?_⟩
  · rw [watch_template_eq_bind, StateT.run_bind, viewed]
    -- With the common side left open, its check would run the program.
    exact Eq.refl ((watch Simulation.host context (given.orElse saved) none).run later)
  · intro answer ending
    rw [watch_template_eq_bind, led.bind_iff]

/-- An empty condition that is given stands before the one of the template. -/
theorem watch_savedTemplate_of_empty_condition :
    let stored : Settings := ⟨⟨3, 5⟩, .ofList [("old", .ofList [("f", "app.log")])]⟩
    let world : World :=
      ⟨⟨[(["settings.toml"], stored.bytes)], []⟩, [], ⟨2024, 1, 1⟩, "", ""⟩
    let context : Context := ⟨some "settings.toml", ⟨64, 512⟩, false⟩
    let saved : View := ⟨none, some "level = 'error'", some "time", none⟩
    let given : View := ⟨some "app.log", some "", none, none⟩
    let view : View := ⟨some "app.log", some "", some "time", none⟩
    ∃ later,
      (saveTemplates Simulation.host "settings.toml" [("errors", saved), ("old", .empty)]).run
          world = ([.ok (), .ok ()], later) ∧
        (templateView Simulation.host context given "errors").run later = (.ok view, later) ∧
        (watch Simulation.host context given (some "errors")).run later =
          (watch Simulation.host context view none).run later ∧
        ∀ answer ending,
          watch Outcomes.host context given (some "errors") later answer ending ↔
            watch Outcomes.host context view none later answer ending := by
  intro stored world context saved given view
  have present : Settings.ofText? stored.text = some stored :=
    Settings.ofText?_text ⟨by decide, by decide⟩
  have read : world.disk.read "settings.toml" = .ok stored.bytes := rfl
  have loads :
      (Settings.load Disk.fileAccess "settings.toml").run world.disk = (.ok stored, world.disk) := by
    rw [Settings.load_run, read, Settings.ofRead, Settings.ofBytes_bytes, present]
  have takes : world.disk.Takes "settings.toml" := ⟨world.disk, _, rfl, rfl⟩
  have elsewhere : ∀ call ∈ [("old", View.empty)], call.1 ≠ "errors" := by decide
  have nonempty : saved ≠ .empty := by decide
  rcases watch_savedTemplate loads takes "errors" nonempty elsewhere with ⟨later, ran, stands⟩
  rcases stands context given rfl with ⟨_, viewed, same, alike⟩
  exact ⟨later, ran, viewed, same, alike⟩

end Program

end LogRows
