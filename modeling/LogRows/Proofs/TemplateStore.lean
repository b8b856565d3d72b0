import LogRows.Proofs.Disk
import LogRows.Proofs.SettingsText
import LogRows.Settings.Store

/-!
# The template store

Every save reads the whole settings file, changes one template and writes everything back.
Over any number of saves the file is still a map from names to templates, since what is
written is read back (`ofText?_text`).
-/

namespace LogRows

/-- What a path on a disk is like to which a file can be written. -/
def Disk.Takes (disk : Disk) (path : String) : Prop :=
  ∃ made changed,
    disk.makeParents path = (.ok (), made) ∧ made.write path [] = .ok changed

namespace Settings

/-- A template that is saved, with the name it is saved under. -/
abbrev Save :=
  String × Template

/-- What a save makes of the templates: it removes a name if the template has no flags. -/
def applySave (templates : SortedMap Template) (call : Save) : SortedMap Template :=
  if call.2.isEmpty then templates.erase call.1 else templates.insert call.1 call.2

/-- Save templates one after the other. -/
def saveAll
    {m : Type → Type}
    [Monad m]
    (files : Files m)
    (path : String) :
    List Save → m (List (Except SettingsError Unit))
  | [] => return []
  | (name, template) :: calls => do
      let answer ← save files path name template
      return answer :: (← saveAll files path calls)

theorem load_run (disk : Disk) (path : String) :
    (load Disk.fileAccess path).run disk = (ofRead path (disk.read path), disk) :=
  rfl

theorem save_run_of_load_error
    {disk : Disk}
    {path : String}
    {error : SettingsError}
    (refused : ofRead path (disk.read path) = .error error)
    (name : String)
    (template : Template) :
    (save Disk.fileAccess path name template).run disk = (.error error, disk) := by
  rw [save, StateT.run_bind, load_run, refused]
  rfl

theorem saveAll_run_cons
    {m : Type}
    {call : Save}
    {calls : List Save}
    {files : Files (StateM m)}
    {path : String}
    {state between later : m}
    {answer : Except SettingsError Unit}
    {answers : List (Except SettingsError Unit)}
    (first : (save files path call.1 call.2).run state = (answer, between))
    (rest : (saveAll files path calls).run between = (answers, later)) :
    (saveAll files path (call :: calls)).run state = (answer :: answers, later) := by
  rw [saveAll, StateT.run_bind, first]
  change (do
    let answers ← saveAll files path calls
    pure (answer :: answers)).run between = _
  rw [StateT.run_bind, rest]
  rfl

/-- A save writes the changed settings where the path names a file. -/
theorem save_run
    {disk made : Disk}
    {path : String}
    {place : Place}
    {settings : Settings}
    (loads : ofRead path (disk.read path) = .ok settings)
    (makes : disk.makeParents path = (.ok (), made))
    (named : Disk.NamesFile made path place)
    (name : String)
    (template : Template) :
    (save Disk.fileAccess path name template).run disk =
      (.ok (), made.store place (settings.saveTemplate name template).bytes) := by
  have written := named.write (settings.saveTemplate name template).bytes
  rw [save, StateT.run_bind, load_run, loads]
  simp only [store, Disk.fileAccess, Disk.tryWrite, StateT.run, bind, StateT.bind, makes, written]
  rfl

theorem fits_of_ofRead
    {path : String}
    {read : Except IoError (List UInt8)}
    {settings : Settings}
    (loads : ofRead path read = .ok settings) :
    Fits settings.stream := by
  unfold ofRead ofBytes at loads
  split at loads
  case h_1 =>
    split at loads
    case h_1 => cases loads
    case h_2 =>
      split at loads
      case h_1 => cases loads
      case h_2 read =>
        cases loads
        exact fits_of_ofText? read
  case h_2 =>
    cases loads
    exact fits_default
  case h_3 => cases loads

/-- A path at which settings are loaded, and can be written. -/
structure Stands (disk : Disk) (path : String) (settings : Settings) : Prop where
  loads : ofRead path (disk.read path) = .ok settings
  takes : disk.Takes path

/-- One save: what it leaves is loaded, and can be written again. -/
theorem Stands.save
    {disk : Disk}
    {path : String}
    {settings : Settings}
    (stands : Stands disk path settings)
    (name : String)
    (template : Template) :
    ∃ later,
      (Settings.save Disk.fileAccess path name template).run disk = (.ok (), later) ∧
        Stands later path (settings.saveTemplate name template) := by
  rcases stands.takes with ⟨made, changed, makes, written⟩
  rcases Disk.write_eq_ok written with ⟨place, named, _⟩
  let next := settings.saveTemplate name template
  have keeps := named.keepsDirectories next.bytes
  have fits : Fits settings.stream := fits_of_ofRead stands.loads
  have readable : ofText? next.text = some next := ofText?_text fits
  refine ⟨_, save_run stands.loads makes named name template, ?_, ?_⟩
  · rw [named.read_store, ofRead, ofBytes_bytes, readable]
  · exact ⟨_, _, Disk.makeParents_again makes keeps, (named.store next.bytes).write []⟩

/-- Any number of saves, which leave the sizes of streams alone. -/
theorem Stands.saveAll
    {disk : Disk}
    {path : String}
    {settings : Settings}
    (stands : Stands disk path settings)
    (calls : List Save) :
    ∃ later,
      (Settings.saveAll Disk.fileAccess path calls).run disk =
          (List.replicate calls.length (.ok ()), later) ∧
        Stands later path ⟨settings.stream, calls.foldl applySave settings.templates⟩ := by
  induction calls generalizing disk settings with
  | nil => exact ⟨disk, rfl, stands⟩
  | cons call calls ih =>
      rcases stands.save call.1 call.2 with ⟨between, first, standing⟩
      rcases ih standing with ⟨later, rest, ended⟩
      refine ⟨later, ?_, ended⟩
      rw [saveAll_run_cons first rest]
      rfl

/-! ## What the templates are -/

theorem get?_applySave (templates : SortedMap Template) (call : Save) (name : String) :
    (applySave templates call).get? name =
      if call.1 = name then
        if call.2.isEmpty then none else some call.2
      else
        templates.get? name :=
  get?_templates_saveTemplate ⟨.default, templates⟩ call.1 name call.2

/-- What the last save under a name has left there, or what there was before the saves. -/
theorem get?_foldl_applySave
    (templates : SortedMap Template)
    (calls : List Save)
    (name : String) :
    (calls.foldl applySave templates).get? name =
      match calls.reverse.find? (·.1 = name) with
      | some call => if call.2.isEmpty then none else some call.2
      | none => templates.get? name := by
  induction calls generalizing templates with
  | nil => rfl
  | cons call calls ih =>
      rw [List.foldl_cons, ih, List.reverse_cons, List.find?_append, get?_applySave]
      cases calls.reverse.find? (·.1 = name) with
      | some last => rfl
      | none =>
          by_cases same : call.1 = name
          · simp [same]
          · simp [same]

/-! ## Runs of saves -/

/-- Where loading fails, every save fails in the same way and touches nothing. -/
theorem saveAll_of_load_error
    {disk : Disk}
    {path : String}
    {error : SettingsError}
    (refused : ofRead path (disk.read path) = .error error)
    (calls : List Save) :
    (saveAll Disk.fileAccess path calls).run disk =
      (List.replicate calls.length (.error error), disk) := by
  induction calls with
  | nil => rfl
  | cons call calls ih =>
      exact saveAll_run_cons (save_run_of_load_error refused call.1 call.2) ih

/-- What the file at a path holds, as everybody learns it who asks the store. -/
structure Shows (disk : Disk) (path : String) (settings : Settings) : Prop where
  loads : (load Disk.fileAccess path).run disk = (.ok settings, disk)
  lists : (loadTemplates Disk.fileAccess path).run disk = (.ok settings.templates, disk)
  finds :
    ∀ name,
      (loadTemplate Disk.fileAccess path name).run disk = (.ok (settings.templates.get? name), disk)

theorem Stands.shows
    {disk : Disk}
    {path : String}
    {settings : Settings}
    (stands : Stands disk path settings) :
    Shows disk path settings := by
  have loads := stands.loads
  refine ⟨?_, ?_, fun name => ?_⟩
  · rw [load_run, loads]
  · rw [loadTemplates, StateT.run_bind, load_run, loads]
    rfl
  · rw [loadTemplate, StateT.run_bind, load_run, loads]
    rfl

/--
The file is a map from names to templates.  After any saves it holds the sizes that it held
before, and of its templates what the saves have made of them one after the other: under
each name the template of the last save, unless that has removed the name, and what stood
there before where no save was.  Where the file cannot be loaded, every save says so and
leaves it alone.
-/
theorem templates_of_saveAll
    (disk : Disk)
    (path : String)
    (calls : List Save) :
    (∀ first,
        (load Disk.fileAccess path).run disk = (.ok first, disk) →
          disk.Takes path →
            ∃ later last,
              (saveAll Disk.fileAccess path calls).run disk =
                  (List.replicate calls.length (.ok ()), later) ∧
                Shows later path last ∧
                last.stream = first.stream ∧
                last.templates = calls.foldl applySave first.templates ∧
                ∀ name,
                  last.templates.get? name =
                    match calls.reverse.find? (·.1 = name) with
                    | some call => if call.2.isEmpty then none else some call.2
                    | none => first.templates.get? name) ∧
      ∀ error,
        (load Disk.fileAccess path).run disk = (.error error, disk) →
          (saveAll Disk.fileAccess path calls).run disk =
            (List.replicate calls.length (.error error), disk) := by
  constructor
  · intro first loads takes
    have stands : Stands disk path first := ⟨congrArg Prod.fst loads, takes⟩
    rcases stands.saveAll calls with ⟨later, ran, ended⟩
    exact ⟨later, _, ran, ended.shows, rfl, rfl, get?_foldl_applySave first.templates calls⟩
  · intro error refused
    exact saveAll_of_load_error (congrArg Prod.fst refused) calls

/-- A template is removed from a file that holds one, and another one takes its place. -/
theorem templates_of_saveAll_of_removal :
    ∃ later last,
      (saveAll Disk.fileAccess "settings.toml"
            [("old", .empty), ("new \"one\"", .ofList [("c", "level = 'error'")])]).run
          ⟨[(["settings.toml"],
            bytes ⟨⟨3, 5⟩, .ofList [("old", .ofList [("f", "app.log")])]⟩)], []⟩ =
          ([.ok (), .ok ()], later) ∧
        Shows later "settings.toml" last ∧
        last.stream = ⟨3, 5⟩ ∧
        last.templates = .ofList [("new \"one\"", .ofList [("c", "level = 'error'")])] := by
  let first : Settings := ⟨⟨3, 5⟩, .ofList [("old", .ofList [("f", "app.log")])]⟩
  let disk : Disk := ⟨[(["settings.toml"], first.bytes)], []⟩
  let calls : List Save :=
    [("old", .empty), ("new \"one\"", .ofList [("c", "level = 'error'")])]
  have present : ofText? first.text = some first := ofText?_text ⟨by decide, by decide⟩
  have read : disk.read "settings.toml" = .ok first.bytes := rfl
  have loads :
      (load Disk.fileAccess "settings.toml").run disk = (.ok first, disk) := by
    rw [load_run, read, ofRead, ofBytes_bytes, present]
  have takes : disk.Takes "settings.toml" := ⟨disk, _, rfl, rfl⟩
  rcases (templates_of_saveAll disk "settings.toml" calls).1 first loads takes with
    ⟨later, last, ran, shown, stream, templates, _⟩
  exact ⟨later, last, ran, shown, stream, templates.trans (by decide +kernel)⟩

end Settings

end LogRows
