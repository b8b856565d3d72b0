import LogRows.Proofs.Toml.Lines
import LogRows.Settings.Document

/-!
# Settings are read from the text they are written as

The text of settings is a header with two sizes, and then a header for every template with
its flags below it.  Names and flags come in their order, so whatever is read goes behind
what was read before it.  The draft of the document that is being read therefore always
holds the first part of the settings (`Closes`), and the finished document all of them
(`ofText?_text`).  Only the sizes have to fit whole numbers of 64 bits.
-/

namespace LogRows

namespace Settings

open Toml

/-- Sizes that fit whole numbers of 64 bits with sign. -/
structure Fits (stream : Stream.Config) : Prop where
  capacity : stream.queueCapacity ≤ greatestInteger
  chunk : stream.readChunkBytes ≤ greatestInteger

/-! ## The document that is made -/

/-- The entries of the table of sizes. -/
def sizeEntries (stream : Stream.Config) : List (String × Item) :=
  [(queueCapacityKey, .value (.integer stream.queueCapacity)),
    (readChunkBytesKey, .value (.integer stream.readChunkBytes))]

/-- The entries of a template. -/
def flagEntries (flags : List (String × String)) : List (String × Item) :=
  flags.map fun flag => (flag.1, .value (.string flag.2))

/-- The entries of the table of templates. -/
def templateEntries (templates : List (String × Template)) : List (String × Item) :=
  templates.map fun entry => (entry.1, .table false false (flagEntries entry.2.entries))

/-- The entry of the sizes. -/
def streamEntry (stream : Stream.Config) : String × Item :=
  ("stream", .table false false (sizeEntries stream))

/-- The document of sizes and templates, of which no header opens the table of templates. -/
def rootOf (stream : Stream.Config) (templates : List (String × Template)) : Section :=
  ⟨false, false, [streamEntry stream, ("templates", .table true false (templateEntries templates))]⟩

/-- What has been read when a draft is closed: the sizes and some templates. -/
def Closes (draft : Draft) (stream : Stream.Config) (templates : List (String × Template)) : Prop :=
  draft.close = some (rootOf stream templates) ∨
    templates = [] ∧ draft.close = some ⟨false, false, [streamEntry stream]⟩

theorem setKey_of_above
    {draft : Draft}
    {key : String}
    (undotted : draft.current.dotted = false)
    (above : ∀ entry ∈ draft.current.entries, entry.1 < key)
    (value : Toml.Value) :
    draft.setKey [] key value =
      some { draft with
        current :=
          { draft.current with entries := draft.current.entries ++ [(key, .value value)] } } := by
  simp only [Draft.setKey, Section.setKey, Section.update, undotted, List.isEmpty_nil,
    lookupEntry_of_above above, insertEntry_of_above above, bind, Option.bind, Option.isSome_none,
    Bool.false_eq_true, if_false]
  rfl

section

variable
    {stream : Stream.Config}
    {templates : List (String × Template)}
    {name : String}

theorem templateEntries_above
    (above : ∀ entry ∈ templates, entry.1 < name) :
    ∀ entry ∈ templateEntries templates, entry.1 < name := by
  intro entry member
  rcases List.mem_map.mp member with ⟨template, among, rfl⟩
  exact above template among

theorem templateEntries_concat (name : String) (template : Template) :
    templateEntries (templates ++ [(name, template)]) =
      templateEntries templates ++ [(name, .table false false (flagEntries template.entries))] :=
  List.map_append

/-- A header opens a table for the next template. -/
theorem openTable_of_closes
    {draft : Draft}
    (closes : Closes draft stream templates)
    (above : ∀ entry ∈ templates, entry.1 < name) :
    draft.openTable ["templates", name] =
      some ⟨rootOf stream templates, .opened, ["templates", name], false⟩ := by
  have behind : ¬ "templates" < "stream" := by decide
  have apart : "templates" ≠ "stream" := by decide
  have fresh := lookupEntry_of_above (templateEntries_above above)
  rcases closes with closed | ⟨rfl, closed⟩
  · simp [Draft.openTable, closed, rootOf, streamEntry, Section.update, lookupEntry, insertEntry,
      behind, apart, apart.symm, fresh, Section.item, Section.opened]
  · simp [Draft.openTable, closed, rootOf, streamEntry, Section.update, lookupEntry, insertEntry,
      behind, apart, apart.symm, templateEntries, Section.item, Section.opened]

/-- The table of a template is closed behind all others. -/
theorem closes_template
    (above : ∀ entry ∈ templates, entry.1 < name)
    (template : Template) :
    Closes
      ⟨rootOf stream templates, ⟨false, false, flagEntries template.entries⟩, ["templates", name],
        false⟩
      stream (templates ++ [(name, template)]) := by
  have behind : ¬ "templates" < "stream" := by decide
  have apart : "templates" ≠ "stream" := by decide
  have last := insertEntry_of_above (templateEntries_above above)
  refine .inl ?_
  simp [Draft.close, rootOf, streamEntry, Section.update, lookupEntry, insertEntry, behind, apart,
    apart.symm, last, Section.item, templateEntries_concat]

end

/-! ## The lines -/

theorem settingLine_append (key value rest : List Char) :
    settingLine key value ++ rest = key ++ ' ' :: '=' :: ' ' :: (value ++ '\n' :: rest) := by
  simp [settingLine]

/-- The lines of the flags of a template. -/
def flagLines (flags : List (String × String)) : List Char :=
  flags.flatMap fun flag => settingLine (keyText flag.1) (stringText flag.2)

theorem streamLines_append (stream : Stream.Config) (rest : List Char) :
    streamLines stream ++ rest =
      '[' :: (keyText "stream" ++ ']' :: '\n' ::
        (settingLine (keyText queueCapacityKey) (Nat.toDigits 10 stream.queueCapacity) ++
          (settingLine (keyText readChunkBytesKey) (Nat.toDigits 10 stream.readChunkBytes) ++
            rest))) := by
  have header : "[stream]\n".toList = '[' :: (keyText "stream" ++ [']', '\n']) := by
    decide +kernel
  have keys :
      queueCapacityKey.toList = keyText queueCapacityKey ∧
        readChunkBytesKey.toList = keyText readChunkBytesKey := by
    decide +kernel
  -- `unfold` would first derive equations, for which it evaluates the lines.
  delta streamLines
  rw [header, keys.1, keys.2]
  simp only [List.append_assoc, List.cons_append, List.nil_append]

theorem templateLines_append (name : String) (template : Template) (rest : List Char) :
    templateLines name template ++ rest =
      '\n' :: '[' :: (keyText "templates" ++ '.' :: (keyText name ++ ']' :: '\n' ::
        (flagLines template.entries ++ rest))) := by
  have opening : "\n[templates.".toList = '\n' :: '[' :: (keyText "templates" ++ ['.']) := by
    decide +kernel
  have closing : "]\n".toList = [']', '\n'] := rfl
  delta templateLines
  rw [opening, closing]
  simp only [flagLines, List.append_assoc, List.cons_append, List.nil_append]

/-- The flags of a template go behind those that have been read. -/
theorem readsTo_flags
    {root : Section}
    {path : List String}
    {done flags : List (String × String)}
    (ordered : KeysIncrease (done ++ flags))
    {rest : List Char}
    {final : Draft}
    (more : ReadsTo ⟨root, ⟨false, false, flagEntries (done ++ flags)⟩, path, false⟩ rest final) :
    ReadsTo ⟨root, ⟨false, false, flagEntries done⟩, path, false⟩ (flagLines flags ++ rest)
      final := by
  induction flags generalizing done with
  | nil =>
      rw [List.append_nil] at more
      exact more
  | cons flag flags ih =>
      have above : ∀ entry ∈ flagEntries done, entry.1 < flag.1 := by
        intro entry member
        rcases List.mem_map.mp member with ⟨earlier, among, rfl⟩
        exact ordered.above earlier among
      rw [List.append_cons] at ordered more
      have next := ih ordered more
      rw [flagEntries, List.map_append] at next
      rw [flagLines, List.flatMap_cons, List.append_assoc, settingLine_append]
      exact .pair (isWritten_stringText flag.2) (setKey_of_above rfl above _) next

/-- The table of the sizes. -/
theorem readsTo_sizes
    {stream : Stream.Config}
    (fits : Fits stream)
    {rest : List Char}
    {final : Draft}
    (more :
      ReadsTo ⟨.opened, ⟨false, false, sizeEntries stream⟩, ["stream"], false⟩ rest final) :
    ReadsTo .start (streamLines stream ++ rest) final := by
  have opens :
      Draft.start.openTable ["stream"] = some ⟨.opened, .opened, ["stream"], false⟩ :=
    rfl
  have fresh : ∀ entry ∈ Section.opened.entries, entry.1 < queueCapacityKey :=
    List.forall_mem_nil _
  have above :
      ∀ entry ∈ [(queueCapacityKey, Item.value (.integer stream.queueCapacity))],
        entry.1 < readChunkBytesKey := by
    rw [List.forall_mem_singleton]
    show queueCapacityKey < readChunkBytesKey
    decide
  rw [streamLines_append, settingLine_append, settingLine_append]
  refine .table opens ?_
  refine .pair (isWritten_toDigits fits.capacity) (setKey_of_above rfl fresh _) ?_
  exact .pair (isWritten_toDigits fits.chunk) (setKey_of_above rfl above _) more

theorem closes_sizes (stream : Stream.Config) :
    Closes ⟨.opened, ⟨false, false, sizeEntries stream⟩, ["stream"], false⟩ stream [] :=
  .inr ⟨rfl, rfl⟩

/-- The templates go behind those that have been read. -/
theorem readsTo_templates
    {stream : Stream.Config}
    {done templates : List (String × Template)}
    (ordered : KeysIncrease (done ++ templates))
    {draft : Draft}
    (closes : Closes draft stream done) :
    ∃ final,
      Closes final stream (done ++ templates) ∧
        ReadsTo draft (templates.flatMap fun entry => templateLines entry.1 entry.2) final := by
  induction templates generalizing done draft with
  | nil =>
      rw [List.append_nil]
      exact ⟨draft, closes, .done⟩
  | cons entry templates ih =>
      have above := ordered.above
      rw [List.append_cons] at ordered ⊢
      rcases ih ordered (closes_template above entry.2) with ⟨final, closed, further⟩
      have flags : KeysIncrease ([] ++ entry.2.entries) := entry.2.increasing
      refine ⟨final, closed, ?_⟩
      rw [List.flatMap_cons, templateLines_append]
      exact .empty (.subtable (openTable_of_closes closes above) (readsTo_flags flags further))

/-- Without templates, their table stands there all the same. -/
theorem readsTo_emptyTable (stream : Stream.Config) :
    ∃ final,
      ReadsTo ⟨.opened, ⟨false, false, sizeEntries stream⟩, ["stream"], false⟩
          "\n[templates]\n".toList final ∧
        final.close =
          some ⟨false, false,
            [streamEntry stream, ("templates", .table false false (templateEntries []))]⟩ := by
  let final : Draft := ⟨⟨false, false, [streamEntry stream]⟩, .opened, ["templates"], false⟩
  have behind : ¬ "templates" < "stream" := by decide
  have apart : "templates" ≠ "stream" := by decide
  have opens :
      Draft.openTable ⟨.opened, ⟨false, false, sizeEntries stream⟩, ["stream"], false⟩
          ["templates"] =
        some final := by
    simp [final, Draft.openTable, Draft.close, Section.update, streamEntry, lookupEntry,
      insertEntry, apart.symm, Section.item, Section.opened]
  have header :
      "\n[templates]\n".toList = '\n' :: '[' :: (keyText "templates" ++ [']', '\n']) := by
    decide +kernel
  refine ⟨final, ?_, ?_⟩
  · rw [header]
    exact .empty (.table opens .done)
  · simp [final, Draft.close, Section.update, streamEntry, insertEntry, behind, apart,
      Section.item, Section.opened, templateEntries]

/-! ## The settings that are read -/

theorem finishedEntries_flagEntries (flags : List (String × String)) :
    finishedEntries (flagEntries flags) = flags.map fun flag => (flag.1, .string flag.2) := by
  induction flags with
  | nil => rfl
  | cons flag flags ih =>
      rw [flagEntries, List.map_cons, finishedEntries, ← flagEntries, ih]
      rfl

theorem flagsOf?_finished
    {flags : List (String × String)}
    (ordered : KeysIncrease flags) :
    flagsOf? (finishedEntries (flagEntries flags)) = some ⟨flags, ordered⟩ := by
  rw [finishedEntries_flagEntries]
  induction flags with
  | nil => rfl
  | cons flag flags ih =>
      rw [List.map_cons, flagsOf?, ih ordered.tail, Option.map_some, SortedMap.insert]
      simp only [insertEntry_of_below ordered.below]

theorem finishedEntries_templateEntries (templates : List (String × Template)) :
    finishedEntries (templateEntries templates) =
      templates.map fun entry =>
        (entry.1, .table (finishedEntries (flagEntries entry.2.entries))) := by
  induction templates with
  | nil => rfl
  | cons entry templates ih =>
      rw [templateEntries, List.map_cons, finishedEntries, ← templateEntries, ih]
      rfl

theorem namedTemplates?_finished
    {templates : List (String × Template)}
    (ordered : KeysIncrease templates) :
    namedTemplates? (finishedEntries (templateEntries templates)) = some ⟨templates, ordered⟩ := by
  rw [finishedEntries_templateEntries]
  induction templates with
  | nil => rfl
  | cons entry templates ih =>
      have flags := flagsOf?_finished entry.2.increasing
      rw [List.map_cons, namedTemplates?, templateOf?, flags, ih ordered.tail]
      simp only [bind, Option.bind, SortedMap.insert, insertEntry_of_below ordered.below]

theorem sizeOf?_of_le
    {number : Nat}
    (small : number ≤ greatestInteger) :
    sizeOf? (.integer number) = some number := by
  have bounds : (0 : Int) ≤ number ∧ (number : Int) ≤ greatestInteger := by
    omega
  rw [sizeOf?, if_pos bounds, Int.toNat_natCast]

theorem streamOf?_finished
    {stream : Stream.Config}
    (fits : Fits stream) :
    streamOf? (.table (finishedEntries (sizeEntries stream))) = some stream := by
  let entries : List (String × Toml.Value) :=
    [(queueCapacityKey, .integer stream.queueCapacity),
      (readChunkBytesKey, .integer stream.readChunkBytes)]
  have finished : finishedEntries (sizeEntries stream) = entries := rfl
  have apart : queueCapacityKey ≠ readChunkBytesKey := by decide
  have first : lookupEntry queueCapacityKey entries = some (.integer stream.queueCapacity) :=
    if_pos rfl
  have second : lookupEntry readChunkBytesKey entries = some (.integer stream.readChunkBytes) :=
    (if_neg apart).trans (if_pos rfl)
  rw [finished]
  simp only [streamOf?, sizeUnder?, first, second, sizeOf?_of_le fits.capacity,
    sizeOf?_of_le fits.chunk, bind, Option.bind]

/-- What a document says of which only the entries count. -/
theorem ofEntries?_finished
    {settings : Settings}
    {implicit : Bool}
    (fits : Fits settings.stream) :
    ofEntries?
        (finishedEntries
          [streamEntry settings.stream,
            ("templates",
              .table implicit false (templateEntries settings.templates.entries))]) =
      some settings := by
  let entries : List (String × Toml.Value) :=
    [("stream", .table (finishedEntries (sizeEntries settings.stream))),
      ("templates", .table (finishedEntries (templateEntries settings.templates.entries)))]
  have apart : "stream" ≠ "templates" := by decide
  have first :
      lookupEntry "stream" entries =
        some (.table (finishedEntries (sizeEntries settings.stream))) :=
    if_pos rfl
  have second :
      lookupEntry "templates" entries =
        some (.table (finishedEntries (templateEntries settings.templates.entries))) :=
    (if_neg apart).trans (if_pos rfl)
  show ofEntries? entries = some settings
  simp only [ofEntries?, first, second, streamOf?_finished fits, templatesOf?,
    namedTemplates?_finished settings.templates.increasing, bind, Option.bind]

theorem parse?_of_readsTo
    {lines : List Char}
    {final : Draft}
    {root : Section}
    (reads : ReadsTo .start ('[' :: lines) final)
    (closes : final.close = some root) :
    Toml.parse? (String.ofList ('[' :: lines)) = some (finishedEntries root.entries) := by
  have read := reads (('[' :: lines).length + 1) (Nat.lt_succ_self _)
  rw [parse?, String.toList_ofList]
  show ((readLines? (('[' :: lines).length + 1) .start ('[' :: lines)).bind fun draft =>
    draft.close.bind fun root => some (finishedEntries root.entries)) = _
  rw [read, Option.bind_some, closes, Option.bind_some]

/-- What is left of the lines of sizes leads to a document that says the same settings. -/
theorem ofText?_of_readsTo
    {settings : Settings}
    {implicit : Bool}
    {final : Draft}
    (fits : Fits settings.stream)
    (reads :
      ReadsTo ⟨.opened, ⟨false, false, sizeEntries settings.stream⟩, ["stream"], false⟩
        (templatesLines settings.templates) final)
    (closes :
      final.close =
        some ⟨false, false,
          [streamEntry settings.stream,
            ("templates",
              .table implicit false (templateEntries settings.templates.entries))]⟩) :
    ofText? settings.text = some settings := by
  have whole := readsTo_sizes fits reads
  rw [streamLines_append] at whole
  have parsed := parse?_of_readsTo whole closes
  rw [← streamLines_append] at parsed
  rw [ofText?, text, parsed]
  exact ofEntries?_finished fits

/-- Settings whose sizes fit are read from their text. -/
theorem ofText?_text
    {settings : Settings}
    (fits : Fits settings.stream) :
    ofText? settings.text = some settings := by
  cases templates : settings.templates.entries with
  | nil =>
      have none : settings.templates.isEmpty = true := by
        rw [SortedMap.isEmpty, templates]
        rfl
      rcases readsTo_emptyTable settings.stream with ⟨final, reads, closes⟩
      have lines : templatesLines settings.templates = "\n[templates]\n".toList := by
        delta templatesLines
        rw [if_pos none]
      rw [← lines] at reads
      rw [← templates] at closes
      exact ofText?_of_readsTo fits reads closes
  | cons entry others =>
      have some : settings.templates.isEmpty ≠ true := by
        rw [SortedMap.isEmpty, templates]
        exact Bool.false_ne_true
      have ordered : KeysIncrease ([] ++ settings.templates.entries) :=
        settings.templates.increasing
      rcases readsTo_templates ordered (closes_sizes settings.stream) with
        ⟨final, closed | ⟨none, _⟩, reads⟩
      · have lines :
            templatesLines settings.templates =
              settings.templates.entries.flatMap fun entry => templateLines entry.1 entry.2 := by
          delta templatesLines
          rw [if_neg some]
        rw [← lines] at reads
        exact ofText?_of_readsTo fits reads closed
      · rw [List.nil_append, templates] at none
        cases none

/-! ## The sizes that are read -/

theorem le_of_sizeOf?
    {value : Toml.Value}
    {size : Nat}
    (read : sizeOf? value = some size) :
    size ≤ greatestInteger := by
  unfold sizeOf? at read
  split at read
  case h_1 =>
    split at read
    case isTrue bounds =>
      cases read
      omega
    case isFalse => cases read
  case h_2 => cases read

theorem le_of_sizeUnder?
    {entries : List (String × Toml.Value)}
    {key : String}
    {otherwise size : Nat}
    (small : otherwise ≤ greatestInteger)
    (read : sizeUnder? entries key otherwise = some size) :
    size ≤ greatestInteger := by
  unfold sizeUnder? at read
  split at read
  case h_1 => exact le_of_sizeOf? read
  case h_2 =>
    cases read
    exact small

theorem le_of_firstSize?
    {items : List Toml.Value}
    {otherwise size : Nat}
    (small : otherwise ≤ greatestInteger)
    (read : firstSize? items otherwise = some size) :
    size ≤ greatestInteger := by
  unfold firstSize? at read
  split at read
  case h_1 => exact le_of_sizeOf? read
  case h_2 =>
    cases read
    exact small

theorem fits_default : Fits .default :=
  ⟨by decide, by decide⟩

theorem fits_of_streamOf?
    {value : Toml.Value}
    {stream : Stream.Config}
    (read : streamOf? value = some stream) :
    Fits stream := by
  unfold streamOf? at read
  split at read
  case h_1 =>
    rcases Option.bind_eq_some_iff.mp read with ⟨capacity, first, read⟩
    rcases Option.bind_eq_some_iff.mp read with ⟨chunk, second, ⟨⟩⟩
    exact ⟨le_of_sizeUnder? fits_default.capacity first, le_of_sizeUnder? fits_default.chunk second⟩
  case h_2 =>
    rcases Option.bind_eq_some_iff.mp read with ⟨capacity, first, read⟩
    rcases Option.bind_eq_some_iff.mp read with ⟨chunk, second, ⟨⟩⟩
    exact ⟨le_of_firstSize? fits_default.capacity first, le_of_firstSize? fits_default.chunk second⟩
  case h_3 =>
    cases read
    exact fits_default
  case h_4 => cases read

/-- Whatever settings are read, their sizes fit. -/
theorem fits_of_ofText?
    {text : String}
    {settings : Settings}
    (read : ofText? text = some settings) :
    Fits settings.stream := by
  rcases Option.bind_eq_some_iff.mp read with ⟨entries, _, read⟩
  unfold ofEntries? at read
  simp only [] at read
  split at read
  case h_1 =>
    rcases Option.bind_eq_some_iff.mp read with ⟨stream, first, read⟩
    have fits := fits_of_streamOf? first
    split at read
    case h_1 | h_2 =>
      rcases Option.bind_eq_some_iff.mp read with ⟨_, _, ⟨⟩⟩
      exact fits
  case h_2 =>
    split at read
    case h_1 | h_2 =>
      rcases Option.bind_eq_some_iff.mp read with ⟨_, ⟨⟩, read⟩
      rcases Option.bind_eq_some_iff.mp read with ⟨_, _, ⟨⟩⟩
      exact fits_default

end Settings

end LogRows
