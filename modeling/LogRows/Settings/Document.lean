import LogRows.Settings
import LogRows.Toml.Document
import LogRows.Toml.Writer

/-!
# The text of a settings file

A settings file is a TOML document with a table `stream` for the sizes of
streams and a table `templates` that holds one table of strings for every
template.  What is missing takes its default and what is not known is ignored.

The same settings are always written in the same way: `stream` first, then the
templates in the order of their names, each with its flags in their order.
-/

namespace LogRows.Settings

open Toml

/-- A size: a whole number of 64 bits with sign that is not negative. -/
def sizeOf? : Toml.Value → Option Nat
  | .integer number =>
      if 0 ≤ number ∧ number ≤ greatestInteger then some number.toNat else none
  | _ => none

/-- The size under a key, or its default when the key is missing. -/
def sizeUnder?
    (entries : List (String × Toml.Value))
    (key : String)
    (otherwise : Nat) :
    Option Nat :=
  match lookupEntry key entries with
  | some value => sizeOf? value
  | none => some otherwise

/-- The size at the head of a list, or its default when the list has ended. -/
def firstSize? (items : List Toml.Value) (otherwise : Nat) : Option Nat :=
  match items with
  | value :: _ => sizeOf? value
  | [] => some otherwise

/-- The key of the queue capacity. -/
def queueCapacityKey : String :=
  "queue_capacity"

/-- The key of the size of a read. -/
def readChunkBytesKey : String :=
  "read_chunk_bytes"

/--
The sizes of streams: a table, or a list of sizes in their order.  A moment is
a table under a key of its own, so it sets no size.
-/
def streamOf? : Toml.Value → Option Stream.Config
  | .table entries => do
      let capacity ←
        sizeUnder? entries queueCapacityKey Stream.Config.default.queueCapacity
      let chunk ←
        sizeUnder? entries readChunkBytesKey Stream.Config.default.readChunkBytes
      some ⟨capacity, chunk⟩
  | .array items => do
      let capacity ← firstSize? items Stream.Config.default.queueCapacity
      let chunk ← firstSize? (items.drop 1) Stream.Config.default.readChunkBytes
      some ⟨capacity, chunk⟩
  | .moment _ => some .default
  | _ => none

/-- The key under which a moment counts as a table. -/
def momentKey : String :=
  "$__toml_private_datetime"

/-- The flags of a template, which are strings. -/
def flagsOf? : List (String × Toml.Value) → Option Template
  | [] => some .empty
  | (flag, .string value) :: rest =>
      (flagsOf? rest).map fun template => template.insert flag value
  | _ => none

/-- A template: a table of strings. -/
def templateOf? : Toml.Value → Option Template
  | .table entries => flagsOf? entries
  | .moment text => some (SortedMap.empty.insert momentKey text)
  | _ => none

/-- The templates of a table of templates. -/
def namedTemplates? : List (String × Toml.Value) → Option (SortedMap Template)
  | [] => some .empty
  | (name, value) :: rest => do
      let template ← templateOf? value
      let templates ← namedTemplates? rest
      some (templates.insert name template)

/-- The templates, which stand in a table. -/
def templatesOf? : Toml.Value → Option (SortedMap Template)
  | .table entries => namedTemplates? entries
  | _ => none

/-- The settings that the entries of a document hold. -/
def ofEntries? (entries : List (String × Toml.Value)) : Option Settings := do
  let stream ←
    match lookupEntry "stream" entries with
    | some value => streamOf? value
    | none => some .default
  let templates ←
    match lookupEntry "templates" entries with
    | some value => templatesOf? value
    | none => some .empty
  some ⟨stream, templates⟩

/-- The settings of a document. -/
def ofText? (text : String) : Option Settings := do
  ofEntries? (← Toml.parse? text)

/-- A line that sets a key. -/
def settingLine (key value : List Char) : List Char :=
  key ++ " = ".toList ++ value ++ ['\n']

/-- The lines of the sizes of streams. -/
def streamLines (stream : Stream.Config) : List Char :=
  "[stream]\n".toList ++
    settingLine queueCapacityKey.toList (Nat.toDigits 10 stream.queueCapacity) ++
    settingLine readChunkBytesKey.toList (Nat.toDigits 10 stream.readChunkBytes)

/-- The lines of a template, behind an empty one. -/
def templateLines (name : String) (template : Template) : List Char :=
  "\n[templates.".toList ++ keyText name ++ "]\n".toList ++
    template.entries.flatMap fun entry =>
      settingLine (keyText entry.1) (stringText entry.2)

/-- The lines of all templates; without any, their table is there but empty. -/
def templatesLines (templates : SortedMap Template) : List Char :=
  if templates.isEmpty then
    "\n[templates]\n".toList
  else
    templates.entries.flatMap fun entry => templateLines entry.1 entry.2

/-- The document that holds settings. -/
def text (settings : Settings) : String :=
  String.ofList (streamLines settings.stream ++ templatesLines settings.templates)

end LogRows.Settings
