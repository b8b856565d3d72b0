import LogRows.SortedMap

/-!
# Values of a TOML document

A TOML document is a tree of tables.  While it is read, a table remembers how it
came about, because that decides what may still be added to it: a table that a
header or a key only passed through may be defined later, one made by a dotted
key may only get further dotted keys, and every other is closed.
-/

namespace LogRows.Toml

/-- A value of a finished document. -/
inductive Value where
  | string (text : String)
  | integer (number : Int)
  /-- A number with a fraction or an exponent, or one that is not finite. -/
  | float
  | boolean (truth : Bool)
  /-- A date, a time or both, in its normal form. -/
  | moment (text : String)
  | array (items : List Value)
  | table (entries : List (String × Value))
deriving Inhabited

/-- What a key stands for in a document that is being read. -/
inductive Item where
  | value (value : Value)
  /-- A table, with the marks of how it came about. -/
  | table (implicit dotted : Bool) (entries : List (String × Item))
  /-- The tables of a header in double brackets. -/
  | tables (elements : List (List (String × Item)))

/-- A table that is being read. -/
structure Section where
  /-- Whether the table was only passed through and has no definition yet. -/
  implicit : Bool
  /-- Whether the table was made by a dotted key. -/
  dotted : Bool
  entries : List (String × Item)

/-- A table that a header opens, or the document itself. -/
def Section.opened : Section :=
  ⟨false, false, []⟩

/-- The item of a table. -/
def Section.item (table : Section) : Item :=
  .table table.implicit table.dotted table.entries

/--
Change the table at a path and return what the change yields.  Tables that are
missing on the way are made; through an array of tables the way leads into its
last one.  A dotted key must not reopen a table that has a definition.
-/
def Section.update
    {Result : Type}
    (dotted : Bool)
    (change : Section → Option (Result × Section)) :
    (path : List String) → Section → Option (Result × Section)
  | [], table => change table
  | key :: path, table => do
      let (inner, restore) ←
        match lookupEntry key table.entries with
        | none => some ((⟨true, dotted, []⟩ : Section), Section.item)
        | some (.value _) => none
        | some (.table implicit wasDotted entries) =>
            if dotted && !implicit then
              none
            else
              some (⟨implicit, wasDotted, entries⟩, Section.item)
        | some (.tables elements) =>
            match elements.getLast? with
            | none => none
            | some last =>
                some (⟨false, false, last⟩,
                  fun changed => .tables (elements.dropLast ++ [changed.entries]))
      let (result, changed) ← inner.update dotted change path
      some (result, { table with entries := insertEntry key (restore changed) table.entries })

/-- Set a dotted key, which must be new. -/
def Section.setKey
    (table : Section)
    (path : List String)
    (key : String)
    (value : Value) :
    Option Section :=
  let change (target : Section) : Option (Unit × Section) :=
    if target.dotted == path.isEmpty then
      none
    else if (lookupEntry key target.entries).isSome then
      none
    else
      some ((), { target with entries := insertEntry key (.value value) target.entries })
  (table.update true change path).map (·.2)

mutual

/-- The finished value of an item. -/
def Item.finished : Item → Value
  | .value value => value
  | .table _ _ entries => .table (finishedEntries entries)
  | .tables elements => .array (finishedTables elements)

/-- The finished values of entries. -/
def finishedEntries : List (String × Item) → List (String × Value)
  | [] => []
  | (key, item) :: rest => (key, item.finished) :: finishedEntries rest

/-- The finished values of the tables of an array. -/
def finishedTables : List (List (String × Item)) → List Value
  | [] => []
  | entries :: rest => .table (finishedEntries entries) :: finishedTables rest

end

/-- A document that is being read: the finished tables, and the one under the last header. -/
structure Draft where
  root : Section
  current : Section
  /-- The path of the last header; the document itself has none. -/
  path : List String
  /-- Whether the last header was in double brackets. -/
  inArray : Bool

namespace Draft

/-- The document of which nothing has been read. -/
def start : Draft :=
  ⟨.opened, .opened, [], false⟩

/-- Put the table under the last header in its place. -/
def close (draft : Draft) : Option Section :=
  match draft.path.getLast? with
  | none => some draft.current
  | some key =>
      let place (parent : Section) : Option (Unit × Section) :=
        if draft.inArray then
          match lookupEntry key parent.entries with
          | none =>
              some ((), { parent with
                entries := insertEntry key (.tables [draft.current.entries]) parent.entries })
          | some (.tables elements) =>
              some ((), { parent with
                entries :=
                  insertEntry key (.tables (elements ++ [draft.current.entries]))
                    parent.entries })
          | some _ => none
        else
          some ((), { parent with
            entries := insertEntry key draft.current.item parent.entries })
      (draft.root.update false place draft.path.dropLast).map (·.2)

/-- Open the table of a header; a table that was only passed through goes on there. -/
def openTable (draft : Draft) (path : List String) : Option Draft := do
  let root ← draft.close
  let key ← path.getLast?
  let take (parent : Section) : Option (List (String × Item) × Section) :=
    match lookupEntry key parent.entries with
    | none => some ([], parent)
    | some (.table true false entries) =>
        some (entries, { parent with
          entries := parent.entries.filter fun entry => entry.1 ≠ key })
    | some _ => none
  let (entries, root) ← root.update false take path.dropLast
  some ⟨root, ⟨false, false, entries⟩, path, false⟩

/-- Open the next table of a header in double brackets. -/
def openElement (draft : Draft) (path : List String) : Option Draft := do
  let root ← draft.close
  let key ← path.getLast?
  let check (parent : Section) : Option (Unit × Section) :=
    match lookupEntry key parent.entries with
    | none =>
        some ((), { parent with entries := insertEntry key (.tables []) parent.entries })
    | some (.tables _) => some ((), parent)
    | some _ => none
  let (_, root) ← root.update false check path.dropLast
  some ⟨root, .opened, path, true⟩

/-- Set a key of the table under the last header. -/
def setKey (draft : Draft) (path : List String) (key : String) (value : Value) :
    Option Draft := do
  let current ← draft.current.setKey path key value
  some { draft with current := current }

end Draft

end LogRows.Toml
