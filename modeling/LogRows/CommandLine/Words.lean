import LogRows.CommandLine.Flag

/-!
# Reading the words of a command line

The words are read one after the other.  A flag whose value is to be the next
word is *pending*: it is examined only when the next flag of its level comes, or
at the end of the level, so that a fault in between is found first.  Behind `--`
no word is a flag or a command.

A level ends where the words end.  The levels below it end before it does, so
their faults come first as well.
-/

namespace LogRows.CommandLine

/-- What is wrong with a command line. -/
inductive Misuse where
  | unknownArgument (word : String)
  | unknownCommand (word : String)
  /-- A flag that may be given once is given again. -/
  | repeatedFlag (flag : Flag)
  /-- The value of a flag is missing, or empty where it cannot be. -/
  | missingValue (flag : Flag)
  | invalidNumber (flag : Flag) (value : String)
  /-- A value is given to a flag that takes none. -/
  | unexpectedValue (flag : Flag)
  | missingFlag (flag : Flag)
  /-- Flags but no command are given where a command has to be. -/
  | missingCommand
  /-- Nothing at all is given where a command has to be. -/
  | nothingGiven
deriving DecidableEq

/-- Why a command line leads to no command. -/
inductive Halt where
  | help (level : Level)
  | version
  | misuse (fault : Misuse)
deriving DecidableEq

/-- The flags that are given at one level with their values, the last one first. -/
abbrev Given :=
  List (Flag × String)

namespace Given

/-- The value that is given to a flag. -/
def value? (given : Given) (flag : Flag) : Option String :=
  (given.find? fun entry => entry.1 = flag).map (·.2)

/-- Whether a flag is given. -/
def has (given : Given) (flag : Flag) : Bool :=
  given.any fun entry => entry.1 = flag

/-- How often a flag is given. -/
def count (given : Given) (flag : Flag) : Nat :=
  given.countP fun entry => entry.1 = flag

end Given

/-- How far the words of a level have been read. -/
structure Progress where
  given : Given
  /-- The last flag, with the word that is its value if that has been read. -/
  pending? : Option (Flag × Option String)
  /-- Whether a `--` has been read. -/
  trailing : Bool

/-- The number of a decimal text, which may have a plus sign in front. -/
def sizeOf? (text : String) : Option Nat :=
  let digits :=
    match text.toList with
    | '+' :: digits => digits
    | digits => digits
  if !digits.isEmpty && digits.all Char.isDigit then
    let number :=
      digits.foldl (fun number digit => number * 10 + (digit.toNat - '0'.toNat)) 0
    if number < UInt64.size then some number else none
  else
    none

/-- Examine the value of a flag. -/
def checkValue (level : Level) (flag : Flag) (value : String) : Except Halt Unit :=
  match level.operand flag with
  | .nothing => .ok ()
  | .text => .ok ()
  | .path => if value = "" then .error (.misuse (.missingValue flag)) else .ok ()
  | .size =>
      if (sizeOf? value).isSome then
        .ok ()
      else
        .error (.misuse (.invalidNumber flag value))

namespace Progress

/-- A level of which no word has been read. -/
def start : Progress :=
  ⟨[], none, false⟩

/-- Whether the next word is the value of a flag. -/
def awaitsValue (progress : Progress) : Bool :=
  match progress.pending? with
  | some (_, none) => true
  | _ => false

/-- Take a flag with its value; only `--verbose` may be given twice. -/
def record
    (progress : Progress)
    (level : Level)
    (flag : Flag)
    (value : String) :
    Except Halt Progress := do
  if flag ≠ .verbose && progress.given.has flag then
    .error (.misuse (.repeatedFlag flag))
  checkValue level flag value
  .ok { progress with given := (flag, value) :: progress.given }

/-- Examine the pending flag, if there is one. -/
def settle (progress : Progress) (level : Level) : Except Halt Progress :=
  match progress.pending? with
  | none => .ok progress
  | some (flag, none) => .error (.misuse (.missingValue flag))
  | some (flag, some value) =>
      { progress with pending? := none }.record level flag value

/-- Take a flag that has no value. -/
def takeSwitch
    (progress : Progress)
    (level : Level)
    (flag : Flag) :
    Except Halt Progress := do
  let progress ← progress.settle level
  match flag with
  | .help => .error (.help level)
  | .version => .error .version
  | _ => progress.record level flag ""

/-- Take a flag whose value is in the same word, or else in the next one. -/
def takeOption
    (progress : Progress)
    (level : Level)
    (flag : Flag)
    (attached? : Option String) :
    Except Halt Progress := do
  let progress ← progress.settle level
  match attached? with
  | some value => progress.record level flag value
  | none => .ok { progress with pending? := some (flag, none) }

/-- Take a word behind two dashes: the name of a flag and, behind `=`, its value. -/
def takeLong
    (progress : Progress)
    (level : Level)
    (word : String)
    (body : List Char) :
    Except Halt Progress :=
  let name := body.takeWhile (· ≠ '=')
  let attached? : Option String :=
    match body.drop name.length with
    | [] => none
    | _ :: value => some (String.ofList value)
  match level.flagNamed? (String.ofList name) with
  | none => .error (.misuse (.unknownArgument word))
  | some flag =>
      if level.operand flag = .nothing then
        if attached?.isSome then
          .error (.misuse (.unexpectedValue flag))
        else
          progress.takeSwitch level flag
      else
        progress.takeOption level flag attached?

/--
Take the letters behind one dash.  What follows the letter of a flag with a
value is the value, without a `=` in front.
-/
def takeLetters
    (level : Level)
    (word : String) :
    Progress → List Char → Except Halt Progress
  | progress, [] => .ok progress
  | progress, letter :: rest =>
      match level.flagLettered? letter with
      | none => .error (.misuse (.unknownArgument word))
      | some flag =>
          if level.operand flag = .nothing then do
            takeLetters level word (← progress.takeSwitch level flag) rest
          else
            match rest with
            | [] => progress.takeOption level flag none
            | '=' :: value => progress.takeOption level flag (some (String.ofList value))
            | value => progress.takeOption level flag (some (String.ofList value))

/-- The fault of a word that is neither a flag nor a command nor a value. -/
def stray (progress : Progress) (level : Level) (word : String) : Halt :=
  if level.commands.isEmpty || (progress.trailing && (level.command? word).isSome) then
    .misuse (.unknownArgument word)
  else
    .misuse (.unknownCommand word)

/-- Take a word that names no command. -/
def takeWord
    (progress : Progress)
    (level : Level)
    (word : String) :
    Except Halt Progress :=
  if progress.trailing then
    .error (progress.stray level word)
  else
    match word.toList with
    | ['-', '-'] => .ok { progress with trailing := true }
    | '-' :: '-' :: body => progress.takeLong level word body
    | '-' :: letter :: letters => progress.takeLetters level word (letter :: letters)
    | _ =>
        match progress.pending? with
        | some (flag, none) => .ok { progress with pending? := some (flag, some word) }
        | _ => .error (progress.stray level word)

/-- The command that a word names where commands can stand. -/
def command? (progress : Progress) (level : Level) (word : String) : Option Level :=
  if progress.trailing || progress.awaitsValue then none else level.command? word

/--
End a level.  The settings path of the environment counts where none is given
on the command line, and then everything that has to be given is looked for.
-/
def finish
    (progress : Progress)
    (level : Level)
    (hasCommand : Bool)
    (defaultSettings? : Option String) :
    Except Halt Given := do
  let progress ← progress.settle level
  let given ←
    match defaultSettings? with
    | some path =>
        if progress.given.has .settings then
          .ok progress.given
        else do
          checkValue level .settings path
          .ok ((.settings, path) :: progress.given)
    | none => .ok progress.given
  if level.needsCommand && !hasCommand then
    .error (.misuse (if given.isEmpty then .nothingGiven else .missingCommand))
  match level.required.find? fun flag => !given.has flag with
  | some flag => .error (.misuse (.missingFlag flag))
  | none => .ok progress.given

end Progress

/-- The help that words behind `help` ask for: on a command, or one of its commands. -/
def helpOn (level : Level) : List String → Halt
  | [] => .help level
  | word :: rest =>
      match level.command? word with
      | some next => helpOn next rest
      | none => .misuse (.unknownCommand word)

/-- Read words from a level on; the answer tells what is given at every level, outermost first. -/
def readWords (defaultSettings? : Option String) :
    Level → Progress → List String → Except Halt (List (Level × Given))
  | level, progress, [] => do
      let given ← progress.finish level false defaultSettings?
      .ok [(level, given)]
  | level, progress, word :: rest =>
      match progress.command? level word with
      | some .help => .error (helpOn level rest)
      | some next => do
          let inner ← readWords defaultSettings? next .start rest
          let given ← progress.finish level true defaultSettings?
          .ok ((level, given) :: inner)
      | none => do
          readWords defaultSettings? level (← progress.takeWord level word) rest

end LogRows.CommandLine
