import LogRows.Condition.SyntaxError
import LogRows.Settings.Store
import LogRows.Stream.Open

/-!
# Failures of a command

A command fails for one of a few causes.  What is printed is a chain: what could
not be done, and then what each cause says about it.
-/

namespace LogRows

/-- Why a command failed. -/
inductive Failure where
  | invalidCondition (condition : String) (error : SyntaxError)
  | noTemplateSource
  | unknownTemplate (name : String)
  | noSettingsPath
  | settingsNotLoaded (path : String) (error : SettingsError)
  | settings (error : SettingsError)
  | notWatched (path : String) (error : Stream.OpenError)
  | notRead (path : String) (error : Stream.OpenError)
deriving DecidableEq

namespace Failure

/-- What an error of the settings says, and its cause. -/
def settingsChain (error : SettingsError) : List String :=
  [error.message, error.cause]

/-- What an error of opening says, and its cause. -/
def openChain (error : Stream.OpenError) : List String :=
  [error.message, error.cause.message]

/-- The messages of a failure, the most general one first. -/
def chain : Failure → List String
  | .invalidCondition condition error =>
      ["invalid condition: " ++ error.message ++ "\n" ++ error.pointer condition]
  | .noTemplateSource => ["no settings file available to load templates from"]
  | .unknownTemplate name => ["template '" ++ name ++ "' not found"]
  | .noSettingsPath => ["no settings file location known"]
  | .settingsNotLoaded path error =>
      ("cannot load settings from " ++ path) :: settingsChain error
  | .settings error => settingsChain error
  | .notWatched path error => ("cannot watch '" ++ path ++ "'") :: openChain error
  | .notRead path error => ("cannot read '" ++ path ++ "'") :: openChain error

/-- The wording of a failure. -/
def message (failure : Failure) : String :=
  ": ".intercalate failure.chain

end Failure

/-- Compile a condition text. -/
def compileCondition (condition : String) : Except Failure Filter :=
  match Filter.compile condition with
  | .ok filter => .ok filter
  | .error error => .error (.invalidCondition condition error)

end LogRows
