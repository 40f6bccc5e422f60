import StateHolders.InjectionMode
import StateHolders.Diagnostic.Report
import StateHolders.Text.Blank
import StateHolders.Text.Cut

/-! The settings of a run, and options of the form `key=value` that change them. -/

namespace StateHolders

structure Config where
  injectionMode : InjectionMode
  parallel : Bool
  timestamp : Bool
deriving DecidableEq, Repr

inductive ValueKind where
  | injectionMode
  | colorMode
  | boolean
deriving DecidableEq, Repr

def ValueKind.refusal (text : String) : ValueKind → String
  | .injectionMode => InjectionMode.unknownMessage text
  | .colorMode => ColorMode.unknownMessage text
  | .boolean => "expected `true` or `false`"

inductive MissingPart where
  | outputDirectory
  | option
  | input
deriving DecidableEq, Repr

def MissingPart.text : MissingPart → String
  | .outputDirectory => "output directory after `-o`"
  | .option => "`key=value` after `--option`"
  | .input => "declaration input path"

inductive ConfigError where
  | unknownOption (key : String)
  | invalidValue (key value : String) (kind : ValueKind)
  | malformed (arg : String)
  | unknownFlag (flag : String)
  | missing (part : MissingPart)
deriving DecidableEq, Repr

def ConfigError.message : ConfigError → String
  | .unknownOption key => s!"unknown option `{key}`"
  | .invalidValue key value kind =>
    s!"invalid value `{value}` for `{key}`: {kind.refusal value}"
  | .malformed arg => s!"malformed option `{arg}`, expected `key=value`"
  | .unknownFlag flag => s!"unknown flag `{flag}`"
  | .missing part => s!"missing {part.text}"

def valueOr (key text : String) (kind : ValueKind) : Option α → Except ConfigError α
  | some a => .ok a
  | none => .error (.invalidValue key text kind)

def boolean? : String → Option Bool
  | "true" => some true
  | "false" => some false
  | _ => none

namespace Config

def default : Config := ⟨.none, true, false⟩

inductive Setting where
  | injectionMode
  | parallel
  | timestamp
deriving DecidableEq, Repr

/-- The injection mode goes by two keys. -/
def setting? : String → Option Setting
  | "rmbr.injectionType" | "genrmbr.injectionType" => some .injectionMode
  | "rmbr.parallel" => some .parallel
  | "rmbr.timestamp" => some .timestamp
  | _ => none

def assign {α : Type} (key text : String) (kind : ValueKind) (read? : String → Option α)
    (set : α → Config → Config) : EStateM ConfigError Config Unit := do
  let value ← ofExcept (valueOr key text kind (read? text))
  modify (set value)

/-- One option on a configuration that is there also after a refusal. -/
def update (key value : String) : EStateM ConfigError Config Unit :=
  match setting? key with
  | some .injectionMode =>
    assign key value .injectionMode InjectionMode.ofName? fun mode c => { c with injectionMode := mode }
  | some .parallel => assign key value .boolean boolean? fun on c => { c with parallel := on }
  | some .timestamp => assign key value .boolean boolean? fun on c => { c with timestamp := on }
  | none => throw (.unknownOption key)

def apply (c : Config) (key value : String) : Except ConfigError Config :=
  match (update key value).run c with
  | .ok _ c' => .ok c'
  | .error e _ => .error e

def applyAll (c : Config) (options : List (String × String)) : Except ConfigError Config :=
  options.foldlM (fun c (key, value) => c.apply key value) c

def ofOptions (options : List (String × String)) : Except ConfigError Config :=
  default.applyAll options

/-- Splits an option at its first equals sign. The key must not be blank. -/
def parseOption (arg : String) : Except ConfigError (String × String) :=
  match Text.cutFirst? '=' arg.toList with
  | some (key, value) =>
    if Text.trim key = [] then .error (.malformed arg)
    else .ok (String.ofList (Text.trim key), String.ofList (Text.trim value))
  | none => .error (.malformed arg)

end Config
end StateHolders
