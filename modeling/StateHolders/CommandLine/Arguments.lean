import StateHolders.Config
import StateHolders.Path

/-! The arguments of the generating commands. Options are applied before flags, wherever they
stand, so a flag wins over an option; of two arguments that set one thing the later one wins. -/

namespace StateHolders

inductive Flag where
  | sequential
  | timestamp
  | injection (mode : String)
deriving DecidableEq, Repr

def Flag.apply (c : Config) : Flag → Except ConfigError Config
  | .sequential => .ok { c with parallel := false }
  | .timestamp => .ok { c with timestamp := true }
  | .injection mode =>
    (valueOr "--injection" mode .injectionMode (InjectionMode.ofName? mode)).map
      ({ c with injectionMode := · })

inductive Argument where
  | output (directory : String)
  | option (pair : String)
  | check
  | flag (flag : Flag)
  | color (mode : ColorMode)
  | input (path : String)
deriving DecidableEq, Repr

namespace Argument

def option? : Argument → Option String
  | .option pair => some pair
  | _ => none

def flag? : Argument → Option Flag
  | .flag f => some f
  | _ => none

def output? : Argument → Option Path
  | .output directory => some ⟨directory⟩
  | _ => none

def color? : Argument → Option ColorMode
  | .color mode => some mode
  | _ => none

def input? : Argument → Option Path
  | .input path => some ⟨path⟩
  | _ => none

def valueAfter? (name word : String) : Option String :=
  (Text.afterPrefix? name.toList word.toList).map String.ofList

/-- Reads an argument that is one word. A second input path is refused. -/
def ofWord (hasInput : Bool) (word : String) : Except ConfigError Argument :=
  if word = "--check" then .ok .check
  else if word = "--no-parallel" then .ok (.flag .sequential)
  else if word = "--timestamp" then .ok (.flag .timestamp)
  else if let some pair := valueAfter? "--option=" word then .ok (.option pair)
  else if let some directory := valueAfter? "--output=" word then .ok (.output directory)
  else if let some mode := valueAfter? "--color=" word then
    (valueOr "--color" mode .colorMode (ColorMode.ofName? mode)).map .color
  else if let some mode := valueAfter? "--injection=" word then .ok (.flag (.injection mode))
  else if word.toList.head? = some '-' || hasInput then .error (.unknownFlag word)
  else .ok (.input word)

def isInput : Argument → Bool
  | .input _ => true
  | _ => false

def ofWords (hasInput : Bool) : List String → Except ConfigError (List Argument)
  | [] => .ok []
  | word :: words =>
    if word = "-o" || word = "--output" then
      match words with
      | [] => .error (.missing .outputDirectory)
      | directory :: rest => (ofWords hasInput rest).map (.output directory :: ·)
    else if word = "--option" then
      match words with
      | [] => .error (.missing .option)
      | pair :: rest => (ofWords hasInput rest).map (.option pair :: ·)
    else
      match ofWord hasInput word with
      | .error e => .error e
      | .ok a => (ofWords (hasInput || a.isInput) words).map (a :: ·)

end Argument

structure Arguments where
  input : Path
  output : Option Path
  config : Config
  checkOnly : Bool
  color : ColorMode
deriving DecidableEq, Repr

namespace Arguments

def configOf (args : List Argument) : Except ConfigError Config := do
  let options ← (args.filterMap Argument.option?).foldlM
    (fun c pair => do
      let (key, value) ← Config.parseOption pair
      c.apply key value)
    Config.default
  (args.filterMap Argument.flag?).foldlM Flag.apply options

def parse (words : List String) : Except ConfigError Arguments := do
  let args ← Argument.ofWords false words
  let config ← configOf args
  match args.findSome? Argument.input? with
  | none => .error (.missing .input)
  | some input => return {
      input := input
      output := (args.filterMap Argument.output?).getLast?
      config := config
      checkOnly := .check ∈ args
      color := (args.filterMap Argument.color?).getLast?.getD .auto }

end Arguments
end StateHolders
