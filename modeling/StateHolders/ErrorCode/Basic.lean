/-! The codes of all diagnostics. The first digit tells the phase that raises a code. -/

namespace StateHolders

inductive ErrorCode where
  | conflictingDefaultPolicy
  | invalidAmbientScopeUsage
  | conflictingInjector
  | unresolvableDefault
  | missingProviderName
  | saveableKeyMismatch
  | missingSaveableProperty
  | inputError
  | writeError
deriving DecidableEq, Repr

namespace ErrorCode

inductive Phase where
  | extraction
  | resolution
  | persistence
  | inputOutput
deriving DecidableEq, Repr

def all : List ErrorCode :=
  [.conflictingDefaultPolicy, .invalidAmbientScopeUsage, .conflictingInjector,
   .unresolvableDefault, .missingProviderName, .saveableKeyMismatch, .missingSaveableProperty,
   .inputError, .writeError]

def text : ErrorCode → String
  | .conflictingDefaultPolicy => "E1001"
  | .invalidAmbientScopeUsage => "E1002"
  | .conflictingInjector => "E1003"
  | .unresolvableDefault => "E2001"
  | .missingProviderName => "E2002"
  | .saveableKeyMismatch => "E3001"
  | .missingSaveableProperty => "E3002"
  | .inputError => "E9001"
  | .writeError => "E9002"

def kind : ErrorCode → String
  | .conflictingDefaultPolicy => "ConflictingDefaultPolicy"
  | .invalidAmbientScopeUsage => "InvalidAmbientScopeUsage"
  | .conflictingInjector => "ConflictingInjector"
  | .unresolvableDefault => "UnresolvableDefault"
  | .missingProviderName => "MissingProviderName"
  | .saveableKeyMismatch => "SaveableKeyMismatch"
  | .missingSaveableProperty => "MissingSaveableProperty"
  | .inputError => "InputError"
  | .writeError => "WriteError"

def phase : ErrorCode → Phase
  | .conflictingDefaultPolicy | .invalidAmbientScopeUsage | .conflictingInjector => .extraction
  | .unresolvableDefault | .missingProviderName => .resolution
  | .saveableKeyMismatch | .missingSaveableProperty => .persistence
  | .inputError | .writeError => .inputOutput

/-- Reads a code in either case. No letter outside ASCII has an upper case form among the letters
of a code, so raising the ASCII letters is enough. -/
def ofText? (s : String) : Option ErrorCode :=
  all.find? fun code => code.text.toList = s.toList.map Char.toUpper

end ErrorCode
end StateHolders
