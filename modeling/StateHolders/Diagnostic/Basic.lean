import StateHolders.Problem

/-! Diagnostics: a coded message, labels that point at classes, members or files, notes, and
suggestions. -/

namespace StateHolders

inductive Severity where
  | error
  | warning
  | note
  | help
deriving DecidableEq, Repr

def Severity.text : Severity → String
  | .error => "error"
  | .warning => "warning"
  | .note => "note"
  | .help => "help"

inductive Member where
  | param (name : String)
  | property (name : String)
  | key (name : String)
deriving DecidableEq, Repr

def Member.text : Member → String
  | .param name => s!"parameter `{name}`"
  | .property name => s!"property `{name}`"
  | .key name => s!"saveable key \"{name}\""

/-- The subject is the qualified name of a class, or the path of a file. -/
structure Location where
  subject : String
  member : Option Member
deriving DecidableEq, Repr

def Location.text (l : Location) : String :=
  match l.member with
  | some member => s!"{l.subject}, {member.text}"
  | none => l.subject

structure Label where
  location : Location
  message : String
  isPrimary : Bool
deriving DecidableEq, Repr

namespace Label

def primary (subject : String) (member : Option Member) (message : String) : Label :=
  ⟨⟨subject, member⟩, message, true⟩

def secondary (subject : String) (member : Option Member) (message : String) : Label :=
  ⟨⟨subject, member⟩, message, false⟩

end Label

structure Diagnostic where
  code : ErrorCode
  severity : Severity := .error
  message : String
  labels : List Label := []
  notes : List String := []
  suggestions : List String := []
deriving DecidableEq, Repr

namespace Diagnostic

def isError (d : Diagnostic) : Bool := d.severity = .error

def primaryLocation? (d : Diagnostic) : Option Location :=
  (d.labels.find? Label.isPrimary).map Label.location

def text (d : Diagnostic) : String := s!"{d.severity.text} [{d.code.text}]: {d.message}"

end Diagnostic

namespace Problem

def labels : Problem → List Label
  | .conflictingDefaultPolicy holder param _ =>
    [.primary holder (some (.param param)) "more than one default marker"]
  | .invalidAmbientScopeUsage holder param =>
    [.primary holder (some (.param param)) "ambient scope marked for persistence"]
  | .conflictingInjector holder _ => [.primary holder none "more than one injector name"]
  | .unresolvableDefault holder param policy =>
    [.primary holder (some (.param param)) s!"{policy} requested here",
     .secondary holder none "class declares no injector"]
  | .missingProviderName holder param =>
    [.primary holder (some (.param param)) "empty provider name"]
  | .saveableKeyMismatch holder key _ _ => [.primary holder (some (.key key)) "unbalanced key"]
  | .missingSaveableProperty holder param key =>
    [.primary holder (some (.param param)) s!"persisted under \"{key}\"",
     .secondary holder none "no property carries this key"]

def notes : Problem → List String
  | .conflictingDefaultPolicy .. =>
    ["a parameter takes at most one of literal-value, framework-inject, named-inject, custom-provide, persisted-key"]
  | .invalidAmbientScopeUsage .. =>
    ["the ambient scope is captured from the caller and cannot be saved"]
  | .conflictingInjector .. => ["one injector serves every named-inject parameter of a class"]
  | .saveableKeyMismatch .. =>
    ["each saveable key must appear equally often on parameters and properties"]
  | .unresolvableDefault .. | .missingProviderName .. | .missingSaveableProperty .. => []

def suggestions : Problem → List String
  | .conflictingDefaultPolicy .. => ["keep exactly one of the markers"]
  | .invalidAmbientScopeUsage .. => ["remove the persisted-key marker"]
  | .conflictingInjector .. => ["keep a single injector marker"]
  | .unresolvableDefault .. =>
    ["declare an injector on the class or enable framework injection (--injection=framework)"]
  | .missingProviderName .. => ["name the function that provides the default"]
  | .saveableKeyMismatch .. => []
  | .missingSaveableProperty _ _ key => [s!"mark a property with persisted-key(\"{key}\")"]

def diagnostic (p : Problem) : Diagnostic where
  code := p.code
  message := p.message
  labels := p.labels
  notes := p.notes
  suggestions := p.suggestions

end Problem
end StateHolders
