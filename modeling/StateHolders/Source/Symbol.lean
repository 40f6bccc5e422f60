/-! The library functions and types that generated source calls, and the packages whose names are
visible without an import. -/

namespace StateHolders.Source

inductive Symbol where
  | composable
  | remember
  | rememberCoroutineScope
  | rememberSaveable
  | saver
  | mapSaver
  | koinInject
  | parametersOf
deriving DecidableEq, Repr

namespace Symbol

def package : Symbol → String
  | .composable | .remember | .rememberCoroutineScope => "androidx.compose.runtime"
  | .rememberSaveable | .saver | .mapSaver => "androidx.compose.runtime.saveable"
  | .koinInject => "org.koin.compose"
  | .parametersOf => "org.koin.core.parameter"

def name : Symbol → String
  | .composable => "Composable"
  | .remember => "remember"
  | .rememberCoroutineScope => "rememberCoroutineScope"
  | .rememberSaveable => "rememberSaveable"
  | .saver => "Saver"
  | .mapSaver => "mapSaver"
  | .koinInject => "koinInject"
  | .parametersOf => "parametersOf"

def qualifiedName (s : Symbol) : String := s.package ++ "." ++ s.name

def all : List Symbol :=
  [.composable, .remember, .rememberCoroutineScope, .rememberSaveable, .saver, .mapSaver,
   .koinInject, .parametersOf]

end Symbol

def ambientScopeType : String := "kotlinx.coroutines.CoroutineScope"

def implicitPackages : List String :=
  ["kotlin", "kotlin.annotation", "kotlin.collections", "kotlin.comparisons", "kotlin.io",
   "kotlin.jvm", "kotlin.ranges", "kotlin.sequences", "kotlin.text", "java.lang"]

def isImplicitPackage (package : String) : Bool := package ∈ implicitPackages

end StateHolders.Source
