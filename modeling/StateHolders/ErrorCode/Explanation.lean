import StateHolders.ErrorCode.Basic

/-! The long description of every error code. -/

namespace StateHolders.ErrorCode

def paragraphs (lines : List String) : String := String.join (lines.map (· ++ "\n"))

def explanation : ErrorCode → String
  | .conflictingDefaultPolicy => paragraphs
    ["# E1001: Conflicting default policy",
     "",
     "A constructor parameter carries more than one default-policy marker.",
     "",
     "At most one of `literal-value` (or a typed literal), `framework-inject`,",
     "`named-inject`, `custom-provide` and `persisted-key` may appear on a single",
     "parameter. Combining them leaves the generated default ambiguous, so the",
     "class is rejected instead of silently picking one.",
     "",
     "## Example",
     "",
     "```json",
     "\x7b\"name\": \"count\", \"type\": \"Int\", \"markers\": [",
     "  \x7b\"kind\": \"literal-value\", \"expr\": \"10\"\x7d,",
     "  \x7b\"kind\": \"custom-provide\", \"provider\": \"initialCount\"\x7d",
     "]\x7d",
     "```",
     "",
     "## Solution",
     "",
     "Keep exactly one of the markers. A parameter with `persisted-key` is restored",
     "from the save map and takes no default at all."]
  | .invalidAmbientScopeUsage => paragraphs
    ["# E1002: Invalid ambient-scope usage",
     "",
     "A parameter typed `kotlinx.coroutines.CoroutineScope` is marked with",
     "`persisted-key`.",
     "",
     "The ambient scope is captured from the caller's composition with",
     "`rememberCoroutineScope()` and cannot be written into a save map.",
     "",
     "## Solution",
     "",
     "Remove the `persisted-key` marker. The scope parameter defaults to the",
     "ambient scope automatically."]
  | .conflictingInjector => paragraphs
    ["# E1003: Conflicting injector",
     "",
     "A class carries several `injector` markers with different names.",
     "",
     "Every `named-inject` parameter of a class is resolved through the same",
     "injector function, so the class may name only one. Repeating the same name is",
     "accepted.",
     "",
     "## Example",
     "",
     "```json",
     "\x7b\"qualifiedName\": \"com.example.Screen\", \"markers\": [",
     "    \x7b\"kind\": \"remember\"\x7d,",
     "    \x7b\"kind\": \"injector\", \"name\": \"inject\"\x7d,",
     "    \x7b\"kind\": \"injector\", \"name\": \"get\"\x7d",
     "]\x7d",
     "```",
     "",
     "## Solution",
     "",
     "Keep a single `injector` marker."]
  | .unresolvableDefault => paragraphs
    ["# E2001: Unresolvable default",
     "",
     "A parameter asks for an injected default, but nothing can provide it:",
     "",
     "- `named-inject` is used and the class declares no `injector`, and framework",
     "  injection is disabled;",
     "- `framework-inject` is used and framework injection is disabled.",
     "",
     "## Solution",
     "",
     "Declare an injector on the class (`\x7b\"kind\": \"injector\", \"name\": \"inject\"\x7d`),",
     "enable framework injection for the run (`--injection=framework` or",
     "`--option rmbr.injectionType=koin`), or set it for the class",
     "(`\x7b\"kind\": \"injection-mode\", \"mode\": \"framework\"\x7d`)."]
  | .missingProviderName => paragraphs
    ["# E2002: Missing provider name",
     "",
     "A `custom-provide` marker has an empty `provider`. The generated default is a",
     "call to that function, so a name is required.",
     "",
     "## Solution",
     "",
     "Name the provider function: `\x7b\"kind\": \"custom-provide\", \"provider\": \"injectClass\"\x7d`."]
  | .saveableKeyMismatch => paragraphs
    ["# E3001: Saveable key mismatch",
     "",
     "In a `remember-saveable` class the saveable keys on constructor parameters",
     "and the saveable keys on properties must form the same multiset: every key",
     "appears the same number of times on both sides, compared case-sensitively.",
     "",
     "A property key with no parameter counterpart is saved but never restored, and",
     "differing duplicate counts make the save map ambiguous.",
     "",
     "## Solution",
     "",
     "Give every persisted parameter exactly one property with the same key, and",
     "remove property keys that no parameter reads back."]
  | .missingSaveableProperty => paragraphs
    ["# E3002: Missing saveable property",
     "",
     "A constructor parameter carries `persisted-key(\"k\")` but no property of the",
     "class carries the same key. The saver cannot read a value to store under `k`.",
     "",
     "## Solution",
     "",
     "Mark the property holding the value with `\x7b\"kind\": \"persisted-key\", \"key\": \"k\"\x7d`."]
  | .inputError => paragraphs
    ["# E9001: Input error",
     "",
     "The declaration input could not be read or parsed. Input is a JSON file with",
     "one declaration or an array of declarations, or a directory of such files."]
  | .writeError => paragraphs
    ["# E9002: Write error",
     "",
     "A generated unit could not be written to the output directory. Check that the",
     "directory exists or can be created and is writable.",
     "",
     "With `--check`, the same code reports generated files that are out of date:",
     "the output directory does not match what a fresh run would write. Run",
     "`rmbr generate` without `--check` to update them."]

end StateHolders.ErrorCode
