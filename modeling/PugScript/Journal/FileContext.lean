import PugScript.Settings

/-!
# The script that events are about

While a script runs, the journal names it in every event. After the script it names none, whatever
it named before.
-/

namespace PugScript.Journal

structure FileContext where
  path? : Option String
  deriving DecidableEq, Repr

namespace FileContext

def outside : FileContext :=
  ⟨none⟩

def set (_ : FileContext) (path : String) : FileContext :=
  ⟨some path⟩

def clear (_ : FileContext) : FileContext :=
  outside

/-- Does something about a script. -/
def within {α : Type} (context : FileContext) (path : String) (action : FileContext → α) :
    α × FileContext :=
  let inner := context.set path
  (action inner, inner.clear)

/-- The event with the path of the script, if there is one and the preferences ask for it. -/
def attach (context : FileContext) (preferences : JournalPreferences) (event : Event) : Event :=
  match context.path? with
  | some path =>
    if preferences.includeFileContext then event.withDetail "file" path else event
  | none => event

end FileContext

end PugScript.Journal
