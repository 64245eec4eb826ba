import OneTimeCode.Log.Directive

/-!
# Filtering the log

A filter is a list of directives.  Of those that speak about a line, the one with
the narrowest scope decides, and of two with the same scope the later.
-/

namespace OneTimeCode.Log

abbrev Filter := List Directive

namespace Filter

/-- The directives of a text, between commas.  The first one that cannot be read
spoils the text.  Without directives, only errors are logged. -/
def ofText (text : String) : Except Directive.Fault Filter := do
  let parts := (text.splitOn ",").filter fun part => !part.isEmpty
  let directives ← parts.mapM Directive.ofText
  if directives.isEmpty then .ok [.lines .everything (some .error)] else .ok directives

/-- The filter of a service that is not told otherwise. -/
def standard : Filter := [.lines .everything (some .info)]

/-- The filter to use for a text that may be missing or malformed. -/
def ofSetting (text : Option String) : Except Text.SplitCharacter Filter :=
  match text.map ofText with
  | none => .ok standard
  | some (.ok filter) => .ok filter
  | some (.error .malformed) => .ok standard
  | some (.error (.split fault)) => .error fault

/-- The narrower of the scopes that fit a line, and its threshold. -/
def better (line : Line) (best : Option (Scope × Threshold)) :
    Directive → Option (Scope × Threshold)
  | .span => best
  | .lines scope threshold =>
    if scope.fits line && best.all fun other => other.1.atMostAsNarrow scope then
      some (scope, threshold)
    else
      best

/-- The threshold for a line; a line that no directive fits is not logged. -/
def threshold (filter : Filter) (line : Line) : Threshold :=
  (filter.foldl (better line) none).bind Prod.snd

def admits (filter : Filter) (line : Line) : Bool :=
  (filter.threshold line).admits line.level

end Filter

end OneTimeCode.Log
