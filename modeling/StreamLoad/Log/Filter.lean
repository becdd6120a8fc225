import StreamLoad.Fault
import StreamLoad.Log.Directive

/-!
# Log filters

A filter is a list of directives, written with commas between them. The
directive with the longest target decides about an event. The filter of the
environment counts when each of its directives reads well, and the one of the
settings otherwise. A directive that would cut a character is a fault in
either.
-/

namespace StreamLoad

/-- The directives of a filter, later ones replacing equal ones. -/
structure LogFilter where
  directives : List Directive
  deriving DecidableEq, Repr

namespace LogFilter

/-- The texts between the commas, without the empty ones. -/
def parts (text : String) : List (List Char) :=
  (text.toList.splitOn ',').filter fun part => !part.isEmpty

/-- A filter with a directive to use when there is none. -/
def orElse (absent : Directive) (directives : List Directive) : LogFilter :=
  ⟨if directives.isEmpty then [absent] else directives⟩

/-- The filter of a text in which every directive reads well. The first that
does not is the answer else. An empty text lets nothing pass. -/
def strict (text : String) : Except Misreading LogFilter := do
  let directives ← (parts text).mapM Directive.parse
  return orElse (.upTo 0) directives

/-- The directives that read well. -/
def legible : List (List Char) -> Except Fault (List Directive)
  | [] => .ok []
  | part :: rest =>
      match Directive.parse part with
      | .ok directive => do return directive :: (← legible rest)
      | .error .malformed => legible rest
      | .error .brokenCharacter => .error .brokenCharacter

/-- The filter of a text, leaving out what does not read well. With nothing
left, errors pass. -/
def lenient (text : String) : Except Fault LogFilter := do
  let directives ← legible (parts text)
  return orElse (.upTo LogLevel.error.detail) directives

/-- The filter of a run: the one of the environment when it reads well, else
the one of the settings. -/
def choose (environment : Option String) (logLevel : String) :
    Except Fault LogFilter :=
  match environment.map strict with
  | some (.ok filter) => .ok filter
  | some (.error .brokenCharacter) => .error .brokenCharacter
  | some (.error .malformed) => lenient logLevel
  | none => lenient logLevel

/-- The directive that decides about an event: the most particular one, and
the latest of those that are equally particular. -/
def decisive? (filter : LogFilter) (event : Event) : Option Directive :=
  (filter.directives.filter fun directive => directive.concerns event).foldl
    (fun best directive =>
      match best with
      | none => some directive
      | some other =>
          if other.yieldsTo directive then some directive else some other)
    none

/-- The filter lets an event pass. -/
def passes (filter : LogFilter) (event : Event) : Bool :=
  match filter.decisive? event with
  | some directive => event.level.detail ≤ directive.detail
  | none => false

end LogFilter
end StreamLoad
