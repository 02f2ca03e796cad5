namespace Sitewright

inductive Event.Level where
  | info
  | warning
  | error
  deriving Repr, DecidableEq

def Event.Level.name : Event.Level → String
  | .info => "INFO"
  | .warning => "WARNING"
  | .error => "ERROR"

/-- What a run tells the person who watches it. -/
inductive Event where
  | callSkipped (index : Nat) (name reason : String)
  | siteEmpty (path : String)
  | settingsIgnored (path reason : String)
  | planIgnored (path reason : String)
  | planReused (calls : Nat)
  | assetsChanged
  | sourceChanged
  | modelAsked (base model : String)
  | modelAnswered (calls : Nat)
  | planSaved (path : String)
  | planNotSaved (reason : String)
  | built (status : String) (routes applied skipped : Nat)
  | buildFailed (reason : String)
  deriving Repr, DecidableEq

namespace Event

/-- The name of a call in a message, which has to show something. -/
def shownName (name : String) : String := if name = "" then "?" else name

def level : Event → Level
  | callSkipped .. | siteEmpty .. | settingsIgnored .. | planNotSaved .. => .warning
  | buildFailed .. => .error
  | _ => .info

def message : Event → String
  | callSkipped index name reason =>
    s!"Skipping tool call #{index} ({shownName name}): {reason}"
  | siteEmpty path => s!"Site has no pages; serving diagnostic page at {path}"
  | settingsIgnored path reason => s!"Ignoring invalid {path}: {reason}"
  | planIgnored path reason => s!"Ignoring unusable plan cache {path}: {reason}"
  | planReused calls => s!"Using cached compiled plan ({calls} tool calls)"
  | assetsChanged => "Cached plan found but the asset inventory changed; recompiling"
  | sourceChanged => "Cached plan is older than the source; recompiling"
  | modelAsked base model => s!"Requesting tool calls from {base} (model {model})"
  | modelAnswered calls => s!"Model returned {calls} tool call(s)"
  | planSaved path => s!"Cached compiled plan at {path}"
  | planNotSaved reason => reason
  | built status routes applied skipped =>
    s!"Build {status}: {routes} route(s), {applied} call(s) applied, {skipped} skipped"
  | buildFailed reason => s!"Build failed; keeping previous routes: {reason}"

def line (e : Event) : String := s!"{e.level.name} {e.message}"

end Event

end Sitewright
