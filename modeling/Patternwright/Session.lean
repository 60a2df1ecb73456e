import Patternwright.Explain

/-!
# Sessions

A session works on one configuration. It is changed, built, compiled and explained step by step; the
matcher of the last compilation stays until the next one, however the configuration changes. Both
can be saved under a name and brought back. A session also has a text that single stages work on.

A step that fails leaves the session as it was, and the session goes on.

## Main definitions

* `Session` — the state of a session
* `Session.Step`, `Session.Answer` — what can be done, and what is answered
* `Session.step` — the answer to a step and the state after it
* `Session.advance`, `Session.after` — the state after a step that may fail, and after several
* `Session.run` — the answers to several steps
-/

namespace Patternwright

/-- A configuration and the matcher that goes with it, if there is one. -/
structure Session.Snapshot where
  config : Config
  matcher? : Option Matcher

/-- The state of a session. -/
structure Session where
  current : Session.Snapshot
  saved : List (String × Session.Snapshot)
  text : Value

namespace Session

/-- Something to do in a session. -/
inductive Step where
  | replace (changes : List (String × Value))
  | assign (field : String)
  | build
  | config
  | explain
  | compile
  | accept (texts : List String)
  | save (name : String)
  | restore (name : String)
  | same (name : String)
  | text (text : String)
  | stage (stage : Stage)

/-- The answer to a step. -/
inductive Answer where
  | shape (shape? : Option Shape)
  | built (shape? : Option Shape) (pattern : String)
  | config (config : Config)
  | text (text : Value)
  | matcher (matcher : Matcher)
  | accepted (verdicts : List Bool)
  | same (config matcher : Bool)
  | saved

/-- Why a step fails. -/
inductive Failure where
  | error (error : Error)
  /-- Texts are to be matched before anything was compiled. -/
  | noMatcher
  /-- Nothing was saved under the name. -/
  | notSaved (name : String)

/-- A session at its start. -/
def start (config : Config) : Session := ⟨⟨config, none⟩, [], .text ""⟩

/-- The value of a part of the program that may fail. -/
def lift {α : Type} : Except Error α → Except Failure α
  | .ok a => .ok a
  | .error e => .error (.error e)

/-- What was last saved under a name. -/
def find (session : Session) (name : String) : Except Failure Snapshot :=
  match session.saved.lookup name with
  | some snapshot => .ok snapshot
  | none => .error (.notSaved name)

/-- Two matchers that may be missing are the same. -/
def sameMatcher : Option Matcher → Option Matcher → Bool
  | none, none => true
  | some matcher, some other => matcher.isSame other
  | _, _ => false

/-- The state after a step, and the answer to it. -/
def step (session : Session) : Step → Except Failure (Session × Answer)
  | .replace changes => do
    let config ← lift (session.current.config.replace changes)
    return ({ session with current := { session.current with config } },
      .shape (Shape.select? config))
  | .assign field => .error (.error (.frozenField field))
  | .build => do
    let (shape?, pattern) ← lift (Pipeline.build session.current.config)
    return (session, .built shape? pattern)
  | .config => .ok (session, .config session.current.config)
  | .explain => do
    let explanation ← lift (Explanation.ofConfig session.current.config)
    return (session, .text (.text explanation.toText))
  | .compile => do
    let matcher ← lift (Matcher.ofConfig session.current.config)
    return ({ session with current := { session.current with matcher? := some matcher } },
      .matcher matcher)
  | .accept texts =>
    match session.current.matcher? with
    | some matcher => .ok (session, .accepted (texts.map matcher.accepts))
    | none => .error .noMatcher
  | .save name => .ok ({ session with saved := (name, session.current) :: session.saved }, .saved)
  | .restore name => do
    let snapshot ← session.find name
    return ({ session with current := snapshot }, .shape (Shape.select? snapshot.config))
  | .same name => do
    let snapshot ← session.find name
    return (session, .same (session.current.config.isSame snapshot.config)
      (sameMatcher session.current.matcher? snapshot.matcher?))
  | .text text => .ok ({ session with text := .text text }, .text (.text text))
  | .stage stage => do
    let output ← lift (stage.run session.current.config session.text)
    return ({ session with text := output }, .text output)

/-- The session after a step. A step that fails leaves it as it was. -/
def advance (session : Session) (next : Step) : Session :=
  match session.step next with
  | .ok (later, _) => later
  | .error _ => session

/-- The session after several steps. -/
def after (session : Session) (steps : List Step) : Session := steps.foldl advance session

/-- The answers to steps in order. -/
def run (session : Session) : List Step → List (Except Failure Answer)
  | [] => []
  | next :: steps => (session.step next).map Prod.snd :: (session.advance next).run steps

end Session

end Patternwright
