import Patternwright.Proofs.Value.Same
import Patternwright.Session

/-!
# What a session keeps

Few steps change a session, and each changes one thing: the configuration, the matcher, what is
saved, or the text. All that lasts through a session follows from that, step by step.

Whatever a session matches with was compiled from a configuration, though not always from the one
that it has now: the matcher stays until the next compilation. What was saved under a name comes
back as it was, unless something else was saved under the same name. A field keeps its value as long
as it is not replaced.

## Main definitions

* `Session.Moves` — what a step can make of a session
* `Session.IsCompiled` — all matchers of a session were compiled
* `Step.setsMatcher`, `Step.names` — steps that bring a matcher or a value for a field

## Main results

* `Session.moves_advance` — a step does one of these
* `Session.run_append` — the answers to steps that come after others
* `Session.IsCompiled.moves`, `Session.IsCompiled.after` — matchers stay compiled, step by step
* `Session.exists_of_accepted_mem_run` — whatever is accepted, a compiled matcher accepts it
* `Session.step_accept_after_compile` — the last compilation is the one that counts
* `Session.current_restore` — what was saved comes back
* `Session.step_same_after_save`, `Session.accept_eq_of_same` — what it is to equal what was saved
* `Session.get_after` — a field keeps its value
-/

namespace Patternwright

/-! ### Replacing fields -/

namespace Config

variable {config other : Config} {changes : List Change}

theorem get_of_overlayLists {fields : List ListField}
    (overlaid : config.overlayLists changes fields = .ok other) :
    other.scalar = config.scalar ∧ ∀ field, lastChange? (.list field) changes = none →
      other.list field = config.list field := by
  induction fields generalizing config with
  | nil =>
    obtain rfl := Except.ok.inj overlaid
    exact ⟨rfl, fun _ _ => rfl⟩
  | cons first fields ih =>
    rw [overlayLists] at overlaid
    cases last : lastChange? (.list first) changes with
    | none =>
      rw [last] at overlaid
      exact ih overlaid
    | some v =>
      rw [last] at overlaid
      obtain ⟨items, -, overlaid⟩ := bind_eq_ok_iff.mp overlaid
      obtain ⟨scalars, lists⟩ := ih overlaid
      refine ⟨scalars, fun field unchanged => (lists field unchanged).trans ?_⟩
      have differs : field ≠ first := by
        rintro rfl
        rw [last] at unchanged
        cases unchanged
      simp [setList, differs]

/-- A field without a change keeps its value. -/
theorem get_of_overlay (overlaid : config.overlay changes = .ok other) {field : Field}
    (unchanged : lastChange? field changes = none) : other.get field = config.get field := by
  obtain ⟨scalars, lists⟩ := get_of_overlayLists overlaid
  cases field with
  | scalar field =>
    rw [get, get, scalars, overlayScalars]
    simp [unchanged]
  | list field => exact congrArg Value.list (lists field unchanged)

/-- A field that is not named keeps its value when others are replaced. -/
theorem get_of_replace {pairs : List (String × Value)} (replaced : config.replace pairs = .ok other)
    {field : Field} (unnamed : field.name ∉ pairs.map Prod.fst) :
    other.get field = config.get field := by
  obtain ⟨changes, changed, overlaid⟩ := bind_eq_ok_iff.mp replaced
  refine get_of_overlay overlaid ?_
  rw [lastChange?, Option.map_eq_none_iff, List.find?_eq_none]
  intro change member same
  -- A change of the field would come from a pair with its name.
  obtain ⟨⟨name, v⟩, among, made⟩ :=
    exists_mem_of_mapM pairs changed change (List.mem_reverse.mp member)
  dsimp only at made
  split at made
  · next found named =>
    obtain rfl := Except.ok.inj made
    have named : found.name = name := by simpa using List.find?_some named
    obtain rfl : found = field := of_decide_eq_true same
    exact unnamed (named ▸ List.mem_map_of_mem among)
  · cases made

end Config

namespace Session

variable {session : Session} {next : Step} {steps : List Step}

/-! ### Steps -/

/-- What a step can make of a session. -/
inductive Moves (session : Session) : Step → Session → Prop
  | stays (next : Step) : Moves session next session
  | replaced {changes : List (String × Value)} {config : Config}
      (replaced : session.current.config.replace changes = .ok config) :
      Moves session (.replace changes) { session with current := { session.current with config } }
  | compiled {matcher : Matcher}
      (compiled : Matcher.ofConfig session.current.config = .ok matcher) :
      Moves session .compile
        { session with current := { session.current with matcher? := some matcher } }
  | saved (name : String) :
      Moves session (.save name) { session with saved := (name, session.current) :: session.saved }
  | restored {name : String} {snapshot : Snapshot}
      (found : session.saved.lookup name = some snapshot) :
      Moves session (.restore name) { session with current := snapshot }
  | wrote (text : String) : Moves session (.text text) { session with text := .text text }
  | staged {stage : Stage} {output : Value}
      (ran : stage.run session.current.config session.text = .ok output) :
      Moves session (.stage stage) { session with text := output }

theorem lift_eq_ok {α : Type} {result : Except Error α} {a : α} (lifted : lift result = .ok a) :
    result = .ok a := by
  cases result with
  | ok b => exact congrArg Except.ok (Except.ok.inj lifted)
  | error e => cases lifted

theorem find_eq_ok {name : String} {snapshot : Snapshot}
    (found : session.find name = .ok snapshot) : session.saved.lookup name = some snapshot := by
  rw [find] at found
  split at found
  · next here => rw [here, Except.ok.inj found]
  · cases found

theorem advance_of_ok {later : Session} {answer : Answer}
    (stepped : session.step next = .ok (later, answer)) : session.advance next = later := by
  rw [advance, stepped]

theorem advance_of_error {failure : Failure} (failed : session.step next = .error failure) :
    session.advance next = session := by
  rw [advance, failed]

/-- A step that succeeds does one of the things that it can do. -/
theorem moves_of_step {later : Session} {answer : Answer}
    (stepped : session.step next = .ok (later, answer)) : session.Moves next later := by
  cases next with
  | replace changes =>
    obtain ⟨config, replaced, ended⟩ := bind_eq_ok_iff.mp stepped
    obtain ⟨rfl, -⟩ := Prod.mk.inj (Except.ok.inj ended)
    exact .replaced (lift_eq_ok replaced)
  | assign field => cases stepped
  | build | explain | same =>
    obtain ⟨_, -, ended⟩ := bind_eq_ok_iff.mp stepped
    obtain ⟨rfl, -⟩ := Prod.mk.inj (Except.ok.inj ended)
    exact .stays _
  | config =>
    obtain ⟨rfl, -⟩ := Prod.mk.inj (Except.ok.inj stepped)
    exact .stays _
  | compile =>
    obtain ⟨matcher, compiled, ended⟩ := bind_eq_ok_iff.mp stepped
    obtain ⟨rfl, -⟩ := Prod.mk.inj (Except.ok.inj ended)
    exact .compiled (lift_eq_ok compiled)
  | accept texts =>
    rw [step] at stepped
    split at stepped
    · obtain ⟨rfl, -⟩ := Prod.mk.inj (Except.ok.inj stepped)
      exact .stays _
    · cases stepped
  | save name =>
    obtain ⟨rfl, -⟩ := Prod.mk.inj (Except.ok.inj stepped)
    exact .saved name
  | restore name =>
    obtain ⟨snapshot, found, ended⟩ := bind_eq_ok_iff.mp stepped
    obtain ⟨rfl, -⟩ := Prod.mk.inj (Except.ok.inj ended)
    exact .restored (find_eq_ok found)
  | text text =>
    obtain ⟨rfl, -⟩ := Prod.mk.inj (Except.ok.inj stepped)
    exact .wrote text
  | stage stage =>
    obtain ⟨output, ran, ended⟩ := bind_eq_ok_iff.mp stepped
    obtain ⟨rfl, -⟩ := Prod.mk.inj (Except.ok.inj ended)
    exact .staged (lift_eq_ok ran)

/-- Every step does one of the things that it can do; one that fails does nothing. -/
theorem moves_advance (session : Session) (next : Step) :
    session.Moves next (session.advance next) := by
  cases stepped : session.step next with
  | ok result =>
    rw [advance_of_ok stepped]
    exact moves_of_step stepped
  | error failure =>
    rw [advance_of_error stepped]
    exact .stays next

/-- What holds of a session and of what a step can make of it holds after any steps. -/
theorem after_induction (holds : Session → Prop) (start : holds session)
    (each : ∀ next ∈ steps, ∀ session later, holds session → Moves session next later →
      holds later) : holds (session.after steps) := by
  induction steps generalizing session with
  | nil => exact start
  | cons next steps ih =>
    obtain ⟨first, rest⟩ := List.forall_mem_cons.mp each
    exact ih (first session _ start (moves_advance session next)) rest

/-- The answers to steps that come after others are those of the session that these leave. -/
theorem run_append (session : Session) (steps more : List Step) :
    session.run (steps ++ more) = session.run steps ++ (session.after steps).run more := by
  induction steps generalizing session with
  | nil => rfl
  | cons next steps ih =>
    rw [List.cons_append, run, run, ih]
    rfl

/-! ### Matchers -/

/-- The matcher, if there is one, was compiled from some configuration. -/
def Snapshot.IsCompiled (snapshot : Snapshot) : Prop :=
  ∀ matcher, snapshot.matcher? = some matcher → ∃ config, Matcher.ofConfig config = .ok matcher

/-- All matchers of a session were compiled. -/
structure IsCompiled (session : Session) : Prop where
  current : session.current.IsCompiled
  saved : ∀ name snapshot, session.saved.lookup name = some snapshot → snapshot.IsCompiled

theorem isCompiled_start (config : Config) : (start config).IsCompiled := ⟨nofun, nofun⟩

theorem IsCompiled.moves {later : Session} (compiled : session.IsCompiled)
    (moves : session.Moves next later) : later.IsCompiled := by
  cases moves with
  | stays => exact compiled
  | replaced => exact ⟨compiled.current, compiled.saved⟩
  | compiled made =>
    refine ⟨fun matcher here => ?_, compiled.saved⟩
    obtain rfl := Option.some.inj here
    exact ⟨_, made⟩
  | saved name =>
    refine ⟨compiled.current, fun other snapshot found => ?_⟩
    rw [List.lookup_cons] at found
    split at found
    · obtain rfl := Option.some.inj found
      exact compiled.current
    · exact compiled.saved other snapshot found
  | restored found => exact ⟨compiled.saved _ _ found, compiled.saved⟩
  | wrote => exact ⟨compiled.current, compiled.saved⟩
  | staged => exact ⟨compiled.current, compiled.saved⟩

/-- Whatever a session does, its matchers were compiled. -/
theorem IsCompiled.after (compiled : session.IsCompiled) (steps : List Step) :
    (session.after steps).IsCompiled :=
  after_induction IsCompiled compiled fun _ _ _ _ compiled moves => compiled.moves moves

/-- Texts are accepted by the matcher that the session has. -/
theorem exists_of_accepted {later : Session} {verdicts : List Bool}
    (stepped : session.step next = .ok (later, .accepted verdicts)) :
    ∃ texts matcher, next = .accept texts ∧ session.current.matcher? = some matcher ∧
      verdicts = texts.map matcher.accepts := by
  cases next with
  | accept texts =>
    rw [step] at stepped
    split at stepped
    · next matcher here =>
      obtain ⟨-, same⟩ := Prod.mk.inj (Except.ok.inj stepped)
      exact ⟨texts, matcher, rfl, here, (Answer.accepted.inj same).symm⟩
    · cases stepped
  | assign | config | save | text => cases stepped
  | replace | build | explain | compile | restore | same | stage =>
    -- These have another answer.
    obtain ⟨_, -, ended⟩ := bind_eq_ok_iff.mp stepped
    cases ended

/-- Whatever texts a session accepts, some matcher that was compiled accepts them. -/
theorem exists_of_accepted_mem_run {verdicts : List Bool} (compiled : session.IsCompiled)
    (answered : .ok (.accepted verdicts) ∈ session.run steps) :
    ∃ texts config matcher, .accept texts ∈ steps ∧ Matcher.ofConfig config = .ok matcher ∧
      verdicts = texts.map matcher.accepts := by
  induction steps generalizing session with
  | nil => cases answered
  | cons next steps ih =>
    rcases List.mem_cons.mp answered with here | later
    · cases stepped : session.step next with
      | error failure =>
        rw [stepped] at here
        cases here
      | ok result =>
        obtain ⟨left, answer⟩ := result
        rw [stepped] at here
        obtain rfl := Except.ok.inj here
        obtain ⟨texts, matcher, rfl, held, same⟩ := exists_of_accepted stepped
        obtain ⟨config, made⟩ := compiled.current matcher held
        exact ⟨texts, config, matcher, List.mem_cons_self, made, same⟩
    · obtain ⟨texts, config, matcher, among, made⟩ :=
        ih (compiled.moves (moves_advance session next)) later
      exact ⟨texts, config, matcher, List.mem_cons_of_mem next among, made⟩

/-- The step may bring another matcher. -/
def Step.setsMatcher : Step → Bool
  | .compile | .restore _ => true
  | _ => false

theorem Moves.matcher?_eq {later : Session} (moves : session.Moves next later)
    (kept : next.setsMatcher = false) : later.current.matcher? = session.current.matcher? := by
  cases moves with
  | compiled | restored => cases kept
  | _ => rfl

theorem matcher?_after (kept : ∀ next ∈ steps, next.setsMatcher = false) :
    (session.after steps).current.matcher? = session.current.matcher? :=
  after_induction (fun later => later.current.matcher? = session.current.matcher?) rfl
    fun next member _ _ same moves => (moves.matcher?_eq (kept next member)).trans same

/-- Texts are accepted by the matcher that was compiled last, whatever the configuration has become
since then. -/
theorem step_accept_after_compile {matcher : Matcher}
    (compiled : Matcher.ofConfig session.current.config = .ok matcher)
    (kept : ∀ next ∈ steps, next.setsMatcher = false) (texts : List String) :
    ((session.advance .compile).after steps).step (.accept texts) =
      .ok ((session.advance .compile).after steps, .accepted (texts.map matcher.accepts)) := by
  have here : (session.advance .compile).current.matcher? = some matcher := by
    rw [advance, step, compiled]
    rfl
  rw [step, matcher?_after kept, here]

/-! ### Saving -/

theorem Moves.lookup_saved {later : Session} {name : String} (moves : session.Moves next later)
    (other : next ≠ .save name) : later.saved.lookup name = session.saved.lookup name := by
  cases moves with
  | saved saved =>
    have differs : (name == saved) = false := by
      rw [beq_eq_false_iff_ne]
      rintro rfl
      exact other rfl
    rw [List.lookup_cons, differs]
  | _ => rfl

theorem lookup_saved_after {name : String} (kept : ∀ next ∈ steps, next ≠ .save name) :
    (session.after steps).saved.lookup name = session.saved.lookup name :=
  after_induction (fun later => later.saved.lookup name = session.saved.lookup name) rfl
    fun next member _ _ same moves => (moves.lookup_saved (kept next member)).trans same

theorem lookup_saved_save (session : Session) (name : String) :
    (session.advance (.save name)).saved.lookup name = some session.current := by
  rw [advance, step]
  exact List.lookup_cons_self

theorem find_of_lookup {name : String} {snapshot : Snapshot}
    (here : session.saved.lookup name = some snapshot) : session.find name = .ok snapshot := by
  rw [find, here]

theorem advance_restore {name : String} {snapshot : Snapshot}
    (here : session.saved.lookup name = some snapshot) :
    session.advance (.restore name) = { session with current := snapshot } := by
  rw [advance, step, find_of_lookup here]
  rfl

/-- What was saved under a name comes back as it was, if nothing else is saved under that name. -/
theorem current_restore {name : String} (kept : ∀ next ∈ steps, next ≠ .save name) :
    (((session.advance (.save name)).after steps).advance (.restore name)).current =
      session.current := by
  have here : ((session.advance (.save name)).after steps).saved.lookup name =
      some session.current := by
    rw [lookup_saved_after kept, lookup_saved_save]
  rw [advance_restore here]

/-! ### Comparing -/

/-- The configuration and the matcher equal what was just saved of them. -/
theorem step_same_after_save {name : String}
    (definite : ∀ field, (session.current.config.get field).IsDefinite)
    (options : ∀ matcher, session.current.matcher? = some matcher → matcher.options.IsDefinite) :
    (session.advance (.save name)).step (.same name) =
      .ok (session.advance (.save name), .same true true) := by
  have matchers : sameMatcher session.current.matcher? session.current.matcher? = true := by
    cases held : session.current.matcher? with
    | none => rfl
    | some matcher => exact matcher.isSame_self (options matcher held)
  have config := Config.isSame_self definite
  rw [step, find_of_lookup (lookup_saved_save session name), ok_bind]
  change Except.ok (_, Answer.same (session.current.config.isSame session.current.config)
    (sameMatcher session.current.matcher? session.current.matcher?)) = _
  rw [config, matchers]

/-- If the matcher equals one that was saved, restoring that makes no difference to what is
accepted. -/
theorem accept_eq_of_same {later : Session} {name : String} {config : Bool}
    (compiled : session.IsCompiled)
    (stepped : session.step (.same name) = .ok (later, .same config true)) (texts : List String) :
    ((session.advance (.restore name)).step (.accept texts)).map Prod.snd =
      (session.step (.accept texts)).map Prod.snd := by
  obtain ⟨snapshot, found, ended⟩ := bind_eq_ok_iff.mp stepped
  have here := find_eq_ok found
  have same : sameMatcher session.current.matcher? snapshot.matcher? = true :=
    (Answer.same.inj (Prod.mk.inj (Except.ok.inj ended)).2).2
  rw [advance_restore here, step, step]
  cases held : session.current.matcher? with
  | none =>
    cases saved : snapshot.matcher? with
    | none => rfl
    | some other => simp [held, saved, sameMatcher] at same
  | some matcher =>
    cases saved : snapshot.matcher? with
    | none => simp [held, saved, sameMatcher] at same
    | some other =>
      rw [held, saved] at same
      obtain ⟨one, made⟩ := compiled.current matcher held
      obtain ⟨another, madeOther⟩ := compiled.saved name snapshot here other saved
      have accepts : matcher.accepts = other.accepts :=
        funext (Matcher.accepts_eq_of_isSame made madeOther same)
      simp [Except.map, accepts]

/-! ### Fields -/

/-- The step may bring another value for a field. -/
def Step.names (field : Field) : Step → Bool
  | .replace changes => (changes.map Prod.fst).contains field.name
  | .restore _ => true
  | _ => false

theorem Moves.get_eq {later : Session} {field : Field} (moves : session.Moves next later)
    (kept : next.names field = false) :
    later.current.config.get field = session.current.config.get field := by
  cases moves with
  | replaced replaced =>
    refine Config.get_of_replace replaced fun named => ?_
    rw [Step.names, List.contains_eq_mem, decide_eq_false_iff_not] at kept
    exact kept named
  | restored => cases kept
  | _ => rfl

/-- A field keeps its value as long as it is not replaced. -/
theorem get_after {field : Field} (kept : ∀ next ∈ steps, next.names field = false) :
    (session.after steps).current.config.get field = session.current.config.get field :=
  after_induction (fun later =>
    later.current.config.get field = session.current.config.get field) rfl
    fun next member _ _ same moves => (moves.get_eq (kept next member)).trans same

end Session

end Patternwright
