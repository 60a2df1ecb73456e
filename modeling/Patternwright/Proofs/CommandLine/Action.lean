import Patternwright.CommandLine.Run
import Patternwright.Proofs.Directory

/-!
# What actions leave

An action leaves its effects whether it gives a result or breaks off. So what holds of the effects
before an action holds after it if no part of it changes that, and this is told for the parts and
for actions that come one after the other.

Most actions of a command only read and make something. They put events into the journal but touch
neither the files nor the output. Such an action may break off at any time without leaving more than
its journal. An action that writes is different: it may break off as long as it has not begun to,
and what it does from there on cannot go wrong.

## Main definitions

* `Action.Keeps` — a property of the effects holds after an action if it holds before it
* `Effects.Shows`, `Action.IsSilent` — an action leaves files and output as they are
* `Action.FailsSilently` — an action that breaks off has left files and output as they are
* `Effects.IsPending` — no event of the journal is about a command that failed

## Main results

* `Action.Keeps.bind`, `Action.IsSilent.bind_failsSilently` — one action after the other
* `Action.failsSilently_present` — writing a result does not break off in the middle
* `failsSilently_execute`, `keeps_isPending_execute` — what this comes to for a command
-/

namespace Patternwright

/-! ### Events -/

namespace Event

/-- The event is about something other than the failure of a command. -/
def IsInner (event : Event) : Prop := ∀ command, event ≠ .commandFailed command

end Event

namespace Journal

variable {config : Config} {event : Event}

theorem isInner_of_mem_ofBuild (member : event ∈ ofBuild config) : event.IsInner := by
  unfold ofBuild ofStages at member
  rintro command rfl
  split at member <;> simp at member

theorem isInner_of_mem_ofCompile (member : event ∈ ofCompile config) : event.IsInner := by
  rcases List.mem_append.mp member with member | member
  · exact isInner_of_mem_ofBuild member
  · rintro command rfl
    split at member <;> simp at member

theorem isInner_of_mem_ofExplanation (member : event ∈ ofExplanation config) : event.IsInner := by
  rcases List.mem_append.mp member with member | member
  · exact isInner_of_mem_ofBuild member
  · rintro command rfl
    unfold ofStages at member
    split at member <;> simp at member

end Journal

namespace CommandLine

/-- The files, the input and the output are these. -/
def Effects.Shows (world : World) (output : String) (effects : Effects) : Prop :=
  effects.world = world ∧ effects.output = output

/-- The journal does not say that a command failed. -/
def Effects.IsPending (effects : Effects) : Prop := ∀ event ∈ effects.events, event.IsInner

namespace Action

variable {α β : Type} {holds : Effects → Prop}

/-! ### One action after the other -/

/-- What an action leaves, however it ends. -/
def left (action : Action α) (before : Effects) : Effects :=
  match action before with
  | .ok _ after => after
  | .error _ after => after

theorem left_of_ok {action : Action α} {before after : Effects} {a : α}
    (ended : action before = .ok a after) : action.left before = after := by
  rw [left, ended]

theorem left_of_error {action : Action α} {before after : Effects} {error : Error}
    (ended : action before = .error error after) : action.left before = after := by
  rw [left, ended]

theorem bind_of_ok {first : Action α} {next : α → Action β} {before after : Effects} {a : α}
    (ended : first before = .ok a after) : (first >>= next) before = next a after := by
  change EStateM.bind first next before = _
  rw [EStateM.bind, ended]

theorem bind_of_error {first : Action α} {next : α → Action β} {before after : Effects}
    {error : Error} (ended : first before = .error error after) :
    (first >>= next) before = .error error after := by
  change EStateM.bind first next before = _
  rw [EStateM.bind, ended]

/-- Of two actions the first one breaks off, or the second one does. -/
theorem bind_eq_error {first : Action α} {next : α → Action β} {before after : Effects}
    {error : Error} (ended : (first >>= next) before = .error error after) :
    first before = .error error after ∨
      ∃ a between, first before = .ok a between ∧ next a between = .error error after := by
  cases started : first before with
  | ok a between => exact .inr ⟨a, between, rfl, (bind_of_ok started).symm.trans ended⟩
  | error cause between =>
    rw [bind_of_error started] at ended
    cases ended
    exact .inl rfl

theorem get_bind (next : Effects → Action β) (before : Effects) :
    (get >>= next) before = next before before := rfl

/-- A property of the effects holds after an action if it holds before it, however the action
ends. -/
def Keeps (holds : Effects → Prop) (action : Action α) : Prop :=
  ∀ before, holds before → holds (action.left before)

theorem Keeps.bind {first : Action α} {next : α → Action β} (keepsFirst : Keeps holds first)
    (keepsNext : ∀ a, Keeps holds (next a)) : Keeps holds (first >>= next) := by
  intro before held
  have middle := keepsFirst before held
  cases ended : first before with
  | ok a after =>
    rw [left_of_ok ended] at middle
    rw [left, bind_of_ok ended]
    exact keepsNext a after middle
  | error error after =>
    rw [left_of_error ended] at middle
    rwa [left_of_error (bind_of_error ended)]

theorem keeps_pure (a : α) : Keeps holds (pure a) := fun _ held => held

theorem keeps_throw (error : Error) : Keeps holds (throw error : Action α) := fun _ held => held

theorem keeps_get : Keeps holds (get : Action Effects) := fun _ held => held

theorem keeps_of (result : Except Error α) : Keeps holds (of result) := by
  cases result with
  | ok a => exact keeps_pure a
  | error error => exact keeps_throw error

theorem keeps_configure (settings : List Setting) : Keeps holds (configure settings) :=
  keeps_get.bind fun _ => keeps_of _

theorem keeps_gather (settings : List Setting) : Keeps holds (gather settings) :=
  keeps_get.bind fun _ => keeps_of _

/-! ### Reading and making -/

section Steps

variable {settings : List Setting} {config : Config} {error : Error} (before : Effects)

theorem configure_of_ok (configured : configOf before.world settings = .ok config) :
    configure settings before = .ok config before := by
  rw [configure, get_bind, configured]
  rfl

theorem configure_of_error (failed : configOf before.world settings = .error error) :
    configure settings before = .error error before := by
  rw [configure, get_bind, failed]
  rfl

theorem gather_of_ok {samples : List String}
    (gathered : samplesOf before.world settings = .ok samples) :
    gather settings before = .ok samples before := by
  rw [gather, get_bind, gathered]
  rfl

theorem compile_of_ok {matcher : Matcher} (compiled : Matcher.ofConfig config = .ok matcher) :
    compile config before =
      .ok matcher { before with events := before.events ++ Journal.ofCompile config } := by
  rw [compile, compiled]
  rfl

theorem compile_of_error (failed : Matcher.ofConfig config = .error error) :
    compile config before =
      .error error { before with events := before.events ++ Journal.ofCompile config } := by
  rw [compile, failed]
  rfl

end Steps

/-! ### Silent actions -/

/-- An action leaves the files, the input and the output as they are. -/
def IsSilent (action : Action α) : Prop := ∀ world output, Keeps (Effects.Shows world output) action

theorem isSilent_record (events : List Event) : IsSilent (record events) := fun _ _ _ shown => shown

theorem isSilent_configure (settings : List Setting) : IsSilent (configure settings) :=
  fun _ _ => keeps_configure settings

theorem isSilent_gather (settings : List Setting) : IsSilent (gather settings) :=
  fun _ _ => keeps_gather settings

theorem isSilent_compile (config : Config) : IsSilent (compile config) :=
  fun world output => (isSilent_record _ world output).bind fun _ => keeps_of _

theorem isSilent_explain (config : Config) : IsSilent (explain config) :=
  fun world output => (isSilent_record _ world output).bind fun _ => keeps_of _

/-- If an action breaks off, the files, the input and the output are as they were before it. -/
def FailsSilently (action : Action α) : Prop :=
  ∀ before error after, action before = .error error after →
    after.Shows before.world before.output

theorem IsSilent.left_shows {action : Action α} (silent : IsSilent action) (before : Effects) :
    (action.left before).Shows before.world before.output :=
  silent _ _ before ⟨rfl, rfl⟩

theorem IsSilent.failsSilently {action : Action α} (silent : IsSilent action) :
    FailsSilently action := by
  intro before error after ended
  rw [← left_of_error ended]
  exact silent.left_shows before

/-- A silent action may come before one that breaks off silently. -/
theorem IsSilent.bind_failsSilently {first : Action α} {next : α → Action β}
    (silent : IsSilent first) (later : ∀ a, FailsSilently (next a)) :
    FailsSilently (first >>= next) := by
  intro before error after ended
  rcases bind_eq_error ended with failed | ⟨a, between, started, failed⟩
  · exact silent.failsSilently before error after failed
  · have middle := silent.left_shows before
    rw [left_of_ok started] at middle
    rw [← middle.1, ← middle.2]
    exact later a between error after failed

/-- What cannot break off may come behind anything. -/
theorem FailsSilently.bind_pure {first : Action α} (fails : FailsSilently first) (b : β) :
    FailsSilently (first >>= fun _ => pure b) := by
  intro before error after ended
  rcases bind_eq_error ended with failed | ⟨a, between, started, failed⟩
  · exact fails before error after failed
  · cases failed

/-! ### Writing -/

/-- Writing on standard output puts the text there. -/
theorem write_standardStream (text : String) (before : Effects) :
    write text standardStream before =
      .ok () { before with output := before.output ++ closeLine text } := by
  rw [write, if_pos rfl]
  rfl

/-- Nothing happens if a path is not that of a file. -/
theorem write_of_error {text path : String} {before : Effects} {error : Error}
    (other : path ≠ standardStream) (refused : before.world.files.target path = .error error) :
    write text path before = .error error before := by
  rw [write, if_neg other, get_bind, refused]
  rfl

/-- Writing to the path of a file gives it the text for its content. -/
theorem write_of_target {text path name : String} {before : Effects}
    (other : path ≠ standardStream) (found : before.world.files.target path = .ok name) :
    write text path before = .ok () { before with
      world := { before.world with
        files := before.world.files.put name (Encoding.encode (closeLine text).toList) } } := by
  rw [write, if_neg other, get_bind, found]
  -- The file is emptied first, which does not show in the end.
  change EStateM.Result.ok () { before with
    world := { before.world with files := (before.world.files.put name []).put name _ } } = _
  rw [Directory.put_put]

/-- Writing breaks off before it begins, or not at all. -/
theorem failsSilently_write (text path : String) : FailsSilently (write text path) := by
  intro before error after ended
  by_cases standard : path = standardStream
  · rw [standard, write_standardStream] at ended
    cases ended
  · cases found : before.world.files.target path with
    | error cause =>
      rw [write_of_error standard found] at ended
      cases ended
      exact ⟨rfl, rfl⟩
    | ok name =>
      rw [write_of_target standard found] at ended
      cases ended

/-- The value is a document, or nothing is written. -/
theorem failsSilently_writeDocument (value : Value) (path : String) :
    FailsSilently (writeDocument value path) := by
  rw [writeDocument]
  split
  · exact failsSilently_write _ path
  · exact IsSilent.failsSilently fun _ _ => keeps_throw _

theorem failsSilently_present (layout : Layout) (value : Value) (text path : String) :
    FailsSilently (present layout value text path) := by
  cases layout with
  | json => exact failsSilently_writeDocument value path
  | text => exact failsSilently_write text path

/-- Writing keeps what putting something out keeps and giving files another content keeps. -/
theorem keeps_write (prints : ∀ text, Keeps holds (print text))
    (fills : ∀ name bytes, Keeps holds (fill name bytes)) (text path : String) :
    Keeps holds (write text path) := by
  rw [write]
  split
  · exact prints _
  · exact keeps_get.bind fun _ => (keeps_of _).bind fun name =>
      (fills name _).bind fun _ => fills name _

theorem keeps_present (prints : ∀ text, Keeps holds (print text))
    (fills : ∀ name bytes, Keeps holds (fill name bytes)) (layout : Layout) (value : Value)
    (text path : String) : Keeps holds (present layout value text path) := by
  cases layout with
  | json =>
    rw [present, writeDocument]
    split
    · exact keeps_write prints fills _ path
    · exact keeps_throw _
  | text => exact keeps_write prints fills text path

/-! ### The journal -/

theorem keeps_isPending_record {events : List Event} (inner : ∀ event ∈ events, event.IsInner) :
    Keeps Effects.IsPending (record events) :=
  fun _ pending => List.forall_mem_append.mpr ⟨pending, inner⟩

theorem keeps_isPending_compile (config : Config) : Keeps Effects.IsPending (compile config) :=
  (keeps_isPending_record fun _ => Journal.isInner_of_mem_ofCompile).bind fun _ => keeps_of _

theorem keeps_isPending_explain (config : Config) : Keeps Effects.IsPending (explain config) :=
  (keeps_isPending_record fun _ => Journal.isInner_of_mem_ofExplanation).bind fun _ => keeps_of _

theorem keeps_isPending_write (text path : String) : Keeps Effects.IsPending (write text path) :=
  keeps_write (fun _ _ pending => pending) (fun _ _ _ pending => pending) text path

theorem keeps_isPending_present (layout : Layout) (value : Value) (text path : String) :
    Keeps Effects.IsPending (present layout value text path) :=
  keeps_present (fun _ _ pending => pending) (fun _ _ _ pending => pending) layout value text path

end Action

/-! ### Commands -/

/-- Whatever makes a command break off, it comes before the command has written anything. -/
theorem failsSilently_execute (request : Request) : Action.FailsSilently (execute request) := by
  obtain ⟨isVerbose, command, settings⟩ := request
  cases command with
  | build =>
    exact (Action.isSilent_configure settings).bind_failsSilently fun config =>
      (Action.isSilent_compile config).bind_failsSilently fun matcher =>
        (Action.failsSilently_present _ _ _ _).bind_pure 0
  | test =>
    exact (Action.isSilent_configure settings).bind_failsSilently fun config =>
      (Action.isSilent_compile config).bind_failsSilently fun matcher =>
        (Action.isSilent_gather settings).bind_failsSilently fun samples =>
          (Action.failsSilently_write _ _).bind_pure _
  | explain =>
    exact (Action.isSilent_configure settings).bind_failsSilently fun config =>
      (Action.isSilent_compile config).bind_failsSilently fun matcher =>
        (Action.isSilent_explain config).bind_failsSilently fun explanation =>
          (Action.failsSilently_present _ _ _ _).bind_pure 0
  | shapes => exact (Action.failsSilently_present _ _ _ _).bind_pure 0

/-- What a command puts in the journal is not about its own failure. -/
theorem keeps_isPending_execute (request : Request) :
    Action.Keeps Effects.IsPending (execute request) := by
  obtain ⟨isVerbose, command, settings⟩ := request
  cases command with
  | build =>
    exact (Action.keeps_configure settings).bind fun config =>
      (Action.keeps_isPending_compile config).bind fun matcher =>
        (Action.keeps_isPending_present _ _ _ _).bind fun _ => Action.keeps_pure 0
  | test =>
    exact (Action.keeps_configure settings).bind fun config =>
      (Action.keeps_isPending_compile config).bind fun matcher =>
        (Action.keeps_gather settings).bind fun samples =>
          (Action.keeps_isPending_write _ _).bind fun _ => Action.keeps_pure _
  | explain =>
    exact (Action.keeps_configure settings).bind fun config =>
      (Action.keeps_isPending_compile config).bind fun matcher =>
        (Action.keeps_isPending_explain config).bind fun explanation =>
          (Action.keeps_isPending_present _ _ _ _).bind fun _ => Action.keeps_pure 0
  | shapes => exact (Action.keeps_isPending_present _ _ _ _).bind fun _ => Action.keeps_pure 0

end CommandLine

end Patternwright
