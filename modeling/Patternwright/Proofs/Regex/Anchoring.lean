import Patternwright.Proofs.Regex.HeadClosing

/-!
# Patterns between anchors

A caret before the text of a pattern and a dollar sign behind it are read as what they say: the
alternatives of the pattern come out as they do without the signs, only that the first one begins
with an anchor and the last one ends with an anchor.

The proof runs the reader on both texts side by side. Inside groups the frames are the same; the
outermost frames differ in that anchor. A pattern that switches on options for its whole cannot have
anything in front, so there the reader of the longer text stops.

## Main definitions

* `Tied` — frames that are read side by side
* `Between` — alternatives and the same alternatives between anchors

## Main results

* `readPiece_over` — one part of a frame
* `readFrames_tracks` — a whole run of the reader
* `read_between` — a pattern that is read, and what it is between two anchors
-/

namespace Patternwright.Regex

/-! ### One part -/

/-- The frame with other parts below its own and other alternatives before them. -/
def Frame.over (frame : Frame) (start : Nat) (below : List Piece) (branches : List Node) : Frame :=
  { frame with start, branches, pieces := frame.pieces ++ below }

section Parts

variable (start : Nat) (below : List Piece) (branches : List Node)

/-- A frame over others with the sign behind the tokens that are left. -/
abbrev overBehind (result : Frame × List Token) : Frame × List Token :=
  (result.1.over start below branches, result.2 ++ closing)

theorem repeatLast_follows (frame : Frame) (bounds : Bounds) (begun rest : List Token) :
    Follows (overBehind start below branches) Prod.snd rest (frame.repeatLast bounds begun rest)
      ((frame.over start below branches).repeatLast bounds (begun ++ closing)
        (rest ++ closing)) := by
  unfold Frame.repeatLast
  -- Only the last part is looked at, and the frame has one of its own if it succeeds.
  split
  · apply follows_error
  · apply follows_error
  · apply follows_error
  · next node earlier held =>
    simp only [Frame.over, held, List.cons_append]
    exact (readGreed_follows rest).bind fun result _ => follows_ok rfl (.refl _)

theorem readPlain_follows (frame : Frame) (c : Char) (rest : List Token) :
    Follows (overBehind start below branches) Prod.snd rest (readPlain frame c rest)
      (readPlain (frame.over start below branches) c (rest ++ closing)) := by
  unfold readPlain
  split
  · exact (readSet_follows rest).bind fun result _ => follows_ok rfl (.refl _)
  · exact follows_ok rfl (.refl _)
  · exact follows_ok rfl (.refl _)
  · exact follows_ok rfl (.refl _)
  · exact repeatLast_follows start below branches frame ⟨0, some 1⟩ rest rest
  · exact repeatLast_follows start below branches frame ⟨0, none⟩ rest rest
  · exact repeatLast_follows start below branches frame ⟨1, none⟩ rest rest
  · intro result read
    cases counted : readBounds? rest with
    | error fault => simp [counted] at read
    | ok found =>
      obtain ⟨same, leaves⟩ := readBounds?_closing counted
      rw [counted] at read
      rw [same]
      cases found with
      | none =>
        cases read
        exact ⟨rfl, .refl rest⟩
      | some found =>
        obtain ⟨repeated, leavesLast⟩ :=
          repeatLast_follows start below branches frame found.1 rest found.2 result read
        exact ⟨repeated, (leaves found rfl).trans leavesLast⟩
  · exact follows_ok rfl (.refl _)

/-- A comment that is not the end of the text ends where it does without the sign. -/
theorem skipLine_closing {rest after : List Token} (skipped : skipLine rest = .ok after) :
    Leaves rest after ∧ (after ≠ [] → skipLine (rest ++ closing) = .ok (after ++ closing)) := by
  -- The sign is no line break, so it would become a part of the comment.
  induction rest with
  | nil =>
    obtain rfl := Except.ok.inj skipped
    exact ⟨.refl [], fun more => (more rfl).elim⟩
  | cons token rest ih =>
    rw [skipLine] at skipped
    cases settled : settle rest with
    | error fault => simp [settled] at skipped
    | ok =>
      rw [List.cons_append, skipLine, settle_closing]
      rw [settled] at skipped
      by_cases newline : token = .plain '\n'
      · obtain rfl : rest = after := by simpa [newline] using skipped
        exact ⟨leaves_tail settled, fun _ => by simp [newline]⟩
      · obtain ⟨leaves, same⟩ := ih (by simpa [newline] using skipped)
        exact ⟨(leaves_tail settled).trans leaves, fun more => by simpa [newline] using same more⟩

theorem readPiece_leaves (ledger : Ledger) (frame : Frame) (token : Token) (rest : List Token) :
    Yields (fun result => Leaves rest result.2) (readPiece ledger frame token rest) := by
  unfold readPiece
  split
  · split
    · exact yields_ok (.refl rest)
    split
    · exact yields_bind fun after skipped => yields_ok (skipLine_closing skipped).1
    · exact fun result read => (readPlain_follows 0 [] [] frame _ rest result read).2
  · refine yields_bind fun result read => yields_ok ?_
    exact (readEscape_follows ledger _ rest result read).2
  · apply yields_error

/-- A part is read as the same part, unless a comment takes all that is left. -/
theorem readPiece_over {ledger : Ledger} {frame : Frame} {token : Token} {rest : List Token}
    {result : Frame × List Token} (read : readPiece ledger frame token rest = .ok result)
    (more : frame.verbose = true → result.2 ≠ []) :
    readPiece ledger.moved (frame.over start below branches) token (rest ++ closing) =
      .ok (overBehind start below branches result) := by
  have verbose : (frame.over start below branches).verbose = frame.verbose := rfl
  unfold readPiece at read ⊢
  rw [verbose]
  split at read
  · split at read
    · next layout =>
      rw [if_pos layout]
      cases read
      rfl
    next layout =>
    rw [if_neg layout]
    split at read
    -- A comment can only be followed if something is left behind it.
    · next comment =>
      rw [if_pos comment]
      cases skipped : skipLine rest with
      | error fault => simp [skipped] at read
      | ok after =>
        rw [skipped] at read
        cases read
        have loose : frame.verbose = true := by
          simp at comment
          exact comment.1
        rw [(skipLine_closing skipped).2 (more loose)]
        rfl
    · next comment =>
      rw [if_neg comment]
      exact (readPlain_follows start below branches frame _ rest result read).1
  · next letter =>
    cases escape : readEscape ledger letter rest with
    | error fault => simp [escape] at read
    | ok escaped =>
      rw [escape] at read
      cases read
      rw [(readEscape_follows ledger letter rest escaped escape).1]
      rfl
  · cases read

theorem repeatLast_frame (frame : Frame) (bounds : Bounds) (begun rest : List Token) :
    Yields (fun result => result.1 = { frame with pieces := result.1.pieces })
      (frame.repeatLast bounds begun rest) := by
  unfold Frame.repeatLast
  split
  · apply yields_error
  · apply yields_error
  · apply yields_error
  · exact yields_bind fun _ _ => yields_ok rfl

/-- Nothing but the parts of a frame changes with one more part. -/
theorem readPiece_frame (ledger : Ledger) (frame : Frame) (token : Token) (rest : List Token) :
    Yields (fun result => result.1 = { frame with pieces := result.1.pieces })
      (readPiece ledger frame token rest) := by
  unfold readPiece
  split
  · split
    · exact yields_ok rfl
    split
    · exact yields_bind fun _ _ => yields_ok rfl
    unfold readPlain
    split
    · exact yields_bind fun _ _ => yields_ok rfl
    · exact yields_ok rfl
    · exact yields_ok rfl
    · exact yields_ok rfl
    · exact repeatLast_frame frame _ _ _
    · exact repeatLast_frame frame _ _ _
    · exact repeatLast_frame frame _ _ _
    · refine yields_bind fun found _ => ?_
      split
      · exact repeatLast_frame frame _ _ _
      · exact yields_ok rfl
    · exact yields_ok rfl
  · exact yields_bind fun _ _ => yields_ok rfl
  · apply yields_error

end Parts

/-! ### Frames side by side -/

theorem Frame.close_flags (frame : Frame) (ledger : Ledger) :
    (frame.close ledger).1.flags = ledger.flags := by
  unfold Frame.close
  split <;> rfl

theorem Frame.close_moved (frame : Frame) (start : Nat) (ledger : Ledger) :
    ({ frame with start } : Frame).close ledger.moved =
      ((frame.close ledger).1.moved, (frame.close ledger).2) := by
  unfold Frame.close
  cases frame.opener <;> rfl

/-- The outermost frame and the one that began with an anchor, which is in its first alternative. -/
inductive Anchored (frame : Frame) : Frame → Prop
  | only (only : frame.branches = []) :
      Anchored frame (frame.over frame.start [⟨.anchor .lineStart, .anchor⟩] [])
  | later {branches : List Node} {row : List Node}
      (later : frame.branches = branches ++ [.sequence row]) :
      Anchored frame (frame.over frame.start []
        (branches ++ [.sequence (.anchor .lineStart :: row)]))

/-- Frames that are read side by side, each with those around it. -/
inductive Tied : Frame → List Frame → Frame → List Frame → Prop
  | outermost {frame frame' : Frame} (plain : frame.opener = .plain)
      (loose : frame.verbose = false) (anchored : Anchored frame frame') :
      Tied frame [] frame' []
  | inner {frame below : Frame} {outer : List Frame} {below' : Frame} {outer' : List Frame}
      (start : Nat) (around : Tied below outer below' outer') :
      Tied frame (below :: outer) { frame with start } (below' :: outer')

namespace Tied

variable {frame frame' : Frame} {outer outer' : List Frame}

theorem isFullCondition_eq (tied : Tied frame outer frame' outer') :
    frame'.isFullCondition = frame.isFullCondition := by
  cases tied with
  | outermost plain loose anchored =>
    cases anchored <;> simp [Frame.isFullCondition, Frame.over, plain]
  | inner start around => rfl

theorem nonempty_of_verbose (tied : Tied frame outer frame' outer')
    (verbose : frame.verbose = true) : outer ≠ [] := by
  cases tied with
  | outermost plain loose anchored => simp [loose] at verbose
  | inner start around => simp

/-- Frames stay tied when both get the same parts. -/
theorem exists_over (tied : Tied frame outer frame' outer') :
    ∃ start below branches, frame' = frame.over start below branches ∧
      ∀ pieces, Tied { frame with pieces } outer
        (({ frame with pieces } : Frame).over start below branches) outer' := by
  -- The parts are exchanged above the anchor, if it is among them.
  cases tied with
  | outermost plain loose anchored =>
    cases anchored with
    | only only => exact ⟨_, _, _, rfl, fun pieces => .outermost plain loose (.only only)⟩
    | later later => exact ⟨_, _, _, rfl, fun pieces => .outermost plain loose (.later later)⟩
  | inner start around =>
    refine ⟨start, [], frame.branches, by simp [Frame.over], fun pieces => ?_⟩
    have same : ({ frame with pieces } : Frame).over start [] frame.branches =
        { frame with pieces, start } := by
      simp [Frame.over]
    rw [same]
    exact .inner start around

theorem push (tied : Tied frame outer frame' outer') (node : Node) (role : Role) :
    Tied (frame.push node role) outer (frame'.push node role) outer' := by
  obtain ⟨start, below, branches, rfl, stays⟩ := tied.exists_over
  exact stays _

theorem nextBranch (tied : Tied frame outer frame' outer') :
    Tied frame.nextBranch outer frame'.nextBranch outer' := by
  cases tied with
  | outermost plain loose anchored =>
    refine .outermost plain loose ?_
    -- The anchor goes with the first alternative from its parts into the tree.
    cases anchored with
    | only only =>
      have branches : frame.nextBranch.branches =
          [] ++ [.sequence (frame.pieces.reverse.map Piece.node)] := by
        simp [Frame.nextBranch, only, Frame.branch]
      have same : (frame.over frame.start [⟨.anchor .lineStart, .anchor⟩] []).nextBranch =
          frame.nextBranch.over frame.nextBranch.start [] ([] ++
            [.sequence (.anchor .lineStart :: frame.pieces.reverse.map Piece.node)]) := by
        simp [Frame.nextBranch, Frame.over, Frame.branch]
      rw [same]
      exact .later branches
    | @later earlier row later =>
      have branches : frame.nextBranch.branches = (frame.branch :: earlier) ++ [.sequence row] := by
        simp [Frame.nextBranch, later]
      have same : (frame.over frame.start [] (earlier ++
          [.sequence (.anchor .lineStart :: row)])).nextBranch =
          frame.nextBranch.over frame.nextBranch.start [] ((frame.branch :: earlier) ++
            [.sequence (.anchor .lineStart :: row)]) := by
        simp [Frame.nextBranch, Frame.over, Frame.branch]
      rw [same]
      exact .later branches
  | inner start around => exact .inner start around

theorem verbose_eq (tied : Tied frame outer frame' outer') : frame'.verbose = frame.verbose := by
  obtain ⟨start, below, branches, rfl, -⟩ := tied.exists_over
  rfl

/-- Nothing can be switched on behind an anchor, and nothing inside a group. -/
theorem switchOn_eq (tied : Tied frame outer frame' outer') (ledger : Ledger) (on : List Flag)
    (start : Nat) : frame'.switchOn ledger on outer'.isEmpty start =
      stop .globalFlagsNotAtStart start := by
  cases tied with
  | outermost plain loose anchored =>
    cases anchored <;> simp [Frame.switchOn, Frame.over]
  | inner start around => simp [Frame.switchOn]

end Tied

/-! ### Whole runs -/

/-- What the reader makes of the longer text, given what it makes of a pattern's own text: it stops,
or it comes to the sign in a frame that is tied to the one of the pattern. -/
def Tracks (flags : List Flag) (own wrapped : Reading (Ledger × Frame × List Token)) : Prop :=
  ∀ result, own = .ok result → (∃ fault, wrapped = .error fault) ∨
    ∃ frame', Tied result.2.1 [] frame' [] ∧ result.1.flags = flags ∧
      wrapped = readFrames result.1.moved frame' [] (result.2.2 ++ closing)

section Tracks

variable {flags : List Flag} {next wrapped : Reading (Ledger × Frame × List Token)}

theorem tracks_error (fault : Fault) : Tracks flags (.error fault) wrapped := by
  rintro _ ⟨⟩

theorem tracks_stop (own : Reading (Ledger × Frame × List Token)) (fault : Fault) :
    Tracks flags own (.error fault) :=
  fun _ _ => .inl ⟨fault, rfl⟩

theorem Tracks.settle {rest : List Token} (later : Regex.settle rest = .ok () →
    Tracks flags next wrapped) :
    Tracks flags (Regex.settle rest >>= fun _ => next)
      (Regex.settle (rest ++ closing) >>= fun _ => wrapped) := by
  intro result read
  cases settled : Regex.settle rest with
  | error fault => simp [settled] at read
  | ok =>
    rw [settled] at read
    rw [settle_closing]
    exact later settled result read

theorem Tracks.bind {ρ σ : Type} {lift : ρ → σ} {last : ρ → List Token} {rest : List Token}
    {own : Reading ρ} {other : Reading σ} {next : ρ → Reading (Ledger × Frame × List Token)}
    {next' : σ → Reading (Ledger × Frame × List Token)} (first : Follows lift last rest own other)
    (later : ∀ result, own = .ok result → Leaves rest (last result) →
      Tracks flags (next result) (next' (lift result))) :
    Tracks flags (own >>= next) (other >>= next') := by
  intro result read
  cases own with
  | error fault => cases read
  | ok middle =>
    obtain ⟨same, leaves⟩ := first middle rfl
    rw [same]
    exact later middle rfl leaves result read

end Tracks

/-- What is left of the reader's run is tracked, from frames that are tied. -/
theorem readFrames_tracks (tokens : List Token) : ∀ {ledger : Ledger} {frame frame' : Frame}
    {outer outer' : List Frame}, Tied frame outer frame' outer' →
      Tracks ledger.flags (readFrames ledger frame outer tokens)
        (readFrames ledger.moved frame' outer' (tokens ++ closing)) := by
  induction remaining : tokens.length using Nat.strongRecOn generalizing tokens with
  | _ _ ih =>
    subst remaining
    intro ledger frame frame' outer outer' tied
    cases tokens with
    | nil =>
      rw [readFrames]
      cases tied with
      | outermost plain loose anchored =>
        rintro _ ⟨⟩
        exact .inr ⟨_, .outermost plain loose anchored, rfl, rfl⟩
      | inner start around => apply tracks_error
    | cons token rest =>
      -- Every construct leaves an end of the text to go on with, in frames that are tied again.
      have tail {next : Ledger} {top top' : Frame} {below below' : List Frame}
          (flags : next.flags = ledger.flags) (again : Tied top below top' below') :
          Tracks ledger.flags (readFrames next top below rest)
            (readFrames next.moved top' below' (rest ++ closing)) :=
        flags ▸ ih rest.length (Nat.lt_succ_self _) rest rfl again
      have later {next : Ledger} {top top' : Frame} {below below' : List Frame}
          {after : List Token} (leaves : Leaves rest after) (flags : next.flags = ledger.flags)
          (again : Tied top below top' below') :
          Tracks ledger.flags (readFrames next top below (resume rest after))
            (readFrames next.moved top' below' (resume (rest ++ closing) (after ++ closing))) := by
        have shorter : after.length < (token :: rest).length :=
          Nat.lt_succ_of_le leaves.suffix.length_le
        rw [resume_closing, leaves.resume_eq]
        exact flags ▸ ih after.length shorter after rfl again
      rw [readFrames.eq_def, readFrames.eq_def ledger.moved]
      dsimp only [List.cons_append]
      split
      · rw [tied.isFullCondition_eq]
        split
        · apply tracks_error
        · exact Tracks.settle fun _ => tail rfl tied.nextBranch
      -- A parenthesis that closes no group ends both runs.
      · cases tied with
        | outermost plain loose anchored =>
          rintro _ ⟨⟩
          refine .inr ⟨_, .outermost plain loose anchored, rfl, ?_⟩
          rw [readFrames.eq_def]
          rfl
        | @inner frame below outer below' outer' start around =>
          refine Tracks.settle fun _ => ?_
          rw [Frame.close_moved]
          exact tail (frame.close_flags ledger) (around.push _ _)
      · refine Tracks.settle fun _ => ?_
        refine Tracks.bind (readGroupHead_follows ledger rest) fun result read leaves => ?_
        have flags := readGroupHead_flags ledger rest result read
        obtain ⟨next, head, after⟩ := result
        cases head with
        | comment => exact later leaves flags tied
        | reference node => exact later leaves flags (tied.push node .atom)
        | globalFlags on =>
          dsimp only
          -- The anchor is in front of the options, or a group is around them.
          rw [tied.switchOn_eq]
          exact tracks_stop _ _
        | opens opener =>
          dsimp only
          rw [tied.verbose_eq]
          exact later leaves flags (.inner _ tied)
      · obtain ⟨start, below, branches, rfl, stays⟩ := tied.exists_over
        refine Tracks.settle fun _ => ?_
        cases read : readPiece ledger frame token rest with
        | error fault => apply tracks_error
        | ok result =>
          have leaves := readPiece_leaves ledger frame token rest result read
          by_cases more : frame.verbose = true → result.2 ≠ []
          · have held := readPiece_frame ledger frame token rest result read
            have again : Tied result.1 outer (result.1.over start below branches) outer' := by
              rw [held]
              exact stays _
            rw [readPiece_over start below branches read more]
            exact later leaves rfl again
          · -- A comment up to the end of the text leaves the group around it open.
            obtain ⟨verbose, finished⟩ : frame.verbose = true ∧ result.2 = [] := by
              simpa using more
            have resumed : resume rest result.2 = [] := by rw [leaves.resume_eq, finished]
            have inside : outer.isEmpty = false := by
              simpa using tied.nonempty_of_verbose verbose
            rw [ok_bind, resumed, readFrames, inside]
            apply tracks_error

/-! ### Whole patterns -/

/-- The reader leaves an end of the text that keeps a lone backslash. -/
theorem readFrames_leaves (tokens : List Token) : ∀ (ledger : Ledger) (frame : Frame)
    (outer : List Frame),
      Yields (fun result => Leaves tokens result.2.2) (readFrames ledger frame outer tokens) := by
  -- Constructs leave ends of the text, and an end of an end is one.
  induction remaining : tokens.length using Nat.strongRecOn generalizing tokens with
  | _ _ ih =>
    subst remaining
    intro ledger frame outer
    cases tokens with
    | nil =>
      rw [readFrames]
      split
      · exact yields_ok (.refl [])
      · apply yields_error
    | cons token rest =>
      have later {after : List Token} (settled : settle rest = .ok ()) (leaves : Leaves rest after)
          (ledger : Ledger) (frame : Frame) (outer : List Frame) :
          Yields (fun result => Leaves (token :: rest) result.2.2)
            (readFrames ledger frame outer (resume rest after)) := by
        have shorter : after.length < (token :: rest).length :=
          Nat.lt_succ_of_le leaves.suffix.length_le
        rw [leaves.resume_eq]
        intro result read
        exact ((leaves_tail settled).trans leaves).trans
          (ih after.length shorter after rfl ledger frame outer result read)
      have tail (settled : settle rest = .ok ()) (ledger : Ledger) (frame : Frame)
          (outer : List Frame) :
          Yields (fun result => Leaves (token :: rest) result.2.2)
            (readFrames ledger frame outer rest) := by
        simpa using later settled (.refl rest) ledger frame outer
      rw [readFrames.eq_def]
      dsimp only
      split
      · split
        · apply yields_error
        · exact yields_bind fun _ settled => tail settled _ _ _
      · split
        · exact yields_ok (.refl _)
        · exact yields_bind fun _ settled => tail settled _ _ _
      · refine yields_bind fun _ settled => yields_bind fun result read => ?_
        have leaves := (readGroupHead_follows ledger rest result read).2
        split
        · exact later settled leaves _ _ _
        · exact later settled leaves _ _ _
        · exact yields_bind fun _ _ => later settled leaves _ _ _
        · exact later settled leaves _ _ _
      · refine yields_bind fun _ settled => yields_bind fun result read => ?_
        exact later settled (readPiece_leaves ledger frame _ rest result read) _ _ _

/-- Behind a text that does not end in a lone backslash, a dollar sign is a token of its own. -/
theorem tokenize_closing {text : List Char}
    (complete : (tokenize text).getLast? ≠ some .dangling) :
    tokenize (text ++ ['$']) = tokenize text ++ closing := by
  have tail {token : Token} {tokens : List Token}
      (complete : (token :: tokens).getLast? ≠ some .dangling) :
      tokens.getLast? ≠ some .dangling := by
    intro dangles
    simp [List.getLast?_cons, dangles] at complete
  -- Every token but a lone backslash ends before the sign.
  fun_induction tokenize text with
  | case1 => rfl
  | case2 c rest ih => rw [List.cons_append, List.cons_append, tokenize, ih (tail complete)]; rfl
  | case3 => simp at complete
  | case4 c rest more escape ih =>
    have plain : c ≠ '\\' := by
      rintro rfl
      cases rest with
      | nil => exact escape rfl rfl
      | cons d rest => exact more d rest rfl rfl
    rw [List.cons_append, tokenize_plain plain, ih (tail complete)]
    rfl

/-- The alternatives of a pattern outside all groups. -/
def topAlternatives (text : List Char) : List Node :=
  match readFrames {} {} [] (tokenize text) with
  | .ok (_, frame, _) => frame.alternatives
  | .error _ => []

/-- Alternatives, and the same ones with an anchor in front of the first and one behind the last. -/
inductive Between : List Node → List Node → Prop
  | only (row : List Node) :
      Between [.sequence row] [.sequence (.anchor .lineStart :: (row ++ [.anchor .lineEnd]))]
  | several (first last middle : List Node) :
      Between (.sequence first :: (middle ++ [.sequence last]))
        (.sequence (.anchor .lineStart :: first) ::
          (middle ++ [.sequence (last ++ [.anchor .lineEnd])]))

theorem Tied.between {frame frame' : Frame} (tied : Tied frame [] frame' []) :
    Between frame.alternatives (frame'.push (.anchor .lineEnd) .anchor).alternatives := by
  cases tied with
  | outermost plain loose anchored =>
    cases anchored with
    | only only =>
      have single := Between.only (frame.pieces.reverse.map Piece.node)
      simpa [Frame.alternatives, Frame.branch, Frame.push, Frame.over, only] using single
    | @later branches row later =>
      have several := Between.several row (frame.pieces.reverse.map Piece.node) branches.reverse
      simpa [Frame.alternatives, Frame.branch, Frame.push, Frame.over, later] using several

/-- What it takes for a pattern to be read. -/
theorem Parsed.read_eq_ok_iff {text : List Char} {own : Parsed} :
    Parsed.read text = .ok own ↔ ∃ ledger frame, settle (tokenize text) = .ok () ∧
      readFrames {} {} [] (tokenize text) = .ok (ledger, frame, []) ∧
      ledger.flags.contains .ascii = false ∧
      (ledger.conditions.find? fun condition => ledger.groups.length ≤ condition.1) = none ∧
      own = ⟨frame.body, ledger.flags, ledger.groups.length⟩ := by
  rw [Parsed.read]
  constructor
  · intro read
    cases settled : settle (tokenize text) with
    | error fault => simp [settled] at read
    | ok =>
      cases run : readFrames {} {} [] (tokenize text) with
      | error fault => simp [settled, run] at read
      | ok result =>
        obtain ⟨ledger, frame, rest⟩ := result
        simp only [settled, run, ok_bind] at read
        split at read
        · cases read
        next repertoire =>
        split at read
        · cases read
        next finished =>
        obtain rfl : rest = [] := by simpa using finished
        split at read
        · cases read
        next conditions =>
        obtain rfl := Except.ok.inj read
        exact ⟨ledger, frame, rfl, rfl, by simpa using repertoire, conditions, rfl⟩
  · rintro ⟨ledger, frame, settled, run, repertoire, conditions, rfl⟩
    simp only [settled, run, ok_bind, repertoire, conditions]
    rfl

/-- A pattern between anchors is read as its own alternatives between anchors, if it is read. -/
theorem read_between {text : List Char} {own : Parsed} (read : Parsed.read text = .ok own) :
    own.node = .anyOf (topAlternatives text) ∧
      ((∃ fault, Parsed.read ('^' :: (text ++ ['$'])) = .error fault) ∨
        own.flags = [] ∧ ∃ anchored, Between (topAlternatives text) anchored ∧
          Parsed.read ('^' :: (text ++ ['$'])) = .ok ⟨.anyOf anchored, [], own.groupCount⟩) := by
  obtain ⟨ledger, frame, settled, run, repertoire, conditions, rfl⟩ := Parsed.read_eq_ok_iff.mp read
  have alternatives : topAlternatives text = frame.alternatives := by
    rw [topAlternatives, run]
  rw [alternatives]
  refine ⟨rfl, ?_⟩
  -- A lone backslash at the end would be left over, and nothing is.
  have complete : (tokenize text).getLast? ≠ some .dangling := by
    intro dangles
    have leaves := readFrames_leaves (tokenize text) {} {} [] _ run
    have more : 1 < (tokenize text).length := by
      rw [settle_eq_ok_iff] at settled
      match tokenize text, dangles, settled with
      | [only], dangles, settled => exact absurd dangles (by simpa using settled)
      | first :: second :: rest, _, _ => simp
    exact absurd (leaves.dangles ⟨dangles, more⟩).more (by simp)
  have start : Tied {} [] (({} : Frame).push (.anchor .lineStart) .anchor) [] :=
    .outermost rfl rfl (.only rfl)
  have begun : readFrames {} {} [] (tokenize ('^' :: (text ++ ['$']))) =
      readFrames ({} : Ledger).moved (({} : Frame).push (.anchor .lineStart) .anchor) []
        (tokenize text ++ closing) := by
    rw [tokenize_plain (by decide), tokenize_closing complete]
    exact readFrames_sign rfl (.inl ⟨rfl, rfl⟩) (settle_closing _)
  have settled' : settle (tokenize ('^' :: (text ++ ['$']))) = .ok () := by
    rw [tokenize_plain (by decide)]
    rfl
  rcases readFrames_tracks (tokenize text) start _ run with
    ⟨fault, stopped⟩ | ⟨frame', tied, flags, tracked⟩
  · refine .inl ⟨fault, ?_⟩
    rw [Parsed.read, settled', begun, stopped]
    rfl
  · have loose : frame'.verbose = false := by
      cases tied with
      | outermost plain loose anchored => cases anchored <;> exact loose
    -- Behind all alternatives, the sign that is left adds the second anchor.
    have ended : readFrames ledger.moved frame' [] ([] ++ closing) =
        .ok (ledger.moved, frame'.push (.anchor .lineEnd) .anchor, []) := by
      rw [List.nil_append, closing, readFrames_sign loose (.inr ⟨rfl, rfl⟩) rfl, readFrames]
      rfl
    have conditions' : (ledger.moved.conditions.find? fun condition =>
        ledger.moved.groups.length ≤ condition.1) = none := by
      rw [List.find?_eq_none] at conditions ⊢
      intro condition member
      obtain ⟨asked, known, rfl⟩ := List.mem_map.mp member
      exact conditions asked known
    have run' := begun.trans (tracked.trans ended)
    have flags' : ledger.moved.flags = [] := flags
    refine .inr ⟨flags, _, tied.between, Parsed.read_eq_ok_iff.mpr ?_⟩
    refine ⟨ledger.moved, _, settled', run', by rw [flags']; rfl, conditions', ?_⟩
    rw [flags']
    rfl

end Patternwright.Regex
