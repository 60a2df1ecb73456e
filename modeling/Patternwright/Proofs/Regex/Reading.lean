import Patternwright.Proofs.Result
import Patternwright.Regex.Reader
import Patternwright.Text.Escape

/-!
# What a text adds to a pattern

The reader goes through a text from left to right with a stack of open frames, so most texts have a
meaning of their own: wherever they stand, they add the same row of parts to the frame that is open,
and reading goes on behind them. Such a text *reads as* that row. Rows join where their texts do,
and a text in a group becomes one part.

Two things reach across the place where two texts meet: a quantifier looks at the character after
it, and a backslash takes that character with it. Texts that begin with neither sign and do not end
the pattern in a backslash are *calm*; only calm texts read as anything.

A text can also be unreadable wherever it stands, and then so is every text that it is a part of.

## Main definitions

* `Calm` — what may follow a text without changing it
* `Reads`, `Refuses` — a text adds a row of parts, or no pattern can hold it
* `Renders` — one or the other
* `Fills` — a text holds the alternatives of a group

## Main results

* `Reads.append` — rows join where their texts do
* `reads_escape` — an escaped text reads as its own characters, one literal each
* `Fills.readsAtom_group`, `fills_bars` — groups, and alternatives in them
* `Reads.read_eq`, `Refuses.read_eq` — from a text to the whole pattern
-/

namespace Patternwright.Regex

/-! ### Reading on -/

@[simp] theorem pure_eq_ok {α : Type} (a : α) : (pure a : Reading α) = .ok a := rfl

@[simp] theorem settle_nil : settle [] = .ok () := rfl

@[simp] theorem settle_plain (c : Char) (rest : List Token) : settle (.plain c :: rest) = .ok () :=
  rfl

@[simp] theorem settle_escaped (c : Char) (rest : List Token) :
    settle (.escaped c :: rest) = .ok () := rfl

theorem resume_pair (first second : Token) (rest : List Token) :
    resume (first :: second :: rest) rest = rest := resume_append [first, second] rest

/-! ### Tokens of a text -/

theorem tokenize_plain {c : Char} (plain : c ≠ '\\') (text : List Char) :
    tokenize (c :: text) = .plain c :: tokenize text := by
  rw [tokenize.eq_4]
  · intro d rest same
    exact (plain same).elim
  · intro same
    exact (plain same).elim

@[simp] theorem tokenize_escaped (c : Char) (text : List Char) :
    tokenize ('\\' :: c :: text) = .escaped c :: tokenize text := rfl

/-- A lone backslash is the only text that leaves nothing but a dangling one. -/
theorem settle_tokenize {text : List Char} (settled : text ≠ ['\\']) :
    settle (tokenize text) = .ok () := by
  match text with
  | [] => rfl
  | c :: rest =>
    -- A backslash takes a character with it, unless it is the last one.
    by_cases plain : c = '\\'
    · subst plain
      cases rest with
      | nil => exact (settled rfl).elim
      | cons d rest => rfl
    · rw [tokenize_plain plain]
      rfl

/-- Only a character itself is read as its token. -/
theorem tokenize_ne_plain {c : Char} {text : List Char} (other : text.head? ≠ some c)
    (later : List Token) : tokenize text ≠ .plain c :: later := by
  match text with
  | [] => simp [tokenize]
  | d :: rest =>
    by_cases escape : d = '\\'
    · subst escape
      cases rest <;> simp [tokenize]
    · rw [tokenize_plain escape]
      rintro ⟨⟩
      exact other rfl

/-- Without backslashes, every character is a token. -/
theorem tokenize_append {run : List Char} (plain : ∀ c ∈ run, c ≠ '\\') (rest : List Char) :
    tokenize (run ++ rest) = run.map .plain ++ tokenize rest := by
  induction run with
  | nil => rfl
  | cons c run ih =>
    have later := ih fun d member => plain d (List.mem_cons_of_mem c member)
    simp [tokenize_plain (plain c List.mem_cons_self), later]

/-! ### Texts that leave alone what stands before them -/

/-- What may follow a text without changing it: no sign of a quantifier's greed comes first, and the
pattern does not end in a lone backslash. -/
structure Calm (text : List Char) : Prop where
  notLazy : text.head? ≠ some '?'
  notPossessive : text.head? ≠ some '+'
  settled : text ≠ ['\\']

theorem calm_nil : Calm [] := ⟨by simp, by simp, by simp⟩

/-- The character is no sign of greed and escapes nothing. -/
def isCalm : Char → Bool
  | '?' | '+' | '\\' => false
  | _ => true

theorem calm_cons {c : Char} {text : List Char} (calm : isCalm c = true) : Calm (c :: text) := by
  have other {d : Char} (wild : isCalm d = false) : c ≠ d := by
    rintro rfl
    simp [wild] at calm
  have notLazy : c ≠ '?' := other rfl
  have notPossessive : c ≠ '+' := other rfl
  have notEscape : c ≠ '\\' := other rfl
  exact ⟨by simp [notLazy], by simp [notPossessive], by simp [notEscape]⟩

theorem calm_escaped (c : Char) (text : List Char) : Calm ('\\' :: c :: text) :=
  ⟨by simp, by simp, by simp⟩

/-- Behind a text that is not empty, anything may follow. -/
theorem Calm.append_of_ne_nil {text : List Char} (calm : Calm text) (nonempty : text ≠ [])
    (rest : List Char) : Calm (text ++ rest) := by
  obtain ⟨c, text, rfl⟩ := List.exists_cons_of_ne_nil nonempty
  refine ⟨by simpa using calm.notLazy, by simpa using calm.notPossessive, fun alone => ?_⟩
  obtain ⟨rfl, rfl, -⟩ : c = '\\' ∧ text = [] ∧ rest = [] := by simpa using alone
  exact calm.settled rfl

theorem Calm.append {text rest : List Char} (calm : Calm text) (after : Calm rest) :
    Calm (text ++ rest) := by
  by_cases empty : text = []
  · simpa [empty] using after
  · exact calm.append_of_ne_nil empty rest

theorem Calm.readGreed_eq {text : List Char} (calm : Calm text) :
    readGreed (tokenize text) = .ok (.greedy, tokenize text) := by
  rw [readGreed]
  · exact tokenize_ne_plain calm.notLazy
  · exact tokenize_ne_plain calm.notPossessive

/-! ### Steps of the reader -/

section Steps

variable {ledger : Ledger} {frame : Frame} {outer : List Frame} {rest : List Char}

/-- The frame with a row of parts behind those it has. -/
def Frame.extend (frame : Frame) (pieces : List Piece) : Frame :=
  { frame with pieces := pieces.reverse ++ frame.pieces }

@[simp] theorem Frame.extend_nil (frame : Frame) : frame.extend [] = frame := rfl

@[simp] theorem Frame.extend_extend (frame : Frame) (pieces more : List Piece) :
    (frame.extend pieces).extend more = frame.extend (pieces ++ more) := by
  simp [extend]

theorem Frame.push_eq_extend (frame : Frame) (node : Node) (role : Role) :
    frame.push node role = frame.extend [⟨node, role⟩] := rfl

@[simp] theorem Frame.extend_verbose (frame : Frame) (pieces : List Piece) :
    (frame.extend pieces).verbose = frame.verbose := rfl

@[simp] theorem Frame.extend_opener (frame : Frame) (pieces : List Piece) :
    (frame.extend pieces).opener = frame.opener := rfl

@[simp] theorem Frame.extend_branches (frame : Frame) (pieces : List Piece) :
    (frame.extend pieces).branches = frame.branches := rfl

/-- The signs that open or close a group or part its alternatives. -/
def isGroupSign (c : Char) : Bool := c == '|' || c == '(' || c == ')'

theorem readFrames_piece {token : Token} (single : ∀ c, token = .plain c → isGroupSign c = false)
    (tokens : List Token) :
    readFrames ledger frame outer (token :: tokens) = (do
      settle tokens
      let (frame, after) ← readPiece ledger frame token tokens
      readFrames ledger frame outer (resume tokens after)) := by
  rw [readFrames]
  · rintro rfl
    simpa [isGroupSign] using single '|' rfl
  · rintro rfl
    simpa [isGroupSign] using single ')' rfl
  · rintro rfl
    simpa [isGroupSign] using single '(' rfl

/-- A character that the reader takes by itself adds what `readPlain` makes of it. -/
theorem readFrames_plain {c : Char} {next : Frame} {after : List Char}
    (single : isGroupSign c = false) (escape : c ≠ '\\') (loose : frame.verbose = false)
    (settled : rest ≠ ['\\'])
    (taken : readPlain frame c (tokenize rest) = .ok (next, tokenize after))
    (later : resume (tokenize rest) (tokenize after) = tokenize after) :
    readFrames ledger frame outer (tokenize (c :: rest)) =
      readFrames ledger next outer (tokenize after) := by
  rw [tokenize_plain escape, readFrames_piece, settle_tokenize settled]
  · have piece : readPiece ledger frame (.plain c) (tokenize rest) =
        .ok (next, tokenize after) := by
      simpa [readPiece, loose] using taken
    rw [piece]
    change readFrames ledger next outer (resume (tokenize rest) (tokenize after)) = _
    rw [later]
  · rintro d ⟨⟩
    exact single

theorem readFrames_plain_error {c : Char} {fault : Fault} (single : isGroupSign c = false)
    (escape : c ≠ '\\') (loose : frame.verbose = false) (settled : rest ≠ ['\\'])
    (refused : readPlain frame c (tokenize rest) = .error fault) :
    readFrames ledger frame outer (tokenize (c :: rest)) = .error fault := by
  rw [tokenize_plain escape, readFrames_piece, settle_tokenize settled]
  · have piece : readPiece ledger frame (.plain c) (tokenize rest) = .error fault := by
      simpa [readPiece, loose] using refused
    rw [piece]
    rfl
  · rintro d ⟨⟩
    exact single

/-- A sign for a place adds that anchor. -/
theorem readFrames_sign {c : Char} {place : Anchor} {tokens : List Token}
    (loose : frame.verbose = false)
    (sign : (c = '^' ∧ place = .lineStart) ∨ (c = '$' ∧ place = .lineEnd))
    (settled : settle tokens = .ok ()) :
    readFrames ledger frame outer (.plain c :: tokens) =
      readFrames ledger (frame.push (.anchor place) .anchor) outer tokens := by
  rcases sign with ⟨rfl, rfl⟩ | ⟨rfl, rfl⟩ <;>
    rw [readFrames_piece (by simp [isGroupSign]), settled] <;>
    simp [readPiece, readPlain, loose]

/-- The characters that have a meaning of their own outside bracketed sets. -/
def isSign (c : Char) : Bool := "\\[.^$?*+\x7b|()".toList.contains c

theorem not_isSign_iff {c : Char} :
    isSign c = false ↔ c ≠ '\\' ∧ c ≠ '[' ∧ c ≠ '.' ∧ c ≠ '^' ∧ c ≠ '$' ∧ c ≠ '?' ∧ c ≠ '*' ∧
      c ≠ '+' ∧ c ≠ '{' ∧ c ≠ '|' ∧ c ≠ '(' ∧ c ≠ ')' := by
  simp [isSign]

theorem readPlain_ordinary {c : Char} (ordinary : isSign c = false) (tokens : List Token) :
    readPlain frame c tokens = .ok (frame.push (.char (.one c.toNat)), tokens) := by
  rw [not_isSign_iff] at ordinary
  rw [readPlain] <;> simp_all

theorem readFrames_ordinary {c : Char} (ordinary : isSign c = false)
    (loose : frame.verbose = false) (settled : rest ≠ ['\\']) :
    readFrames ledger frame outer (tokenize (c :: rest)) =
      readFrames ledger (frame.push (.char (.one c.toNat))) outer (tokenize rest) := by
  have plain := not_isSign_iff.mp ordinary
  exact readFrames_plain (by simp [isGroupSign, plain]) plain.1 loose settled
    (readPlain_ordinary ordinary _) (resume_self _)

theorem readFrames_escaped {c : Char} {node : Node} {role : Role} {after : List Char}
    (settled : rest ≠ ['\\'])
    (taken : readEscape ledger c (tokenize rest) = .ok (⟨node, role⟩, tokenize after))
    (later : resume (tokenize rest) (tokenize after) = tokenize after) :
    readFrames ledger frame outer (tokenize ('\\' :: c :: rest)) =
      readFrames ledger (frame.push node role) outer (tokenize after) := by
  rw [tokenize_escaped, readFrames_piece (by simp), settle_tokenize settled]
  have piece : readPiece ledger frame (.escaped c) (tokenize rest) =
      .ok (frame.push node role, tokenize after) := by
    rw [readPiece, taken]
    rfl
  rw [piece]
  change readFrames ledger (frame.push node role) outer
    (resume (tokenize rest) (tokenize after)) = _
  rw [later]

/-- The character has no meaning of its own behind a backslash. -/
def isMeaningless (c : Char) : Bool :=
  (anchorEscape? c).isNone && (categoryEscape? c).isNone &&
    (controlEscape? c).getD c.toNat == c.toNat && !c.isDigit && !c.isAlpha

/-- No character that escaping puts a backslash before has a meaning with a backslash. -/
theorem readEscape_special {c : Char} (special : Text.isSpecial c = true) (tokens : List Token) :
    readEscape ledger c tokens = .ok (⟨.char (.one c.toNat), .atom⟩, tokens) := by
  have meaningless : isMeaningless c = true := by
    rw [Text.isSpecial, List.contains_iff_mem] at special
    have all : "()[]\x7b\x7d?*+-|^$\\.&~# \t\n\r\x0b\x0c".toList.all isMeaningless = true := by
      decide
    exact List.all_eq_true.mp all c special
  simp only [isMeaningless, Bool.and_eq_true, Option.isNone_iff_eq_none, beq_iff_eq,
    Bool.not_eq_true'] at meaningless
  obtain ⟨⟨⟨⟨anchor, category⟩, control⟩, digit⟩, letter⟩ := meaningless
  -- Escapes are named by letters and digits, and the character is neither.
  have other {d : Char} (named : d.isAlpha = true ∨ d.isDigit = true) : c ≠ d := by
    rintro rfl
    simp [digit, letter] at named
  have zero : c ≠ '0' := other (.inr rfl)
  have code : readCharEscape? c tokens = none := by
    rw [readCharEscape?]
    · exact other (.inl rfl)
    · exact other (.inl rfl)
    · exact other (.inl rfl)
    · exact other (.inl rfl)
  cases known : controlEscape? c with
  | some code =>
    rw [known] at control
    simp only [Option.getD_some] at control
    simp [readEscape, anchor, category, known, control]
  | none =>
    simp [readEscape, anchor, category, known, digit, code, zero, readPlainEscape, letter]

end Steps

/-! ### What a text adds to the open frame -/

/-- Wherever the text stands, it adds a row of parts to the open frame. -/
structure Reads (text : List Char) (row : List Node) : Prop where
  calm : Calm text
  extend : ∃ pieces : List Piece, pieces.map Piece.node = row ∧
    ∀ (ledger : Ledger) (frame : Frame) (outer : List Frame) (rest : List Char),
      frame.verbose = false → Calm rest →
        readFrames ledger frame outer (tokenize (text ++ rest)) =
          readFrames ledger (frame.extend pieces) outer (tokenize rest)

/-- Wherever the text stands, reading stops in it. -/
structure Refuses (text : List Char) (cause : Cause) : Prop where
  calm : Calm text
  fault : ∀ (ledger : Ledger) (frame : Frame) (outer : List Frame) (rest : List Char),
    frame.verbose = false → Calm rest →
      ∃ place, readFrames ledger frame outer (tokenize (text ++ rest)) = .error ⟨cause, place⟩

theorem reads_nil : Reads [] [] :=
  ⟨calm_nil, [], rfl, fun _ _ _ _ _ _ => by simp⟩

/-- Rows join where their texts do. -/
theorem Reads.append {text more : List Char} {row next : List Node} (first : Reads text row)
    (second : Reads more next) : Reads (text ++ more) (row ++ next) := by
  obtain ⟨pieces, rfl, step⟩ := first.extend
  obtain ⟨others, rfl, later⟩ := second.extend
  refine ⟨first.calm.append second.calm, pieces ++ others, by simp, ?_⟩
  intro ledger frame outer rest loose calm
  -- The second row goes on in the frame that the first one leaves.
  rw [List.append_assoc, step ledger frame outer _ loose (second.calm.append calm),
    later ledger _ outer rest (by simpa using loose) calm, Frame.extend_extend]

theorem Refuses.append {text more : List Char} {cause : Cause} (refuses : Refuses text cause)
    (calm : Calm more) : Refuses (text ++ more) cause := by
  refine ⟨refuses.calm.append calm, fun ledger frame outer rest loose after => ?_⟩
  rw [List.append_assoc]
  exact refuses.fault ledger frame outer _ loose (calm.append after)

theorem Reads.append_refuses {text more : List Char} {row : List Node} {cause : Cause}
    (first : Reads text row) (second : Refuses more cause) : Refuses (text ++ more) cause := by
  obtain ⟨pieces, rfl, step⟩ := first.extend
  refine ⟨first.calm.append second.calm, fun ledger frame outer rest loose calm => ?_⟩
  rw [List.append_assoc, step ledger frame outer _ loose (second.calm.append calm)]
  exact second.fault ledger _ outer rest (by simpa using loose) calm

/-- The text reads as a row, or it is refused for a cause. -/
def Renders (text : List Char) : Except Cause (List Node) → Prop
  | .ok row => Reads text row
  | .error cause => Refuses text cause

theorem Renders.calm {text : List Char} {draft : Except Cause (List Node)}
    (renders : Renders text draft) : Calm text := by
  cases draft with
  | ok row => exact Reads.calm renders
  | error cause => exact Refuses.calm renders

theorem Reads.append_renders {text more : List Char} {row : List Node}
    {draft : Except Cause (List Node)} (first : Reads text row) (second : Renders more draft) :
    Renders (text ++ more) (draft.map (row ++ ·)) := by
  cases draft with
  | ok next => exact first.append second
  | error cause => exact first.append_refuses second

theorem Renders.append_reads {text more : List Char} {next : List Node}
    {draft : Except Cause (List Node)} (first : Renders text draft) (second : Reads more next) :
    Renders (text ++ more) (draft.map (· ++ next)) := by
  cases draft with
  | ok row => exact Reads.append first second
  | error cause => exact Refuses.append first second.calm

/-! ### Parts that can be repeated -/

/-- Wherever the text stands, it adds one part, which a quantifier behind it repeats. -/
structure ReadsAtom (text : List Char) (node : Node) : Prop where
  calm : Calm text
  push : ∀ (ledger : Ledger) (frame : Frame) (outer : List Frame) (rest : List Char),
    frame.verbose = false → rest ≠ ['\\'] →
      readFrames ledger frame outer (tokenize (text ++ rest)) =
        readFrames ledger (frame.push node) outer (tokenize rest)

theorem ReadsAtom.reads {text : List Char} {node : Node} (atom : ReadsAtom text node) :
    Reads text [node] :=
  ⟨atom.calm, [⟨node, .atom⟩], rfl, fun ledger frame outer rest loose calm =>
    atom.push ledger frame outer rest loose calm.settled⟩

/-! ### Literals -/

/-- The literals for the characters of a text. -/
def literals (text : List Char) : List Node := text.map fun c => .char (.one c.toNat)

@[simp] theorem literals_nil : literals [] = [] := rfl

@[simp] theorem literals_cons (c : Char) (text : List Char) :
    literals (c :: text) = .char (.one c.toNat) :: literals text := rfl

theorem readsAtom_ordinary {c : Char} (ordinary : isSign c = false) :
    ReadsAtom [c] (.char (.one c.toNat)) := by
  have plain := not_isSign_iff.mp ordinary
  refine ⟨calm_cons (by simp [isCalm, plain]), ?_⟩
  intro ledger frame outer rest loose settled
  exact readFrames_ordinary ordinary loose settled

/-- A text without signs reads as its own characters. -/
theorem reads_literals {text : List Char} (ordinary : ∀ c ∈ text, isSign c = false) :
    Reads text (literals text) := by
  induction text with
  | nil => exact reads_nil
  | cons c text ih =>
    have first := (readsAtom_ordinary (ordinary c List.mem_cons_self)).reads
    exact first.append (ih fun d member => ordinary d (List.mem_cons_of_mem c member))

/-- Every sign gets a backslash. -/
theorem not_isSign_of_not_isSpecial {c : Char} (plain : Text.isSpecial c = false) :
    isSign c = false := by
  rw [not_isSign_iff]
  refine ⟨?_, ?_, ?_, ?_, ?_, ?_, ?_, ?_, ?_, ?_, ?_, ?_⟩ <;>
    · rintro rfl
      exact absurd plain (by decide)

theorem reads_escapeChar (c : Char) : Reads (Text.escapeChar c) [.char (.one c.toNat)] := by
  unfold Text.escapeChar
  -- What gets no backslash is no sign, so it stands for itself either way.
  split
  · next special =>
    refine ⟨calm_escaped c [], [⟨.char (.one c.toNat), .atom⟩], rfl, ?_⟩
    intro ledger frame outer rest loose calm
    exact readFrames_escaped calm.settled (readEscape_special special _) (resume_self _)
  · next plain =>
    exact (readsAtom_ordinary (not_isSign_of_not_isSpecial (by simpa using plain))).reads

/-- An escaped text reads as its own characters. -/
theorem reads_escape (text : List Char) :
    Reads (text.flatMap Text.escapeChar) (literals text) := by
  induction text with
  | nil => exact reads_nil
  | cons c text ih => exact (reads_escapeChar c).append ih

/-! ### Quantifiers -/

/-- Behind any part that can be repeated, the text repeats it, as often as it can. -/
structure Repeats (text : List Char) (bounds : Bounds) : Prop where
  settled : ∀ rest, text ++ rest ≠ ['\\']
  repeatLast : ∀ (ledger : Ledger) (frame : Frame) (outer : List Frame) (node : Node)
    (rest : List Char), frame.verbose = false → Calm rest →
      readFrames ledger (frame.push node) outer (tokenize (text ++ rest)) =
        readFrames ledger (frame.push (.rep .greedy bounds.least bounds.most node) .repetition)
          outer (tokenize rest)

theorem ReadsAtom.reads_repeated {text sign : List Char} {node : Node} {bounds : Bounds}
    (atom : ReadsAtom text node) (quantifier : Repeats sign bounds) (calm : Calm (text ++ sign)) :
    Reads (text ++ sign) [.rep .greedy bounds.least bounds.most node] := by
  refine ⟨calm, [⟨.rep .greedy bounds.least bounds.most node, .repetition⟩], rfl, ?_⟩
  intro ledger frame outer rest loose after
  rw [List.append_assoc, atom.push ledger frame outer _ loose (quantifier.settled rest),
    quantifier.repeatLast ledger frame outer node rest loose after]
  rfl

theorem repeatLast_push {frame : Frame} {node : Node} {bounds : Bounds} {rest : List Char}
    (calm : Calm rest) (behind : List Token) :
    (frame.push node).repeatLast bounds behind (tokenize rest) =
      .ok (frame.push (.rep .greedy bounds.least bounds.most node) .repetition,
        tokenize rest) := by
  simp [Frame.repeatLast, Frame.push, calm.readGreed_eq]

theorem repeats_star : Repeats ['*'] ⟨0, none⟩ := by
  refine ⟨by simp, fun ledger frame outer node rest loose calm => ?_⟩
  exact readFrames_plain rfl (by decide) loose calm.settled (repeatLast_push calm
    (tokenize rest)) (resume_self _)

theorem repeats_plus : Repeats ['+'] ⟨1, none⟩ := by
  refine ⟨by simp, fun ledger frame outer node rest loose calm => ?_⟩
  exact readFrames_plain rfl (by decide) loose calm.settled (repeatLast_push calm
    (tokenize rest)) (resume_self _)

theorem repeats_question : Repeats ['?'] ⟨0, some 1⟩ := by
  refine ⟨by simp, fun ledger frame outer node rest loose calm => ?_⟩
  exact readFrames_plain rfl (by decide) loose calm.settled (repeatLast_push calm
    (tokenize rest)) (resume_self _)

theorem readsAtom_dot : ReadsAtom ['.'] (.char .any) := by
  refine ⟨calm_cons rfl, ?_⟩
  intro ledger frame outer rest loose settled
  exact readFrames_plain rfl (by decide) loose settled rfl (resume_self _)

/-- Any text on one line, or any text at all where the dot accepts line breaks. -/
def anything : Node := .rep .greedy 0 none (.char .any)

theorem reads_anything : Reads ['.', '*'] [anything] :=
  readsAtom_dot.reads_repeated repeats_star (calm_cons rfl)

theorem reads_anchor {c : Char} {anchor : Anchor}
    (sign : (c = '^' ∧ anchor = .lineStart) ∨ (c = '$' ∧ anchor = .lineEnd)) :
    Reads [c] [.anchor anchor] := by
  refine ⟨?_, [⟨.anchor anchor, .anchor⟩], rfl, ?_⟩
  · rcases sign with ⟨rfl, -⟩ | ⟨rfl, -⟩ <;> exact calm_cons rfl
  · intro ledger frame outer rest loose calm
    have plain : c ≠ '\\' := by rcases sign with ⟨rfl, -⟩ | ⟨rfl, -⟩ <;> decide
    rw [List.singleton_append, tokenize_plain plain]
    exact readFrames_sign loose sign (settle_tokenize calm.settled)

/-- A text between a caret and a dollar sign reads as its row between anchors. -/
theorem Reads.between {text : List Char} {row : List Node} (reads : Reads text row) :
    Reads ('^' :: (text ++ ['$'])) (.anchor .lineStart :: (row ++ [.anchor .lineEnd])) := by
  have start : Reads ['^'] [.anchor .lineStart] := reads_anchor (.inl ⟨rfl, rfl⟩)
  have ending : Reads ['$'] [.anchor .lineEnd] := reads_anchor (.inr ⟨rfl, rfl⟩)
  exact start.append (reads.append ending)

/-! ### Groups -/

/-- What a group that is opened by a question mark and one more sign makes of its content. -/
structure Marks (mark : Char) (opener : Opener) (wrap : Node → Node) : Prop where
  sign : mark ≠ '\\'
  head : ∀ (ledger : Ledger) (rest : List Token), settle rest = .ok () →
    readGroupHead ledger (.plain '?' :: .plain mark :: rest) = .ok (ledger, .opens opener, rest)
  close : ∀ (ledger : Ledger) (frame : Frame), frame.opener = opener →
    frame.close ledger = (ledger, wrap frame.body)
  single : ∀ index, opener ≠ .conditional index
  unscoped : ∀ on off, opener ≠ .scope on off

theorem marks_plain : Marks ':' .plain id where
  sign := by decide
  head ledger rest settled := by
    simp [readGroupHead, settled]
  close ledger frame opener := by simp [Frame.close, opener]
  single := by simp
  unscoped := by simp

theorem marks_ahead {mark : Char} {negated : Bool}
    (sign : (mark = '=' ∧ negated = false) ∨ (mark = '!' ∧ negated = true)) :
    Marks mark (.ahead negated) (.ahead negated) where
  sign := by rcases sign with ⟨rfl, -⟩ | ⟨rfl, -⟩ <;> decide
  head ledger rest settled := by
    rcases sign with ⟨rfl, rfl⟩ | ⟨rfl, rfl⟩ <;>
      simp [readGroupHead, settled]
  close ledger frame opener := by simp [Frame.close, opener]
  single := by simp
  unscoped := by simp

/-- In a new group, the text adds the given alternatives up to the closing parenthesis. -/
structure Fills (text : List Char) (alternatives : List Node) : Prop where
  settled : ∀ rest, text ++ ')' :: rest ≠ ['\\']
  alternatives_eq : ∀ (ledger : Ledger) (frame : Frame) (outer : List Frame) (rest : List Char),
    frame.verbose = false → frame.branches = [] → frame.pieces = [] →
      (∀ index, frame.opener ≠ .conditional index) →
      ∃ filled : Frame, filled.opener = frame.opener ∧ filled.alternatives = alternatives ∧
        readFrames ledger frame outer (tokenize (text ++ ')' :: rest)) =
          readFrames ledger filled outer (tokenize (')' :: rest))

theorem Reads.fills {text : List Char} {row : List Node} (reads : Reads text row) :
    Fills text [.sequence row] := by
  obtain ⟨pieces, rfl, step⟩ := reads.extend
  have closing (rest : List Char) : Calm (')' :: rest) :=
    calm_cons rfl
  refine ⟨fun rest => (reads.calm.append (closing rest)).settled, ?_⟩
  intro ledger frame outer rest loose branches parts _
  refine ⟨frame.extend pieces, rfl, ?_, step ledger frame outer _ loose (closing rest)⟩
  simp [Frame.alternatives, Frame.branch, Frame.extend, branches, parts]

theorem readFrames_open {mark : Char} {opener : Opener} {wrap : Node → Node}
    (marks : Marks mark opener wrap) (ledger : Ledger) {frame : Frame} (outer : List Frame)
    {inside : List Char} (loose : frame.verbose = false) (settled : inside ≠ ['\\']) :
    readFrames ledger frame outer (tokenize ('(' :: '?' :: mark :: inside)) =
      readFrames ledger
        { opener, start := left (tokenize ('?' :: mark :: inside)) + 1, verbose := false }
        (frame :: outer) (tokenize inside) := by
  have head := marks.head ledger _ (settle_tokenize settled)
  rw [tokenize_plain (by decide), tokenize_plain (by decide), tokenize_plain marks.sign, readFrames]
  simp only [settle_plain, ok_bind, head]
  rw [resume_pair]
  congr 2
  -- Only a scope could make white space count for nothing inside.
  cases opener with
  | scope on off => exact (marks.unscoped on off rfl).elim
  | _ => exact loose

/-- A group is one part, and it can be repeated. -/
theorem Fills.readsAtom_group {text : List Char} {alternatives : List Node} {mark : Char}
    {opener : Opener} {wrap : Node → Node} (marks : Marks mark opener wrap)
    (fills : Fills text alternatives) :
    ReadsAtom ('(' :: '?' :: mark :: (text ++ [')'])) (wrap (.anyOf alternatives)) := by
  refine ⟨calm_cons rfl, ?_⟩
  intro ledger frame outer rest loose settled
  obtain ⟨filled, opened, content, step⟩ := fills.alternatives_eq ledger
    { opener, start := left (tokenize ('?' :: mark :: (text ++ ')' :: rest))) + 1,
      verbose := false } (frame :: outer) rest rfl rfl rfl marks.single
  -- The content is read up to the parenthesis, which then makes one part of it.
  calc
    readFrames ledger frame outer
        (tokenize ('(' :: '?' :: mark :: (text ++ [')']) ++ rest)) =
        readFrames ledger filled (frame :: outer) (tokenize (')' :: rest)) := by
      rw [← step, ← readFrames_open marks ledger outer loose (fills.settled rest)]
      simp
    _ = readFrames ledger (frame.push (wrap (.anyOf alternatives))) outer (tokenize rest) := by
      rw [tokenize_plain (by decide), readFrames, settle_tokenize settled]
      simp [marks.close ledger filled opened, Frame.body, content]

/-- A group around a text that is refused is refused. -/
theorem Refuses.group {text : List Char} {cause : Cause} {mark : Char} {opener : Opener}
    {wrap : Node → Node} (marks : Marks mark opener wrap) (refuses : Refuses text cause)
    (more : List Char) : Refuses ('(' :: '?' :: mark :: (text ++ ')' :: more)) cause := by
  refine ⟨calm_cons rfl, ?_⟩
  intro ledger frame outer rest loose _
  have closing : Calm (')' :: (more ++ rest)) := calm_cons rfl
  have inside := (refuses.calm.append closing).settled
  obtain ⟨place, stopped⟩ := refuses.fault ledger
    { opener, start := left (tokenize ('?' :: mark :: (text ++ ')' :: (more ++ rest)))) + 1,
      verbose := false } (frame :: outer) _ rfl closing
  refine ⟨place, ?_⟩
  rw [← stopped, ← readFrames_open marks ledger outer loose inside]
  simp

theorem Frame.alternatives_nextBranch_extend (frame : Frame) (pieces : List Piece) :
    (frame.nextBranch.extend pieces).alternatives =
      frame.alternatives ++ [.sequence (pieces.map Piece.node)] := by
  simp [alternatives, branch, nextBranch, extend]

/-- Further alternatives, each behind a bar. -/
def barred (texts : List (List Char)) : List Char := texts.flatMap ('|' :: ·)

theorem intercalate_cons (separator : Char) (first : List Char) (texts : List (List Char)) :
    [separator].intercalate (first :: texts) = first ++ texts.flatMap (separator :: ·) := by
  induction texts generalizing first with
  | nil => simp
  | cons text texts ih =>
    rw [List.intercalate_cons_cons, ih]
    simp

theorem calm_bars (texts : List (List Char)) : Calm (barred texts) := by
  cases texts with
  | nil => exact calm_nil
  | cons text texts => exact calm_cons rfl

theorem calm_barred (texts : List (List Char)) (rest : List Char) :
    Calm (barred texts ++ ')' :: rest) := (calm_bars texts).append (calm_cons rfl)

section Alternatives

variable {ι : Type} {text : ι → List Char} {row : ι → List Node}

theorem readFrames_barred (items : List ι) :
    (∀ item ∈ items, Reads (text item) (row item)) →
    ∀ (ledger : Ledger) (frame : Frame) (outer : List Frame) (rest : List Char),
      frame.verbose = false → (∀ index, frame.opener ≠ .conditional index) →
      ∃ filled : Frame, filled.opener = frame.opener ∧
        filled.alternatives = frame.alternatives ++ items.map (fun item => .sequence (row item)) ∧
        readFrames ledger frame outer (tokenize (barred (items.map text) ++ ')' :: rest)) =
          readFrames ledger filled outer (tokenize (')' :: rest)) := by
  -- Each bar begins an alternative, so the frame is another one for the later items.
  induction items with
  | nil => exact fun _ ledger frame outer rest _ _ => ⟨frame, rfl, by simp, rfl⟩
  | cons item items ih =>
    intro reads ledger frame outer rest loose unconditional
    obtain ⟨first, others⟩ := List.forall_mem_cons.mp reads
    obtain ⟨pieces, parts, step⟩ := first.extend
    have later := calm_barred (items.map text) rest
    obtain ⟨filled, opened, content, reached⟩ :=
      ih others ledger (frame.nextBranch.extend pieces) outer rest loose unconditional
    refine ⟨filled, opened, ?_, ?_⟩
    · rw [content, frame.alternatives_nextBranch_extend, parts]
      simp
    · have bar : frame.isFullCondition = false := by
        unfold Frame.isFullCondition
        split
        · next index opener => exact (unconditional index opener).elim
        · rfl
      have inside := (first.calm.append later).settled
      calc
        readFrames ledger frame outer
            (tokenize (barred ((item :: items).map text) ++ ')' :: rest)) =
            readFrames ledger frame.nextBranch outer
              (tokenize (text item ++ (barred (items.map text) ++ ')' :: rest))) := by
          rw [List.map_cons, barred, List.flatMap_cons, List.cons_append, List.cons_append,
            tokenize_plain (by decide), readFrames, List.append_assoc, ← barred,
            settle_tokenize inside, bar]
          simp
        _ = readFrames ledger filled outer (tokenize (')' :: rest)) := by
          rw [step ledger frame.nextBranch outer _ loose later, reached]

/-- Texts with bars between them are the alternatives of a group. -/
theorem fills_bars {items : List ι} (nonempty : items ≠ [])
    (reads : ∀ item ∈ items, Reads (text item) (row item)) :
    Fills (['|'].intercalate (items.map text)) (items.map fun item => .sequence (row item)) := by
  obtain ⟨item, items, rfl⟩ := List.exists_cons_of_ne_nil nonempty
  obtain ⟨first, others⟩ := List.forall_mem_cons.mp reads
  obtain ⟨pieces, parts, step⟩ := first.extend
  rw [List.map_cons, intercalate_cons, ← barred]
  refine ⟨fun rest => ?_, fun ledger frame outer rest loose branches bare unconditional => ?_⟩
  · rw [List.append_assoc]
    exact (first.calm.append (calm_barred (items.map text) rest)).settled
  · obtain ⟨filled, opened, content, reached⟩ :=
      readFrames_barred items others ledger (frame.extend pieces) outer rest loose unconditional
    refine ⟨filled, opened, ?_, ?_⟩
    · rw [content]
      simp [Frame.alternatives, Frame.branch, Frame.extend, branches, bare, parts]
    · rw [List.append_assoc, step ledger frame outer _ loose (calm_barred _ rest), reached]

end Alternatives

/-! ### The whole pattern -/

/-- A text that reads as a row is a pattern: the row, without options or captures of its own. -/
theorem Reads.read_eq {text : List Char} {row : List Node} (reads : Reads text row) :
    Parsed.read text = .ok ⟨.sequence row, [], 1⟩ := by
  obtain ⟨pieces, rfl, step⟩ := reads.extend
  have whole := step {} {} [] [] rfl calm_nil
  rw [List.append_nil] at whole
  have content : (({} : Frame).extend pieces).body = .sequence (pieces.map Piece.node) := by
    simp [Frame.body, Frame.alternatives, Frame.branch, Frame.extend, Node.anyOf,
      Node.alternatives]
  rw [Parsed.read, settle_tokenize reads.calm.settled, whole, tokenize, readFrames]
  simp [content]

theorem Refuses.read_eq {text : List Char} {cause : Cause} (refuses : Refuses text cause) :
    ∃ place, Parsed.read text = .error ⟨cause, place⟩ := by
  obtain ⟨place, whole⟩ := refuses.fault {} {} [] [] rfl calm_nil
  rw [List.append_nil] at whole
  refine ⟨place, ?_⟩
  rw [Parsed.read, settle_tokenize refuses.calm.settled, whole]
  rfl

end Patternwright.Regex
