import Patternwright.Proofs.Regex.Closing

/-!
# Group heads with a sign behind the text

The heads of groups and the escapes that refer to groups read the ledger as well. With a dollar sign
behind the text they make the same of it, and the ledger they leave differs in the places of its
conditions only: like all places, those are counted from the end and move by one.

## Main definitions

* `Ledger.moved` — a ledger whose places have moved

## Main results

* `readEscape_follows` — escapes outside bracketed sets
* `readGroupHead_follows` — what follows an opening parenthesis
* `readGroupHead_flags` — no head switches options by itself
-/

namespace Patternwright.Regex

/-! ### Moving places -/

/-- The ledger after the same text with one more character behind it. -/
def Ledger.moved (ledger : Ledger) : Ledger :=
  { ledger with
    conditions := ledger.conditions.map fun condition => (condition.1, condition.2 + 1) }

@[simp] theorem Ledger.moved_groups (ledger : Ledger) : ledger.moved.groups = ledger.groups := rfl

@[simp] theorem Ledger.moved_names (ledger : Ledger) : ledger.moved.names = ledger.names := rfl

@[simp] theorem Ledger.moved_behindLimit (ledger : Ledger) :
    ledger.moved.behindLimit = ledger.behindLimit := rfl

theorem Ledger.checkBehind_moved {ledger : Ledger} {index : Nat} {rest : List Token} (done : Unit)
    (passed : ledger.checkBehind index rest = .ok done) :
    ledger.moved.checkBehind index (rest ++ closing) = .ok done := by
  unfold checkBehind at passed ⊢
  rw [Ledger.moved_behindLimit]
  cases limit : ledger.behindLimit with
  | none => rfl
  | some limit' =>
    simp only [limit] at passed
    dsimp only
    split at passed
    · cases passed
    next closed =>
    rw [if_neg (by exact closed)]
    split at passed
    · cases passed
    next outside => rw [if_neg outside]

theorem Ledger.reference_moved {ledger : Ledger} {index length : Nat} {rest : List Token}
    (node : Node) (referred : ledger.reference index length rest = .ok node) :
    ledger.moved.reference index length (rest ++ closing) = .ok node := by
  unfold reference at referred ⊢
  split at referred
  · cases referred
  next closed =>
  rw [if_neg (by exact closed)]
  cases passed : ledger.checkBehind index rest with
  | error fault => simp [passed] at referred
  | ok done => simpa [passed, checkBehind_moved done passed] using referred

/-! ### Escapes -/

theorem readNumberEscape_follows (ledger : Ledger) (digit : Char) (rest : List Token) :
    Follows behind Prod.snd rest (readNumberEscape ledger digit rest)
      (readNumberEscape ledger.moved digit (rest ++ closing)) := by
  cases tookTwo : takeChars Char.isDigit 1 rest with
  | mk more afterTwo =>
    obtain ⟨sameTwo, leavesTwo⟩ := takeChars_closing rfl rest 1 tookTwo
    cases tookThree : takeChars Digit.isOctal 1 afterTwo with
    | mk last afterThree =>
      obtain ⟨sameThree, leavesThree⟩ := takeChars_closing rfl afterTwo 1 tookThree
      simp only [readNumberEscape, tookTwo, sameTwo, tookThree, sameThree]
      refine Follows.settle leavesTwo fun leaves => ?_
      -- Three octal digits are a code; otherwise the number is that of a group.
      split
      · refine Follows.settle leavesThree fun _ => ?_
        exact (octalCode_follows _ afterThree).bind fun result _ => follows_ok rfl (.refl _)
      · rw [Ledger.moved_groups]
        split
        · refine Follows.check Ledger.reference_moved fun node => ?_
          exact follows_ok rfl (.refl _)
        · apply follows_error

theorem readEscape_follows (ledger : Ledger) (letter : Char) (rest : List Token) :
    Follows behind Prod.snd rest (readEscape ledger letter rest)
      (readEscape ledger.moved letter (rest ++ closing)) := by
  unfold readEscape
  split
  · exact follows_ok rfl (.refl _)
  split
  · exact follows_ok rfl (.refl _)
  split
  · exact follows_ok rfl (.refl _)
  split
  · exact (readNumberEscape_follows ledger letter rest).bind fun result _ =>
      follows_ok rfl (.refl _)
  have finish (result : Nat × List Token) : Follows behind Prod.snd result.2
      (.ok ((⟨.char (.one result.1), .atom⟩ : Piece), result.2))
      (.ok (⟨.char (.one (behind result).1), .atom⟩, (behind result).2)) :=
    follows_ok rfl (.refl _)
  rcases readCharEscape?_follows letter rest with
    ⟨none, none'⟩ | ⟨own, wrapped, some, some', follows⟩
  · rw [none, none']
    dsimp only
    split
    · cases took : takeChars Digit.isOctal 2 rest with
      | mk digits after =>
        obtain ⟨same, leaves⟩ := takeChars_closing rfl rest 2 took
        rw [same]
        refine Follows.settle leaves fun _ => ?_
        exact (octalCode_follows _ after).bind fun result _ => finish result
    · exact (readPlainEscape_follows letter rest).bind fun result _ => finish result
  · rw [some, some']
    exact follows.bind fun result _ => finish result

/-! ### Heads of groups -/

/-- What a head leaves, with the sign behind it. -/
abbrev headBehind {α : Type} (result : Ledger × α × List Token) : Ledger × α × List Token :=
  (result.1.moved, result.2.1, result.2.2 ++ closing)

/-- The tokens that a head leaves. -/
abbrev headLast {α : Type} (result : Ledger × α × List Token) : List Token := result.2.2

theorem readComment_follows (start start' : Nat) (rest : List Token) :
    Follows (· ++ closing) id rest (readComment start rest)
      (readComment start' (rest ++ closing)) := by
  induction rest with
  | nil => apply follows_error
  | cons token rest ih =>
    refine Follows.take ?_
    split
    · exact follows_ok rfl (.refl _)
    · exact ih

theorem readFlagsOn_follows (rest : List Token) : ∀ (flag : Flag) (on : List Flag),
    Follows (fun result => (result.1, behind result.2)) (fun result => result.2.2) rest
      (readFlagsOn flag on rest) (readFlagsOn flag on (rest ++ closing)) := by
  -- Which options go together does not depend on the text, only the place does.
  have checked {flag : Flag} {on : List Flag} {rest : List Token} (done : Unit)
      (passed : readFlagsOn.checkOn flag on rest = .ok done) :
      readFlagsOn.checkOn flag on (rest ++ closing) = .ok done := by
    unfold readFlagsOn.checkOn at passed ⊢
    dsimp only at passed ⊢
    split at passed
    · cases passed
    next known =>
    rw [if_neg known]
    split at passed
    · cases passed
    next compatible =>
    rw [if_neg compatible]
    exact passed
  induction rest with
  | nil =>
    intro flag on
    rw [readFlagsOn]
    intro result read
    cases passed : readFlagsOn.checkOn flag on [] <;> rw [passed] at read <;> cases read
  | cons token rest ih =>
    intro flag on
    unfold readFlagsOn
    refine Follows.check checked fun _ => Follows.take ?_
    split
    · exact follows_ok rfl (.refl _)
    · exact follows_ok rfl (.refl _)
    · exact follows_ok rfl (.refl _)
    · split
      · exact ih _ _
      · apply follows_error
    · apply follows_error

theorem readFlagsOff_follows (rest : List Token) : ∀ (flag : Flag) (off : List Flag),
    Follows behind Prod.snd rest (readFlagsOff flag off rest)
      (readFlagsOff flag off (rest ++ closing)) := by
  induction rest with
  | nil =>
    intro flag off
    unfold readFlagsOff
    dsimp only
    split <;> apply follows_error
  | cons token rest ih =>
    intro flag off
    unfold readFlagsOff
    dsimp only
    split
    · apply follows_error
    refine Follows.take ?_
    split
    · exact follows_ok rfl (.refl _)
    · split
      · exact ih _ _
      · apply follows_error
    · apply follows_error

theorem readScope_follows (on : List Flag) (sign : Char) (rest : List Token) :
    Follows behind Prod.snd rest (readScope on sign rest)
      (readScope on sign (rest ++ closing)) := by
  unfold readScope
  split
  · dsimp only
    split
    · apply follows_error
    · exact follows_ok rfl (.refl _)
  · dsimp only
    split
    · apply follows_error
    cases rest with
    | nil => apply follows_error
    | cons token rest =>
      refine Follows.take ?_
      split
      · apply follows_error
      · refine (readFlagsOff_follows rest _ []).bind fun result _ => ?_
        dsimp only
        split
        · apply follows_error
        split
        · apply follows_error
        · exact follows_ok rfl (.refl _)

theorem readGroupName_follows (terminator : Char) (rest : List Token) :
    Follows behind Prod.snd rest (readGroupName terminator rest)
      (readGroupName terminator (rest ++ closing)) := by
  refine (readName_follows terminator "group name" rest []).bind fun result _ => ?_
  dsimp only
  split
  · apply follows_error
  · exact follows_ok rfl (.refl _)

/-- The ledger with a group number that a condition asks for. -/
def Ledger.asking (ledger : Ledger) (index place : Nat) : Ledger :=
  if ledger.conditions.any (·.1 == index) then ledger
  else { ledger with conditions := ledger.conditions ++ [(index, place)] }

theorem Ledger.moved_asking (ledger : Ledger) (index place : Nat) :
    ledger.moved.asking index (place + 1) = (ledger.asking index place).moved := by
  have known : ledger.moved.conditions.any (·.1 == index) =
      ledger.conditions.any (·.1 == index) := by
    simp [Ledger.moved, List.any_map, Function.comp_def]
  unfold asking
  rw [known]
  split
  · rfl
  · simp [Ledger.moved]

theorem readCondition_follows (ledger : Ledger) (rest : List Token) :
    Follows headBehind headLast rest (readCondition ledger rest)
      (readCondition ledger.moved (rest ++ closing)) := by
  refine (readName_follows ')' "group name" rest []).bind fun result _ => ?_
  dsimp only
  rw [Ledger.moved_names]
  split
  · split
    · apply follows_error
    · refine Follows.check Ledger.checkBehind_moved fun _ => ?_
      exact follows_ok rfl (.refl _)
  · split
    · apply follows_error
    · split
      · apply follows_error
      -- The place of the number is all that changes in the ledger.
      · next index _ _ _ =>
        have place : left (result.2 ++ closing) + result.1.length + 1 =
            left result.2 + result.1.length + 1 + 1 := by
          rw [left_closing]
          omega
        change Follows headBehind headLast result.2
          ((ledger.asking index _).checkBehind index result.2 >>= fun _ =>
            .ok (ledger.asking index _, index, result.2))
          ((ledger.moved.asking index _).checkBehind index (result.2 ++ closing) >>= fun _ =>
            .ok (ledger.moved.asking index _, index, result.2 ++ closing))
        rw [place, Ledger.moved_asking]
        exact Follows.check Ledger.checkBehind_moved fun _ => follows_ok rfl (.refl _)
    · apply follows_error

theorem nameGroup_follows (ledger : Ledger) (name : String) (rest : List Token) :
    Follows Ledger.moved (fun _ => rest) rest (nameGroup ledger name rest)
      (nameGroup ledger.moved name (rest ++ closing)) := by
  unfold nameGroup
  rw [Ledger.moved_names]
  split
  · apply follows_error
  · exact follows_ok rfl (.refl _)

theorem readNamedHead_follows (ledger : Ledger) (rest : List Token) :
    Follows headBehind headLast rest (readNamedHead ledger rest)
      (readNamedHead ledger.moved (rest ++ closing)) := by
  cases rest with
  | nil => apply follows_error
  | cons token rest =>
    unfold readNamedHead
    dsimp only [List.cons_append]
    split
    · next heq =>
      obtain ⟨rfl, rfl⟩ := List.cons.inj heq
      refine Follows.take ?_
      refine (readGroupName_follows '>' _).bind fun result _ => ?_
      exact (nameGroup_follows ledger _ _).bind fun named _ => follows_ok rfl (.refl _)
    · next heq =>
      obtain ⟨rfl, rfl⟩ := List.cons.inj heq
      refine Follows.take ?_
      refine (readGroupName_follows ')' _).bind fun result _ => ?_
      dsimp only
      rw [Ledger.moved_names]
      split
      · apply follows_error
      · exact Follows.check Ledger.reference_moved fun node => follows_ok rfl (.refl _)
    · next heq => cases heq
    · next heq =>
      obtain ⟨rfl, rfl⟩ := List.cons.inj heq
      apply follows_take_error

theorem readBehindHead_follows (ledger : Ledger) (rest : List Token) :
    Follows headBehind headLast rest (readBehindHead ledger rest)
      (readBehindHead ledger.moved (rest ++ closing)) := by
  cases rest with
  | nil => apply follows_error
  | cons token rest =>
    refine Follows.take ?_
    split
    · exact follows_ok rfl (.refl _)
    · exact follows_ok rfl (.refl _)
    · apply follows_error

theorem readGroupHead_follows (ledger : Ledger) (rest : List Token) :
    Follows headBehind headLast rest (readGroupHead ledger rest)
      (readGroupHead ledger.moved (rest ++ closing)) := by
  have capture (rest : List Token) : Follows headBehind headLast rest
      (.ok (ledger.openGroup, .opens (.capture ledger.groups.length), rest))
      (.ok (ledger.moved.openGroup, GroupHead.opens (.capture ledger.moved.groups.length),
        rest ++ closing)) :=
    follows_ok rfl (.refl _)
  -- A head is what begins with a question mark; everything else is captured.
  match rest with
  | [] => exact capture []
  | .escaped c :: rest => exact capture _
  | .dangling :: rest => exact capture _
  | .plain c :: rest =>
    by_cases extension : c = '?'
    · subst extension
      unfold readGroupHead
      refine Follows.take ?_
      cases rest with
      | nil => apply follows_error
      | cons token rest =>
        refine Follows.take ?_
        split
        · exact readNamedHead_follows ledger rest
        · exact follows_ok rfl (.refl _)
        · exact (readComment_follows _ _ rest).bind fun _ _ => follows_ok rfl (.refl _)
        · exact follows_ok rfl (.refl _)
        · exact follows_ok rfl (.refl _)
        · exact readBehindHead_follows ledger rest
        · exact (readCondition_follows ledger rest).bind fun _ _ => follows_ok rfl (.refl _)
        · exact follows_ok rfl (.refl _)
        · exact (readScope_follows [] '-' rest).bind fun _ _ => follows_ok rfl (.refl _)
        · split
          · apply follows_error
          · refine (readFlagsOn_follows rest _ []).bind fun result _ => ?_
            dsimp only
            split
            · exact follows_ok rfl (.refl _)
            · exact (readScope_follows _ _ _).bind fun _ _ => follows_ok rfl (.refl _)
        · apply follows_error
    · simpa [readGroupHead, extension] using capture (.plain c :: rest)

/-! ### Options -/

/-- Every result of a reader satisfies a condition. -/
def Yields {ρ : Type} (holds : ρ → Prop) (reading : Reading ρ) : Prop :=
  ∀ result, reading = .ok result → holds result

section Yields

variable {ρ α : Type} {holds : ρ → Prop}

theorem yields_ok {result : ρ} (here : holds result) : Yields holds (.ok result) := by
  rintro _ ⟨⟩
  exact here

theorem yields_error (fault : Fault) : Yields holds (.error fault) := by
  rintro _ ⟨⟩

theorem yields_bind {first : Reading α} {next : α → Reading ρ}
    (later : ∀ a, first = .ok a → Yields holds (next a)) : Yields holds (first >>= next) := by
  intro result read
  cases first with
  | error fault => cases read
  | ok a => exact later a rfl result read

end Yields

/-- The result's ledger has these options. -/
abbrev HasFlags {α : Type} (flags : List Flag) (result : Ledger × α) : Prop :=
  result.1.flags = flags

theorem readCondition_flags (ledger : Ledger) (rest : List Token) :
    Yields (HasFlags ledger.flags) (readCondition ledger rest) := by
  refine yields_bind fun result _ => ?_
  dsimp only
  split
  · split
    · apply yields_error
    · exact yields_bind fun _ _ => yields_ok rfl
  · split
    · apply yields_error
    · split
      · apply yields_error
      · refine yields_bind fun _ _ => yields_ok ?_
        dsimp only [HasFlags]
        split <;> rfl
    · apply yields_error

theorem readNamedHead_flags (ledger : Ledger) (rest : List Token) :
    Yields (HasFlags ledger.flags) (readNamedHead ledger rest) := by
  unfold readNamedHead
  split
  · refine yields_bind fun _ _ => yields_bind fun result _ => ?_
    refine yields_bind fun named made => yields_ok ?_
    unfold nameGroup at made
    split at made
    · cases made
    · obtain rfl := Except.ok.inj made
      rfl
  · refine yields_bind fun _ _ => yields_bind fun result _ => ?_
    dsimp only
    split
    · apply yields_error
    · exact yields_bind fun _ _ => yields_ok rfl
  · apply yields_error
  · exact yields_bind fun _ _ => yields_error _

theorem readBehindHead_flags (ledger : Ledger) (rest : List Token) :
    Yields (HasFlags ledger.flags) (readBehindHead ledger rest) := by
  unfold readBehindHead
  split
  · apply yields_error
  · refine yields_bind fun _ _ => ?_
    dsimp only
    split
    · exact yields_ok rfl
    · exact yields_ok rfl
    · apply yields_error

/-- Options are switched on where a head is used, not where it is read. -/
theorem readGroupHead_flags (ledger : Ledger) (rest : List Token) :
    Yields (HasFlags ledger.flags) (readGroupHead ledger rest) := by
  unfold readGroupHead
  dsimp only
  split
  · refine yields_bind fun _ _ => ?_
    split
    · apply yields_error
    · refine yields_bind fun _ _ => ?_
      split
      · exact readNamedHead_flags ledger _
      · exact yields_ok rfl
      · exact yields_bind fun _ _ => yields_ok rfl
      · exact yields_ok rfl
      · exact yields_ok rfl
      · exact readBehindHead_flags ledger _
      · refine yields_bind fun result read => yields_ok ?_
        exact readCondition_flags ledger _ result read
      · exact yields_ok rfl
      · exact yields_bind fun _ _ => yields_ok rfl
      · split
        · apply yields_error
        · refine yields_bind fun _ _ => ?_
          split
          · exact yields_ok rfl
          · exact yields_bind fun _ _ => yields_ok rfl
      · apply yields_error
  · exact yields_ok rfl

end Patternwright.Regex
