import Patternwright.Proofs.Regex.Reading

/-!
# Readers with a sign behind their text

What a reader makes of a text does not change if a dollar sign is put behind the text: no construct
that is complete goes on with that sign. The tokens that are left have the sign behind them too, and
every place, which is counted from the end, moves by one.

This holds even for texts that end in a lone backslash, as far as single readers are concerned,
because none of them takes that backslash: it is still there in what they leave.

## Main definitions

* `closing` — the sign
* `Dangles` — a text ends in a lone backslash, with something before it
* `Leaves` — what a reader leaves is the end of what it was given
* `Follows` — a reader makes the same of a text with the sign behind it

## Main results

* `readSet_follows`, `readGreed_follows`, `readBounds?_closing` — sets, quantifiers and counts
-/

namespace Patternwright.Regex

/-! ### The sign -/

/-- The sign that stands behind a pattern. -/
def closing : List Token := [.plain '$']

@[simp] theorem settle_closing (rest : List Token) : settle (rest ++ closing) = .ok () := by
  cases rest with
  | nil => rfl
  | cons token rest => cases token <;> cases rest <;> rfl

theorem settle_eq_ok_iff {rest : List Token} : settle rest = .ok () ↔ rest ≠ [.dangling] := by
  unfold settle
  split
  · simp [stop]
  · next other => simpa using other

theorem left_closing (rest : List Token) : left (rest ++ closing) = left rest + 1 := by
  induction rest with
  | nil => rfl
  | cons token rest ih =>
    simp only [List.cons_append, left, ih]
    omega

theorem resume_closing (rest after : List Token) :
    resume (rest ++ closing) (after ++ closing) = resume rest after ++ closing := by
  have inside : rest.length - after.length ≤ rest.length := by omega
  simp only [resume, List.length_append, Nat.add_sub_add_right]
  rw [List.drop_append_of_le_length inside]

/-- The text ends in a lone backslash, and that is not all there is. -/
structure Dangles (tokens : List Token) : Prop where
  last : tokens.getLast? = some .dangling
  more : 1 < tokens.length

theorem Dangles.tail {token : Token} {rest : List Token} (dangles : Dangles (token :: rest))
    (settled : settle rest = .ok ()) : Dangles rest := by
  -- Only a text of two tokens could come down to the lone backslash.
  match rest, dangles with
  | [], dangles => exact absurd dangles.more (by simp)
  | [only], dangles =>
    obtain rfl : only = .dangling := by simpa using dangles.last
    simp [settle, stop] at settled
  | first :: second :: rest, dangles => exact ⟨by simpa using dangles.last, by simp⟩

/-- What a reader leaves: an end of the text, with the lone backslash that may be there. -/
structure Leaves (rest after : List Token) : Prop where
  suffix : after <:+ rest
  dangles : Dangles rest → Dangles after

theorem Leaves.refl (rest : List Token) : Leaves rest rest := ⟨List.suffix_rfl, id⟩

theorem Leaves.trans {rest middle after : List Token} (first : Leaves rest middle)
    (second : Leaves middle after) : Leaves rest after :=
  ⟨second.suffix.trans first.suffix, fun dangles => second.dangles (first.dangles dangles)⟩

theorem leaves_tail {token : Token} {rest : List Token} (settled : settle rest = .ok ()) :
    Leaves (token :: rest) rest :=
  ⟨List.suffix_cons token rest, fun dangles => dangles.tail settled⟩

theorem Leaves.resume_eq {rest after : List Token} (leaves : Leaves rest after) :
    resume rest after = after := by
  obtain ⟨taken, rfl⟩ := leaves.suffix
  exact resume_append taken after

/-! ### Following a reader -/

/-- Where the first reader succeeds, the second one has the lifted result. -/
def Follows {ρ σ : Type} (lift : ρ → σ) (last : ρ → List Token) (rest : List Token)
    (own : Reading ρ) (wrapped : Reading σ) : Prop :=
  ∀ result, own = .ok result → wrapped = .ok (lift result) ∧ Leaves rest (last result)

section Steps

variable {ρ σ ρ' σ' : Type} {lift : ρ → σ} {last : ρ → List Token} {lift' : ρ' → σ'}
  {last' : ρ' → List Token} {rest : List Token}

theorem follows_ok {result : ρ} {lifted : σ} (same : lifted = lift result)
    (leaves : Leaves rest (last result)) : Follows lift last rest (.ok result) (.ok lifted) := by
  rintro _ ⟨⟩
  exact ⟨same ▸ rfl, leaves⟩

theorem follows_error (fault : Fault) (wrapped : Reading σ) :
    Follows lift last rest (.error fault) wrapped := by
  rintro _ ⟨⟩

theorem Follows.bind {own : Reading ρ'} {wrapped : Reading σ'} {next : ρ' → Reading ρ}
    {next' : σ' → Reading σ} (first : Follows lift' last' rest own wrapped)
    (later : ∀ result, Leaves rest (last' result) →
      Follows lift last (last' result) (next result) (next' (lift' result))) :
    Follows lift last rest (own >>= next) (wrapped >>= next') := by
  intro result read
  cases own with
  | error fault => cases read
  | ok middle =>
    obtain ⟨same, leaves⟩ := first middle rfl
    obtain ⟨final, leavesLast⟩ := later middle leaves result read
    exact ⟨same ▸ final, leaves.trans leavesLast⟩

/-- A check or value that takes no token. -/
theorem Follows.check {α : Type} {own wrapped : Reading α} {next : α → Reading ρ}
    {next' : α → Reading σ} (first : ∀ a, own = .ok a → wrapped = .ok a)
    (later : ∀ a, Follows lift last rest (next a) (next' a)) :
    Follows lift last rest (own >>= next) (wrapped >>= next') := by
  intro result read
  cases own with
  | error fault => cases read
  | ok a =>
    rw [first a rfl]
    exact later a result read

theorem Follows.settle {before : List Token} {own : Reading ρ} {wrapped : Reading σ}
    (leaves : Regex.settle rest = .ok () → Leaves before rest)
    (later : Leaves before rest → Follows lift last rest own wrapped) :
    Follows lift last before (Regex.settle rest >>= fun _ => own)
      (Regex.settle (rest ++ closing) >>= fun _ => wrapped) := by
  intro result read
  cases settled : Regex.settle rest with
  | error fault =>
    rw [settled] at read
    cases read
  | ok =>
    rw [settled] at read
    obtain ⟨same, leavesLast⟩ := later (leaves settled) result read
    rw [settle_closing]
    exact ⟨same, (leaves settled).trans leavesLast⟩

/-- A token is taken. -/
theorem Follows.take {token : Token} {own : Reading ρ} {wrapped : Reading σ}
    (later : Follows lift last rest own wrapped) :
    Follows lift last (token :: rest) (Regex.settle rest >>= fun _ => own)
      (Regex.settle (rest ++ closing) >>= fun _ => wrapped) :=
  Follows.settle leaves_tail fun _ => later

/-- A reader that stops after a token succeeds nowhere. -/
theorem follows_take_error {fault : Fault} {before : List Token} (wrapped : Reading σ) :
    Follows lift last before (Regex.settle rest >>= fun _ => .error fault) wrapped := by
  intro result read
  cases settled : Regex.settle rest <;> rw [settled] at read <;> cases read

end Steps

/-- A result with the sign behind the tokens that are left. -/
abbrev behind {α : Type} (result : α × List Token) : α × List Token :=
  (result.1, result.2 ++ closing)

theorem takeChars_closing {test : Char → Bool} (foreign : test '$' = false)
    (rest : List Token) : ∀ (most : Nat) {taken : List Char} {after : List Token},
    takeChars test most rest = (taken, after) →
      takeChars test most (rest ++ closing) = (taken, after ++ closing) ∧
        (settle after = .ok () → Leaves rest after) := by
  induction rest with
  | nil =>
    intro most taken after took
    cases most <;> simp only [takeChars, Prod.mk.injEq] at took <;> obtain ⟨rfl, rfl⟩ := took <;>
      exact ⟨by simp [takeChars, closing, foreign], fun _ => .refl []⟩
  | cons token rest ih =>
    intro most taken after took
    have stay (same : takeChars test most (token :: rest) = ([], token :: rest))
        (same' : takeChars test most (token :: rest ++ closing) =
          ([], token :: rest ++ closing)) :
        takeChars test most (token :: rest ++ closing) = (taken, after ++ closing) ∧
          (settle after = .ok () → Leaves (token :: rest) after) := by
      obtain ⟨rfl, rfl⟩ := Prod.mk.inj (same.symm.trans took)
      exact ⟨same', fun _ => .refl _⟩
    cases most with
    | zero => exact stay rfl rfl
    | succ most =>
      cases token with
      | plain c =>
        by_cases member : test c = true
        · cases further : takeChars test most rest with
          | mk more left =>
            obtain ⟨same, leaves⟩ := ih most further
            simp only [takeChars, member, further, ↓reduceIte, Prod.mk.injEq] at took
            obtain ⟨rfl, rfl⟩ := took
            refine ⟨by simp [takeChars, member, same], fun settled => ?_⟩
            -- A lone backslash right behind the character would be all that is left.
            have tail : settle rest = .ok () := by
              rw [settle_eq_ok_iff]
              rintro rfl
              obtain ⟨rfl, rfl⟩ : more = [] ∧ left = [.dangling] := by
                cases most <;> simpa [takeChars, eq_comm] using further
              exact settle_eq_ok_iff.mp settled rfl
            exact (leaves_tail tail).trans (leaves settled)
        · exact stay (by simp [takeChars, member]) (by simp [takeChars, member])
      | escaped c => exact stay rfl rfl
      | dangling => exact stay rfl rfl

/-! ### Escapes -/

theorem readName_follows (terminator : Char) (what : String) (rest : List Token) :
    ∀ name, Follows behind Prod.snd rest (readName terminator what name rest)
      (readName terminator what name (rest ++ closing)) := by
  induction rest with
  | nil =>
    intro name
    rw [readName]
    split <;> apply follows_error
  | cons token rest ih =>
    intro name
    refine Follows.take ?_
    split
    · split
      · apply follows_error
      · exact follows_ok rfl (.refl _)
    · exact ih _

theorem readHexCode_follows (letter : Char) (count : Nat) (rest : List Token) :
    Follows behind Prod.snd rest (readHexCode letter count rest)
      (readHexCode letter count (rest ++ closing)) := by
  cases took : takeChars (fun c => (Digit.value? c).isSome) count rest with
  | mk digits after =>
    obtain ⟨same, leaves⟩ := takeChars_closing rfl rest count took
    simp only [readHexCode, took, same]
    refine Follows.settle leaves fun _ => ?_
    split
    · split
      · exact follows_ok rfl (.refl _)
      · split <;> apply follows_error
    · apply follows_error

theorem readNamedChar_follows (rest : List Token) :
    Follows behind Prod.snd rest (readNamedChar rest) (readNamedChar (rest ++ closing)) := by
  unfold readNamedChar
  split
  · refine Follows.take ?_
    refine (readName_follows '}' "character name" _ []).bind fun result _ => ?_
    dsimp only
    split
    · exact follows_ok rfl (.refl _)
    · apply follows_error
  · apply follows_error

/-- The same letters are escapes by code or name. -/
theorem readCharEscape?_follows (letter : Char) (rest : List Token) :
    (readCharEscape? letter rest = none ∧ readCharEscape? letter (rest ++ closing) = none) ∨
      ∃ own wrapped, readCharEscape? letter rest = some own ∧
        readCharEscape? letter (rest ++ closing) = some wrapped ∧
        Follows behind Prod.snd rest own wrapped := by
  unfold readCharEscape?
  split
  · exact .inr ⟨_, _, rfl, rfl, readHexCode_follows 'x' 2 rest⟩
  · exact .inr ⟨_, _, rfl, rfl, readHexCode_follows 'u' 4 rest⟩
  · exact .inr ⟨_, _, rfl, rfl, readHexCode_follows 'U' 8 rest⟩
  · exact .inr ⟨_, _, rfl, rfl, readNamedChar_follows rest⟩
  · exact .inl ⟨rfl, rfl⟩

theorem readPlainEscape_follows (letter : Char) (rest : List Token) :
    Follows behind Prod.snd rest (readPlainEscape letter rest)
      (readPlainEscape letter (rest ++ closing)) := by
  unfold readPlainEscape
  split
  · apply follows_error
  · exact follows_ok rfl (.refl _)

theorem octalCode_follows (digits : List Char) (rest : List Token) :
    Follows behind Prod.snd rest (octalCode digits rest)
      (octalCode digits (rest ++ closing)) := by
  unfold octalCode
  dsimp only
  split
  · exact follows_ok rfl (.refl _)
  · apply follows_error

theorem readSetEscape_follows (letter : Char) (rest : List Token) :
    Follows behind Prod.snd rest (readSetEscape letter rest)
      (readSetEscape letter (rest ++ closing)) := by
  unfold readSetEscape
  split
  · exact follows_ok rfl (.refl _)
  split
  · exact follows_ok rfl (.refl _)
  dsimp only
  have finish (result : Nat × List Token) : Follows behind Prod.snd result.2
      (.ok (SetItem.one result.1, result.2)) (.ok (.one (behind result).1, (behind result).2)) :=
    follows_ok rfl (.refl _)
  -- Whether a letter is an escape by code or name does not depend on the text.
  rcases readCharEscape?_follows letter rest with
    ⟨none, none'⟩ | ⟨own, wrapped, some, some', follows⟩
  · rw [none, none']
    dsimp only
    split
    · cases took : takeChars Digit.isOctal 2 rest with
      | mk digits after =>
        obtain ⟨same, leaves⟩ := takeChars_closing rfl rest 2 took
        rw [same]
        refine Follows.settle leaves fun _ => ?_
        exact (octalCode_follows _ after).bind fun result _ => finish result
    · split
      · apply follows_error
      · exact (readPlainEscape_follows letter rest).bind fun result _ => finish result
  · rw [some, some']
    exact follows.bind fun result _ => finish result

/-! ### Bracketed sets -/

theorem readSetAtom_follows (token : Token) (rest : List Token) :
    Follows behind Prod.snd rest (readSetAtom token rest)
      (readSetAtom token (rest ++ closing)) := by
  unfold readSetAtom
  split
  · exact follows_ok rfl (.refl _)
  · exact readSetEscape_follows _ rest
  · apply follows_error

theorem rangeOf_closing {first last : SetItem} {firstToken lastToken : Token} {rest : List Token}
    (range : SetItem) (made : rangeOf first last firstToken lastToken rest = .ok range) :
    rangeOf first last firstToken lastToken (rest ++ closing) = .ok range := by
  unfold rangeOf at made ⊢
  dsimp only at made ⊢
  split at made
  · split at made
    · cases made
    · next ordered => rw [if_neg ordered, made]
  · cases made

theorem readMembers_follows (start start' : Nat) (rest : List Token) : ∀ items,
    Follows behind Prod.snd rest (readMembers start items rest)
      (readMembers start' items (rest ++ closing)) := by
  -- A member may take many tokens, so the induction is on how many are left.
  induction remaining : rest.length using Nat.strongRecOn generalizing rest with
  | _ _ ih =>
    subst remaining
    intro items
    cases rest with
    | nil =>
      rw [readMembers]
      apply follows_error
    | cons token rest =>
      have further {after : List Token} (leaves : Leaves rest after) (items : List SetItem) :
          Follows behind Prod.snd after (readMembers start items (resume rest after))
            (readMembers start' items (resume (rest ++ closing) (after ++ closing))) := by
        have shorter : after.length < (token :: rest).length :=
          Nat.lt_succ_of_le leaves.suffix.length_le
        rw [resume_closing, leaves.resume_eq]
        exact ih _ shorter after rfl items
      rw [List.cons_append, readMembers, readMembers]
      refine Follows.take ?_
      split
      · exact follows_ok rfl (.refl _)
      refine (readSetAtom_follows token rest).bind fun result leaves => ?_
      obtain ⟨item, after⟩ := result
      cases after with
      | nil => exact further leaves _
      | cons next after =>
        cases next with
        | escaped c => exact further leaves _
        | dangling => exact further leaves _
        | plain c =>
          by_cases dash : c = '-'
          · subst dash
            refine Follows.settle leaves_tail fun leavesDash => ?_
            cases after with
            | nil => apply follows_error
            | cons lastToken after =>
              refine Follows.settle leaves_tail fun leavesLast => ?_
              split
              · exact follows_ok rfl (.refl _)
              refine (readSetAtom_follows lastToken after).bind fun result leavesRange => ?_
              refine Follows.check rangeOf_closing fun range => ?_
              exact further (leaves.trans (leavesDash.trans (leavesLast.trans leavesRange))) _
          · simpa [dash] using further leaves (items ++ [item])

theorem readSet_follows (rest : List Token) :
    Follows behind Prod.snd rest (readSet rest) (readSet (rest ++ closing)) := by
  have members (start start' : Nat) (negated : Bool) (rest : List Token) :
      Follows behind Prod.snd rest
        (readMembers start [] rest >>= fun result =>
          .ok (CharTest.ofSet negated result.1, result.2))
        (readMembers start' [] (rest ++ closing) >>= fun result =>
          .ok (CharTest.ofSet negated result.1, result.2)) :=
    (readMembers_follows start start' rest []).bind fun result _ => follows_ok rfl (.refl _)
  -- Only a caret in front is looked at before the members.
  match rest with
  | [] => exact members _ _ false []
  | .escaped c :: rest => exact members _ _ false _
  | .dangling :: rest => exact members _ _ false _
  | .plain c :: rest =>
    by_cases caret : c = '^'
    · subst caret
      exact Follows.take (members _ _ true rest)
    · simpa [readSet, caret] using members _ _ false (.plain c :: rest)

/-! ### Quantifiers -/

theorem readGreed_follows (rest : List Token) :
    Follows behind Prod.snd rest (readGreed rest) (readGreed (rest ++ closing)) := by
  -- A dollar sign behind a quantifier says nothing about its greed.
  match rest with
  | [] => exact follows_ok rfl (.refl _)
  | .escaped c :: rest => exact follows_ok rfl (.refl _)
  | .dangling :: rest => exact follows_ok rfl (.refl _)
  | .plain c :: rest =>
    by_cases lazy : c = '?'
    · subst lazy
      exact Follows.take (follows_ok rfl (.refl _))
    by_cases possessive : c = '+'
    · subst possessive
      exact Follows.take (follows_ok rfl (.refl _))
    · have greedy (more : List Token) :
          readGreed (.plain c :: more) = .ok (.greedy, .plain c :: more) := by
        simp [readGreed, lazy, possessive]
      rw [List.cons_append, greedy, greedy]
      exact follows_ok rfl (.refl _)

theorem takeChars_enough (test : Char → Bool) (rest : List Token) : ∀ most, rest.length ≤ most →
    takeChars test most rest = takeChars test rest.length rest := by
  induction rest with
  | nil =>
    intro most _
    cases most <;> rfl
  | cons token rest ih =>
    intro most enough
    cases most with
    | zero => simp at enough
    | succ most =>
      have same := ih most (by simpa using enough)
      cases token with
      | plain c => simp [takeChars, same]
      | escaped c => rfl
      | dangling => rfl

/-- All digits in front, however many there are. -/
theorem takeDigits_closing {rest : List Token} {taken : List Char} {after : List Token}
    (took : takeChars Char.isDigit rest.length rest = (taken, after)) :
    takeChars Char.isDigit (rest ++ closing).length (rest ++ closing) = (taken, after ++ closing) ∧
      (settle after = .ok () → Leaves rest after) := by
  -- The length of the text is only a limit that is never reached.
  have more : rest.length ≤ (rest ++ closing).length := by simp
  rw [← takeChars_enough Char.isDigit rest _ more] at took
  exact takeChars_closing rfl rest _ took

/-- The end of braces after their digits. -/
def readBraceEnd (here : Nat) (low high : List Char) (rest : List Token) :
    Reading (Option (Bounds × List Token)) := do
  match rest with
  | .plain '}' :: after =>
    settle after
    let least := (← readCount? low).getD 0
    let most ← readCount? high
    if most.any (· < least) then stop .leastAboveMost here
    return some (⟨least, most⟩, after)
  | _ => return none

/-- The upper count after a comma, and the end of the braces. -/
def readUpper (here : Nat) (low : List Char) (rest : List Token) :
    Reading (Option (Bounds × List Token)) := do
  settle rest
  let high := takeChars Char.isDigit rest.length rest
  settle high.2
  readBraceEnd here low high.1 high.2

/-- A single count is both the lower and the upper one. -/
theorem readBounds?_eq (rest : List Token) :
    readBounds? rest =
      if rest.head? = some (.plain '}') then .ok none
      else
        let low := takeChars Char.isDigit rest.length rest
        settle low.2 >>= fun _ =>
          match low.2 with
          | .plain ',' :: afterComma => readUpper (left rest) low.1 afterComma
          | _ => readBraceEnd (left rest) low.1 low.1 low.2 := by
  rw [readBounds?]
  split
  · rfl
  · cases takeChars Char.isDigit rest.length rest with
    | mk low afterLow =>
      dsimp only
      congr 1

theorem readBraceEnd_closing {here here' : Nat} {low high : List Char} {before rest : List Token}
    (leaves : Leaves before rest) {result : Option (Bounds × List Token)}
    (read : readBraceEnd here low high rest = .ok result) :
    readBraceEnd here' low high (rest ++ closing) = .ok (result.map behind) ∧
      ∀ found, result = some found → Leaves before found.2 := by
  have none (own : readBraceEnd here low high rest = .ok none)
      (wrapped : readBraceEnd here' low high (rest ++ closing) = .ok none) :
      readBraceEnd here' low high (rest ++ closing) = .ok (result.map behind) ∧
        ∀ found, result = some found → Leaves before found.2 := by
    obtain rfl := Except.ok.inj (own.symm.trans read)
    exact ⟨wrapped, by simp⟩
  -- Without a closing brace the braces are no quantifier, whatever else comes.
  match rest, leaves with
  | [], _ => exact none rfl rfl
  | .escaped c :: after, _ => exact none rfl rfl
  | .dangling :: after, _ => exact none rfl rfl
  | .plain c :: after, leaves =>
    by_cases brace : c = '}'
    · subst brace
      have closes : Follows (Option.map behind) (fun found => (found.map Prod.snd).getD after)
          (.plain '}' :: after) (readBraceEnd here low high (.plain '}' :: after))
          (readBraceEnd here' low high (.plain '}' :: after ++ closing)) := by
        refine Follows.take (Follows.check (fun _ counted => counted) fun least => ?_)
        refine Follows.check (fun _ counted => counted) fun most => ?_
        split
        · apply follows_error
        · exact follows_ok rfl (.refl _)
      obtain ⟨same, leavesAfter⟩ := closes result read
      refine ⟨same, ?_⟩
      rintro found rfl
      exact leaves.trans leavesAfter
    · exact none (by simp [readBraceEnd, brace]) (by simp [readBraceEnd, brace])

theorem readUpper_closing {here here' : Nat} {low : List Char} {before rest : List Token}
    (leaves : settle rest = .ok () → Leaves before rest)
    {result : Option (Bounds × List Token)} (read : readUpper here low rest = .ok result) :
    readUpper here' low (rest ++ closing) = .ok (result.map behind) ∧
      ∀ found, result = some found → Leaves before found.2 := by
  cases took : takeChars Char.isDigit rest.length rest with
  | mk high after =>
    obtain ⟨same, leavesHigh⟩ := takeDigits_closing took
    rw [readUpper, took] at read
    rw [readUpper, same]
    cases settled : settle rest with
    | error fault => simp [settled] at read
    | ok =>
      cases settledHigh : settle after with
      | error fault => simp [settled, settledHigh] at read
      | ok =>
        simp only [settled, settledHigh, ok_bind] at read
        simp only [settle_closing, ok_bind]
        exact readBraceEnd_closing ((leaves settled).trans (leavesHigh settledHigh)) read

/-- Braces are read as the same counts, or they are ordinary characters in both texts. -/
theorem readBounds?_closing {rest : List Token} {result : Option (Bounds × List Token)}
    (read : readBounds? rest = .ok result) :
    readBounds? (rest ++ closing) = .ok (result.map behind) ∧
      ∀ found, result = some found → Leaves rest found.2 := by
  -- The sign is no closing brace either, if it is the first token.
  have head : (rest ++ closing).head? = some (.plain '}') ↔ rest.head? = some (.plain '}') := by
    cases rest <;> simp [closing]
  rw [readBounds?_eq] at read ⊢
  simp only [head]
  by_cases empty : rest.head? = some (.plain '}')
  · rw [if_pos empty] at read ⊢
    obtain rfl := Except.ok.inj read
    exact ⟨rfl, by simp⟩
  rw [if_neg empty] at read ⊢
  cases took : takeChars Char.isDigit rest.length rest with
  | mk low after =>
    obtain ⟨same, leavesLow⟩ := takeDigits_closing took
    simp only [took] at read
    simp only [same, settle_closing, ok_bind]
    cases settled : settle after with
    | error fault => simp [settled] at read
    | ok =>
      have leaves := leavesLow settled
      simp only [settled, ok_bind] at read
      match after, leaves with
      | [], leaves => exact readBraceEnd_closing leaves read
      | .escaped c :: after, leaves => exact readBraceEnd_closing leaves read
      | .dangling :: after, leaves => exact readBraceEnd_closing leaves read
      | .plain c :: after, leaves =>
        by_cases comma : c = ','
        · subst comma
          exact readUpper_closing (fun tail => leaves.trans (leaves_tail tail)) read
        · have single : readBraceEnd (left rest) low low (.plain c :: after) = .ok result := by
            simpa [comma] using read
          simpa [comma] using readBraceEnd_closing leaves single

end Patternwright.Regex
