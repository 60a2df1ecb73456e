import Patternwright.Proofs.Shape.Format

/-!
# Translating formats

The tokens of a format are replaced in the order of their table. Where no character of a token is in
another token or in a fragment, this order makes no difference: at each place of a format at most one
token begins, so one pass over the format needs no preference among the entries. And the result is
left alone by a further translation. It has the fragments, in which no token has any part, and
characters that were passed over; a token that began at one of them would have begun there before.

## Main results

* `Text.cut_perm` — the order of a table makes no difference to a pass
* `Text.rendered_cut_rendered` — a second pass changes nothing
* `Format.translate_eq_pass` — formats are translated in one pass, in any order and once for all
-/

namespace Patternwright

namespace Text

variable {table others : List (String × String)}

/-! ### Tables in another order -/

theorem IsSeparate.perm (separate : IsSeparate table) (order : others.Perm table) :
    IsSeparate others where
  tokens entry member := separate.tokens entry (order.mem_iff.mp member)
  fragments entry member := separate.fragments entry (order.mem_iff.mp member)
  apart := (order.pairwise_iff fun apart => List.disjoint_symm apart).mpr separate.apart
  outside entry member other listed :=
    separate.outside entry (order.mem_iff.mp member) other (order.mem_iff.mp listed)

/-- At most one token begins at a place. -/
theorem IsSeparate.eq_of_prefix (separate : IsSeparate table) {entry other : String × String}
    (member : entry ∈ table) (listed : other ∈ table) {text : List Char}
    (ahead : entry.1.toList <+: text) (aheadOther : other.1.toList <+: text) : entry = other := by
  by_contra distinct
  have symmetric : Std.Symm fun entry other : String × String =>
      entry.1.toList.Disjoint other.1.toList := ⟨fun _ _ => List.disjoint_symm⟩
  have apart : entry.1.toList.Disjoint other.1.toList :=
    separate.apart.forall member listed distinct
  -- Both tokens have the first character of the text.
  obtain ⟨c, tail, split⟩ := List.exists_cons_of_ne_nil (separate.tokens entry member)
  obtain ⟨d, tailOther, splitOther⟩ := List.exists_cons_of_ne_nil (separate.tokens other listed)
  rw [split] at ahead apart
  rw [splitOther] at aheadOther apart
  obtain ⟨rest, rfl⟩ := ahead
  obtain ⟨rfl, -⟩ := List.cons_prefix_cons.mp aheadOther
  exact apart List.mem_cons_self List.mem_cons_self

theorem prefix_of_entryAt? {entry : String × String} {text : List Char}
    (found : entryAt? table text = some entry) : entry.1.toList <+: text := by
  have ahead := List.find?_some found
  exact List.isPrefixOf_iff_prefix.mp ahead

theorem entryAt?_eq_some_iff (separate : IsSeparate table) {entry : String × String}
    {text : List Char} :
    entryAt? table text = some entry ↔ entry ∈ table ∧ entry.1.toList <+: text := by
  constructor
  · intro found
    exact ⟨List.mem_of_find?_eq_some found, prefix_of_entryAt? found⟩
  · rintro ⟨member, ahead⟩
    cases found : entryAt? table text with
    | none =>
      exact absurd (List.isPrefixOf_iff_prefix.mpr ahead) (List.find?_eq_none.mp found entry member)
    | some other =>
      have listed := List.mem_of_find?_eq_some found
      rw [separate.eq_of_prefix listed member (prefix_of_entryAt? found) ahead]

theorem entryAt?_perm (separate : IsSeparate table) (order : others.Perm table)
    (text : List Char) : entryAt? others text = entryAt? table text := by
  refine Option.ext fun entry => ?_
  rw [entryAt?_eq_some_iff (separate.perm order), entryAt?_eq_some_iff separate, order.mem_iff]

/-- The order of the table makes no difference to where a text is cut. -/
theorem cut_perm (separate : IsSeparate table) (order : others.Perm table) (text : List Char) :
    cut others text = cut table text := by
  induction text using cut.induct table with
  | case1 => simp
  | case2 c rest entry found ih =>
    rw [cut, entryAt?_perm separate order, cut, found]
    exact congrArg (.entry entry.2 :: ·) ih
  | case3 c rest none' ih =>
    rw [cut_of_none none', cut_of_none ((entryAt?_perm separate order _).trans none'), ih]

/-! ### A second pass -/

/-- What shares no character with any fragment is at the beginning of a result only where it was at
the beginning of the text. -/
theorem prefix_of_prefix_rendered (separate : IsSeparate table) (text : List Char) :
    ∀ word : List Char, (∀ entry ∈ table, word.Disjoint entry.2.toList) →
      word <+: rendered (cut table text) → word <+: text := by
  induction text using cut.induct table with
  | case1 => simp [rendered]
  | case2 c rest entry found ih =>
    rintro (_ | ⟨d, word⟩) outside ahead
    · exact List.nil_prefix
    · -- The result begins with a fragment here.
      have member := List.mem_of_find?_eq_some found
      have absent := (List.disjoint_cons_left.mp (outside entry member)).1
      rw [cut, found] at ahead
      exact absurd ahead (cons_not_prefix_append (separate.fragments entry member) absent)
  | case3 c rest none' ih =>
    rintro (_ | ⟨d, word⟩) outside ahead
    · exact List.nil_prefix
    · rw [cut_of_none none'] at ahead
      obtain ⟨rfl, later⟩ := List.cons_prefix_cons.mp ahead
      refine List.cons_prefix_cons.mpr ⟨rfl, ih word (fun entry member => ?_) later⟩
      exact (List.disjoint_cons_left.mp (outside entry member)).2

/-- A second pass finds no token. -/
theorem rendered_cut_rendered (separate : IsSeparate table) (text : List Char) :
    rendered (cut table (rendered (cut table text))) = rendered (cut table text) := by
  induction text using cut.induct table with
  | case1 => simp [rendered]
  | case2 c rest entry found ih =>
    have member := List.mem_of_find?_eq_some found
    have apart : ∀ other ∈ table, entry.2.toList.Disjoint other.1.toList := fun other listed =>
      List.disjoint_symm (separate.outside other listed entry member)
    rw [cut, found]
    exact (rendered_cut_append separate.tokens apart _).trans (congrArg (entry.2.toList ++ ·) ih)
  | case3 c rest none' ih =>
    have unfound : entryAt? table (rendered (cut table (c :: rest))) = none := by
      refine List.find?_eq_none.mpr fun entry member ahead => ?_
      have before := prefix_of_prefix_rendered separate (c :: rest) entry.1.toList
        (separate.outside entry member) (List.isPrefixOf_iff_prefix.mp ahead)
      exact List.find?_eq_none.mp none' entry member (List.isPrefixOf_iff_prefix.mpr before)
    rw [cut_of_none none'] at unfound ⊢
    exact (congrArg rendered (cut_of_none unfound)).trans (congrArg (c :: ·) ih)

theorem replaceEach_eq (separate : IsSeparate table) (text : String) :
    replaceEach table text = String.ofList (rendered (cut table text.toList)) := by
  rw [← toList_replaceEach table separate, String.ofList_toList]

end Text

namespace Format

open Text

variable {tokens : List Token}

/-- Where no character of a token is in another token or in a fragment, a format is translated in
one pass, which puts a fragment wherever a token begins and copies all other characters. The order
of the tokens makes no difference, and what has been translated stays as it is. The tokens of dates
and those of times are of this kind. -/
theorem translate_eq_pass (separate : IsSeparate tokens) (format : String) :
    translate (.text format) tokens =
      .ok (.text (String.ofList (rendered (cut tokens format.toList)))) ∧
    (∀ others : List Token, others.Perm tokens →
      translate (.text format) others = translate (.text format) tokens) ∧
    (∀ shown, translate (.text format) tokens = .ok shown → translate shown tokens = .ok shown) ∧
    IsSeparate dateTokens ∧ IsSeparate timeTokens := by
  have pass {table : List Token} (apart : IsSeparate table) (text : String) :
      translate (.text text) table =
        .ok (.text (String.ofList (rendered (cut table text.toList)))) :=
    congrArg (fun shown => Except.ok (Value.text shown)) (replaceEach_eq apart text)
  refine ⟨pass separate format, fun others order => ?_, fun shown translated => ?_,
    isSeparate_dateTokens, isSeparate_timeTokens⟩
  · rw [pass separate, pass (separate.perm order), cut_perm separate order]
  · rw [pass separate] at translated
    obtain rfl := Except.ok.inj translated
    rw [pass separate, String.toList_ofList, rendered_cut_rendered separate]

/-- Of five letters the first four are a token, from whichever end the table is read. -/
theorem translate_eq_pass_reversed :
    IsSeparate dateTokens ∧ dateTokens.reverse.Perm dateTokens ∧
      translate (.text "YYYYYMMM") dateTokens.reverse =
        .ok (.text "\\d\x7b4\x7dY(?:0[1-9]|1[0-2])M") ∧
      translate (.text "\\d\x7b4\x7dY(?:0[1-9]|1[0-2])M") dateTokens =
        .ok (.text "\\d\x7b4\x7dY(?:0[1-9]|1[0-2])M") := by
  obtain ⟨pass, orders, again, -⟩ := translate_eq_pass isSeparate_dateTokens "YYYYYMMM"
  have shown : String.ofList (rendered (cut dateTokens "YYYYYMMM".toList)) =
      "\\d\x7b4\x7dY(?:0[1-9]|1[0-2])M" := by cbv
  rw [shown] at pass
  have order : dateTokens.reverse.Perm dateTokens := List.reverse_perm dateTokens
  exact ⟨isSeparate_dateTokens, order, (orders _ order).trans pass, again _ pass⟩

end Format

end Patternwright
