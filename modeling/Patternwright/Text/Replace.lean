/-!
# Replacement

A token is replaced by a fragment wherever it stands in a text, from left to right and without
overlap. The empty token stands before every character and at the end.

## Main definitions

* `Text.replaceToken` — the replacement of a token that is not empty
* `Text.replace` — the replacement of any token
* `Text.replaceEach` — one token after the other
-/

namespace Patternwright.Text

/-- The text with a token, which is `head` followed by `tail`, replaced by a fragment. -/
def replaceToken (head : Char) (tail fragment : List Char) (text : List Char) : List Char :=
  match text with
  | [] => []
  | c :: rest =>
    if c = head ∧ tail.isPrefixOf rest then
      fragment ++ replaceToken head tail fragment (rest.drop tail.length)
    else c :: replaceToken head tail fragment rest
termination_by text.length
decreasing_by
  all_goals simp only [List.length_cons, List.length_drop]
  all_goals omega

/-- The text with a token replaced by a fragment. -/
def replaceAll (token fragment text : List Char) : List Char :=
  match token with
  | [] => text.flatMap (fun c => fragment ++ [c]) ++ fragment
  | head :: tail => replaceToken head tail fragment text

/-- The text with a token replaced by a fragment. -/
def replace (token fragment text : String) : String :=
  String.ofList (replaceAll token.toList fragment.toList text.toList)

/-- The text with each token of a table replaced by its fragment, in the order of the table. A later
token is also found in an earlier fragment. -/
def replaceEach (table : List (String × String)) (text : String) : String :=
  table.foldl (fun text (token, fragment) => replace token fragment text) text

end Patternwright.Text
