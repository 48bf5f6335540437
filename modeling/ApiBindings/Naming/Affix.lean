import ApiBindings.Error
import ApiBindings.Text.CharClass
/-!
# Shared affixes

The longest prefix and the longest suffix that all labels share, and the places inside a label
where a word begins. A prefix or suffix that is cut off is first shortened until it ends at such a
place in every label.
-/

namespace ApiBindings.Naming

/-! ## Longest shared affixes -/

/-- A length that is grown from `n` one by one, for as long as so much is shared and some of what
there is is left. -/
def grow (isShared : Nat → Bool) : Nat → Nat → Nat
  | 0, n => n
  | left + 1, n => if isShared (n + 1) then grow isShared left (n + 1) else n

/-- How many characters at the front of `first` all labels begin with. -/
def sharedPrefix (first : List Char) (labels : List (List Char)) : Nat :=
  grow (fun n => labels.all fun l => (first.take n).isPrefixOf l) first.length 0

/-- How many characters at the back of `first` all labels end in. -/
def sharedSuffix (first : List Char) (labels : List (List Char)) : Nat :=
  grow (fun n => labels.all fun l => (first.drop (first.length - n)).isSuffixOf l) first.length 0

/-- The length of the longest prefix that all labels share. -/
def commonPrefixLength : List String → Except Error Nat
  | [] => .error .noLabels
  | first :: rest => .ok (sharedPrefix first.toList ((first :: rest).map String.toList))

/-- The length of the longest suffix that all labels share. -/
def commonSuffixLength : List String → Except Error Nat
  | [] => .error .noLabels
  | first :: rest => .ok (sharedSuffix first.toList ((first :: rest).map String.toList))

/-! ## Word boundaries -/

/-- A word begins at `i`: at either end of the label or past it, at a capital, or at a digit. -/
def isBoundary (label : List Char) (i : Nat) : Bool :=
  i == 0 || match label[i]? with
    | none => true
    | some c => Text.isUpper c || Text.isDigit c

/-- The greatest length not above `n` that is aligned, or zero. -/
def backOff (aligned : Nat → Bool) : Nat → Nat
  | 0 => 0
  | n + 1 => if aligned (n + 1) then n + 1 else backOff aligned n

end ApiBindings.Naming
