/-!
# Splitting lists at separators

A list with `n` separators in it splits into `n + 1` parts, some of which may be empty. The parts,
with the separators between them, make up the list again.
-/

namespace StreamLint

/-- The parts of a list between the items for which `separates` holds. -/
def splitWhen {α : Type} (separates : α → Bool) : List α → List (List α)
  | [] => [[]]
  | a :: rest =>
    if separates a then [] :: splitWhen separates rest
    else
      match splitWhen separates rest with
      | [] => [[a]]
      | part :: parts => (a :: part) :: parts

/-- A list has at least one part. -/
theorem splitWhen_ne_nil {α : Type} (separates : α → Bool) (l : List α) :
    splitWhen separates l ≠ [] := by
  cases l with
  | nil => simp [splitWhen]
  | cons a rest =>
    simp only [splitWhen]
    split
    · simp
    · split <;> simp

/-- What is left of `text` after `start`, if the text begins with it. -/
def afterStart? {α : Type} [BEq α] : List α → List α → Option (List α)
  | [], text => some text
  | _ :: _, [] => none
  | a :: start, b :: text => if a == b then afterStart? start text else none

/-- A list up to the place where `mark` first occurs in it; the whole list if it does not occur. -/
def untilMark {α : Type} [BEq α] (mark : List α) : List α → List α
  | [] => []
  | a :: rest => if (afterStart? mark (a :: rest)).isSome then [] else a :: untilMark mark rest

end StreamLint
