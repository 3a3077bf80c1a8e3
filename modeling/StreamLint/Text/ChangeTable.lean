/-!
# Tables of character properties

A property that has one value for every code point is kept as the list of points at which its value
changes. The list is written as text: an entry is a code point in lower-case hexadecimal, followed
by the value that holds from there on, which begins with a capital letter.
-/

namespace StreamLint

/-- The points at which a property changes, in increasing order, each with its new value. -/
structure ChangeTable (α : Type) where
  /-- The points and values. -/
  entries : Array (Nat × α)

namespace ChangeTable

/-- The value of a lower-case hexadecimal digit. -/
def hexDigit? (c : Char) : Option Nat :=
  if '0' ≤ c && c ≤ '9' then some (c.toNat - '0'.toNat)
  else if 'a' ≤ c && c ≤ 'f' then some (c.toNat - 'a'.toNat + 10)
  else none

/-- Reads one entry. -/
def readEntry {α : Type} (value : String → α) (entry : String) : Nat × α :=
  let point := entry.toList.takeWhile fun c => (hexDigit? c).isSome
  (point.foldl (fun n c => 16 * n + (hexDigit? c).getD 0) 0,
   value (String.ofList (entry.toList.drop point.length)))

/-- Reads rows of entries with spaces between them. -/
def ofRows {α : Type} (value : String → α) (rows : List String) : ChangeTable α :=
  ⟨(rows.flatMap fun row => (row.splitOn " ").map (readEntry value)).toArray⟩

/-- The value of the last entry between two places whose point is at most `point`, found by halving
the distance at most `steps` times. -/
def search {α : Type} (table : ChangeTable α) (point : Nat) : Nat → Nat → Nat → Option α
  | 0, first, _ => (table.entries[first]?).map (·.2)
  | steps + 1, first, last =>
    if last ≤ first + 1 then (table.entries[first]?).map (·.2)
    else
      let middle := (first + last) / 2
      if ((table.entries[middle]?).map (·.1)).getD 0 ≤ point then
        search table point steps middle last
      else search table point steps first middle

/-- The value at a character. -/
def get? {α : Type} (table : ChangeTable α) (c : Char) : Option α :=
  table.search c.toNat 32 0 table.entries.size

end ChangeTable

end StreamLint
