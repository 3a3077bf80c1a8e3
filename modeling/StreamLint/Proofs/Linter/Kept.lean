import Mathlib.Data.List.Induction
import Mathlib.Tactic.Common
import StreamLint.Linter.Silencing
/-!
# Which findings are reported

Between what the checks find in a file and what is reported about it stand two filters. A log keeps
of each check only so many findings, and comments silence findings on some lines. Both are built up
step by step, the log with a count for every check and the silencing with a map from lines; this
file says what comes of it in terms of the whole list of findings and the whole list of comments.

* `StreamLint.FindingLog.Keeps.addAll` – a log keeps the findings before which fewer than the limit
  were found by the same check (`StreamLint.keepFirst`);
* `StreamLint.Silencing.silences_ofComments` – a check is silenced on a line exactly if some comment
  silences it there (`StreamLint.Comment.silences`).
-/

namespace StreamLint

/-! ### The limit -/

/-- How many findings are those of a check. -/
def countOf (checkId : String) (found : List Finding) : Nat :=
  found.countP (·.checkId == checkId)

/-- The findings before which fewer than `limit` were found by the same check. -/
def keepFirst (limit : Nat) (found : List Finding) : List Finding :=
  (found.zipIdx.filter fun (finding, place) =>
    countOf finding.checkId (found.take place) < limit).map (·.1)

theorem countOf_concat (checkId : String) (found : List Finding) (finding : Finding) :
    countOf checkId (found ++ [finding]) =
      countOf checkId found + if finding.checkId = checkId then 1 else 0 := by
  simp [countOf, List.countP_append, List.countP_singleton]

/-- What is found later has no say in what was kept before. -/
theorem keepFirst_concat (limit : Nat) (found : List Finding) (finding : Finding) :
    keepFirst limit (found ++ [finding]) =
      keepFirst limit found ++ if countOf finding.checkId found < limit then [finding] else [] := by
  have hold : ∀ entry ∈ found.zipIdx,
      decide (countOf entry.1.checkId ((found ++ [finding]).take entry.2) < limit) =
        decide (countOf entry.1.checkId (found.take entry.2) < limit) := by
    rintro ⟨entry, place⟩ hmem
    have hlt : place < found.length := by
      have := List.snd_lt_of_mem_zipIdx hmem
      simpa using this
    rw [List.take_append_of_le_length (Nat.le_of_lt hlt)]
  rw [keepFirst, keepFirst, List.zipIdx_append, List.filter_append, List.map_append,
    List.filter_congr hold]
  congr 1
  by_cases hroom : countOf finding.checkId found < limit <;> simp [hroom]

/-- **The findings of one check that are kept** are its first ones. -/
theorem filter_keepFirst (limit : Nat) (found : List Finding) (checkId : String) :
    (keepFirst limit found).filter (·.checkId == checkId) =
      (found.filter (·.checkId == checkId)).take limit := by
  induction found using List.reverseRecOn with
  | nil => simp [keepFirst]
  | append_singleton found finding ih =>
    rw [keepFirst_concat, List.filter_append, List.filter_append, ih]
    have hcount : countOf checkId found = (found.filter (·.checkId == checkId)).length :=
      List.countP_eq_length_filter
    by_cases heq : finding.checkId = checkId
    · subst heq
      by_cases hroom : countOf finding.checkId found < limit
      · rw [if_pos hroom, List.take_of_length_le (by omega),
          List.take_of_length_le (by simp; omega)]
      · rw [if_neg hroom, List.take_append_of_le_length (by omega)]
        simp
    · have hnone : [finding].filter (·.checkId == checkId) = [] := by simp [heq]
      rw [hnone, List.append_nil]
      split <;> simp [heq]

/-- What is kept was found. -/
theorem mem_of_mem_keepFirst {limit : Nat} {found : List Finding} {finding : Finding}
    (h : finding ∈ keepFirst limit found) : finding ∈ found := by
  obtain ⟨entry, hentry, rfl⟩ := List.mem_map.mp h
  exact List.mem_of_getElem? (List.mem_zipIdx_iff_getElem?.mp (List.mem_filter.mp hentry).1)

namespace FindingLog

/-- The state of a log: what it kept of the findings so far, and how many of each check. -/
structure Keeps (limit : Nat) (found : List Finding) (log : FindingLog) : Prop where
  /-- The bound does not change. -/
  limit_eq : log.limit = some limit
  /-- The first findings of each check are kept. -/
  findings_eq : log.findings.toList = keepFirst limit found
  /-- The findings of each check are counted up to the bound. -/
  count_eq : ∀ checkId, log.count checkId = min limit (countOf checkId found)

theorem keeps_nil (limit : Nat) : Keeps limit [] { limit := some limit } where
  limit_eq := rfl
  findings_eq := rfl
  count_eq checkId := by simp [count, countOf]

/-- A log takes a finding if fewer than the limit were found by its check. -/
theorem Keeps.isFull_eq {limit : Nat} {found : List Finding} {log : FindingLog}
    (h : Keeps limit found log) (checkId : String) :
    log.isFull checkId = decide (limit ≤ countOf checkId found) := by
  rw [isFull, h.limit_eq, h.count_eq]
  simp only [Nat.le_min, Nat.le_refl, true_and]

/-- **One finding more**: the log keeps it if its check has room. -/
theorem Keeps.add {limit : Nat} {found : List Finding} {log : FindingLog}
    (h : Keeps limit found log) (finding : Finding) :
    Keeps limit (found ++ [finding]) (log.add finding) := by
  have hfull := h.isFull_eq finding.checkId
  by_cases hroom : countOf finding.checkId found < limit
  · have hopen : log.isFull finding.checkId = false := by rw [hfull]; simpa using hroom
    rw [FindingLog.add, hopen]
    refine ⟨h.limit_eq, ?_, fun checkId => ?_⟩
    · simp [keepFirst_concat, hroom, h.findings_eq]
    -- the count of the check goes up by one, which is still within the limit
    · have hcount := h.count_eq finding.checkId
      have hother := h.count_eq checkId
      simp only [count] at hcount hother
      rw [countOf_concat]
      by_cases heq : finding.checkId = checkId
      · subst heq
        simp [count, hcount]
        omega
      · simp [count, Std.TreeMap.getElem?_insert, heq, hother]
  · have hclosed : log.isFull finding.checkId = true := by rw [hfull]; simpa using hroom
    rw [FindingLog.add, hclosed]
    refine ⟨h.limit_eq, ?_, fun checkId => ?_⟩
    · simp [keepFirst_concat, hroom, h.findings_eq]
    · have hother := h.count_eq checkId
      rw [countOf_concat]
      -- the log is not touched, and the count of the check stays at the limit
      by_cases heq : finding.checkId = checkId
      · subst heq
        simp only [count, if_true] at hother ⊢
        omega
      · simp only [count] at hother ⊢
        simpa [heq] using hother

/-- **Many findings**: the log keeps the first ones of each check. -/
theorem Keeps.addAll {limit : Nat} {found : List Finding} {log : FindingLog}
    (h : Keeps limit found log) (further : List Finding) :
    Keeps limit (found ++ further) (log.addAll further) := by
  induction further generalizing found log with
  | nil => simpa [FindingLog.addAll] using h
  | cons finding rest ih =>
    have hnext := ih (h.add finding)
    rwa [List.append_assoc, List.singleton_append] at hnext

theorem addAll_addAll (log : FindingLog) (first second : List Finding) :
    (log.addAll first).addAll second = log.addAll (first ++ second) := by
  simp [FindingLog.addAll]

end FindingLog

/-! ### Comments -/

/-- Whether a comment holds a directive that silences a check on a zero-based line. -/
def Comment.silences (checkId : String) (line : Nat) (comment : Comment) : Bool :=
  (Directive.ofComment? comment.text).any fun directive =>
    Silencing.lineOf comment directive == line && directive.scope.covers checkId

namespace Silencing

/-- One comment more silences what was silenced and what it silences itself. -/
theorem silences_add (silencing : Silencing) (comment : Comment) (checkId : String) (line : Nat) :
    (silencing.add comment).silences checkId line =
      (silencing.silences checkId line || comment.silences checkId line) := by
  rw [add, Comment.silences]
  cases Directive.ofComment? comment.text with
  | none => simp
  | some directive =>
    by_cases heq : lineOf comment directive = line
    · subst heq
      simp [silences]
    · simp [silences, Std.TreeMap.getElem?_insert, heq]

/-- **What is silenced**: a check is silenced on a line exactly if a comment silences it there. -/
theorem silences_ofComments (comments : List Comment) (checkId : String) (line : Nat) :
    (ofComments comments).silences checkId line = comments.any (·.silences checkId line) := by
  have hfold : ∀ silencing : Silencing, (comments.foldl add silencing).silences checkId line =
      (silencing.silences checkId line || comments.any (·.silences checkId line)) := by
    induction comments with
    | nil => simp
    | cons comment rest ih =>
      intro silencing
      rw [List.foldl_cons, ih, silences_add, List.any_cons, Bool.or_assoc]
  rw [ofComments, hfold]
  simp [silences]

end Silencing

end StreamLint
