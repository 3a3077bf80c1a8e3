import StreamLint.Linter.Silencing
import StreamLint.Proofs.Text.Splitting
/-!
# Directives and their spellings

A directive can be written in many ways: in a comment of either style, with any separators between
the identifiers, with a justification or without one (`StreamLint.Directive.Spelling`). Reading the
comment gives the directive back, whichever way has been chosen. Delimiters, white space and the
justification are taken off one after the other, and an identifier may end in what these are made
of, as in `/* rxlint-disable-line a- b**/`; what keeps them apart is that no identifier holds two
hyphens, and that white space stands before those of the justification.

Conversely nothing else is taken for a directive: what the comment states
(`StreamLint.Directive.HasStatement`) is a keyword with nothing or white space after it. So
`rxlint-disable-lines` is none.
-/

namespace StreamLint

namespace Directive

/-! ### Statements -/

/-- **The text between the delimiters of a comment.** A block comment need not be closed, and a text
that is no comment is taken as it is. -/
inductive Encloses (comment body : List Char) : Prop where
  /-- A line comment. -/
  | line (h : comment = '/' :: '/' :: body)
  /-- A block comment. -/
  | block (h : comment = '/' :: '*' :: (body ++ ['*', '/']))
  /-- A block comment without an end. -/
  | openBlock (h : comment = '/' :: '*' :: body) (hopen : ¬ ['*', '/'] <:+ body)
  /-- No comment. -/
  | bare (h : comment = body) (hline : ¬ ['/', '/'] <+: body) (hblock : ¬ ['/', '*'] <+: body)

/-- **What a comment states**: its text between the delimiters, up to two hyphens, in each step
without the white space around it. -/
def HasStatement (comment statement : List Char) : Prop :=
  ∃ trimmed enclosed body front, Trims comment trimmed ∧ Encloses trimmed enclosed ∧
    Trims enclosed body ∧ EndsAt ['-', '-'] body front ∧ Trims front statement

theorem withoutEnd_append (text stop : List Char) : withoutEnd stop (text ++ stop) = text := by
  have hstop : afterStart? stop.reverse (text ++ stop).reverse = some text.reverse :=
    afterStart?_eq_some_iff.mpr (List.reverse_append ..)
  rw [withoutEnd, hstop]
  exact List.reverse_reverse text

theorem withoutEnd_of_not_suffix {text stop : List Char} (h : ¬ stop <:+ text) :
    withoutEnd stop text = text := by
  have hstop : afterStart? stop.reverse text.reverse = none :=
    afterStart?_eq_none_iff.mpr fun hbegins => h (List.reverse_prefix.mp hbegins)
  simp [withoutEnd, hstop]

/-- Every text has delimiters of some kind. -/
theorem exists_encloses (comment : List Char) : ∃ body, Encloses comment body := by
  by_cases hline : ['/', '/'] <+: comment
  · obtain ⟨body, rfl⟩ := hline
    exact ⟨body, .line rfl⟩
  by_cases hblock : ['/', '*'] <+: comment
  · obtain ⟨rest, rfl⟩ := hblock
    by_cases hend : ['*', '/'] <:+ rest
    · obtain ⟨body, rfl⟩ := hend
      exact ⟨body, .block rfl⟩
    · exact ⟨rest, .openBlock rfl hend⟩
  · exact ⟨comment, .bare rfl hline hblock⟩

/-- The body of a comment is what its delimiters enclose. -/
theorem bodyOf_of_encloses {comment enclosed : List Char}
    (h : Encloses (trimBlank comment) enclosed) : bodyOf comment = trimBlank enclosed := by
  unfold bodyOf
  cases h with
  | line h => rw [h]; rfl
  | block h =>
    rw [h]
    exact congrArg trimBlank (withoutEnd_append enclosed ['*', '/'])
  | openBlock h hopen =>
    rw [h]
    exact congrArg trimBlank (withoutEnd_of_not_suffix hopen)
  | bare h hline hblock =>
    simp only [h, afterStart?_eq_none_iff.mpr hline, afterStart?_eq_none_iff.mpr hblock]

/-- **Every comment has one statement.** -/
theorem hasStatement_iff {comment statement : List Char} :
    HasStatement comment statement ↔ statementOf comment = statement := by
  constructor
  · rintro ⟨trimmed, enclosed, body, front, htrimmed, hencloses, hbody, hfront, hstatement⟩
    obtain rfl := trimBlank_eq_iff.mpr htrimmed
    rw [statementOf, bodyOf_of_encloses hencloses, trimBlank_eq_iff.mpr hbody,
      (untilMark_eq_iff (by simp)).mpr hfront, trimBlank_eq_iff.mpr hstatement]
  · rintro rfl
    obtain ⟨enclosed, hencloses⟩ := exists_encloses (trimBlank comment)
    have hbody := bodyOf_of_encloses hencloses
    exact ⟨_, enclosed, _, _, trims_trimBlank comment, hencloses, hbody ▸ trims_trimBlank enclosed,
      endsAt_untilMark (by simp) _, trims_trimBlank _⟩

/-! ### Keywords -/

/-- The keyword of a directive. -/
def keyword (nextLine : Bool) : List Char :=
  if nextLine then nextLineKeyword else sameLineKeyword

/-- A keyword tells its directive; neither keyword begins the other one. -/
theorem afterKeyword?_eq_some_iff {statement rest : List Char} {nextLine : Bool} :
    afterKeyword? statement = some (nextLine, rest) ↔ statement = keyword nextLine ++ rest := by
  constructor
  · intro h
    unfold afterKeyword? at h
    split at h
    next after hafter =>
      obtain ⟨rfl, rfl⟩ := Prod.mk.inj (Option.some.inj h)
      exact afterStart?_eq_some_iff.mp hafter
    next =>
      obtain ⟨after, hafter, heq⟩ := Option.map_eq_some_iff.mp h
      obtain ⟨rfl, rfl⟩ := Prod.mk.inj heq
      exact afterStart?_eq_some_iff.mp hafter
  · rintro rfl
    cases nextLine <;> rfl

/-- What is silenced by a directive that names these checks. -/
def scopeOf (ids : List String) : SilencedChecks :=
  if ids.isEmpty then .all else .checks ids

/-- **When a comment holds a directive, and which one.** -/
theorem ofComment?_eq_some_iff {comment : String} {directive : Directive} :
    ofComment? comment = some directive ↔
      ∃ rest, HasStatement comment.toList (keyword directive.nextLine ++ rest) ∧
        (∀ c ∈ rest.head?, isBlank c = true) ∧ directive.scope = scopeOf (idsOf rest) := by
  have hblank : ∀ rest : List Char, ((rest.head?).map isBlank).getD true = true ↔
      ∀ c ∈ rest.head?, isBlank c = true := by
    intro rest
    cases rest <;> simp
  constructor
  · intro h
    unfold ofComment? at h
    split at h
    · cases h
    next nextLine rest hafter =>
      split at h
      next hhead =>
        obtain rfl := Option.some.inj h
        exact ⟨rest, hasStatement_iff.mpr (afterKeyword?_eq_some_iff.mp hafter),
          (hblank rest).mp hhead, rfl⟩
      · cases h
  · rintro ⟨rest, hstatement, hhead, hscope⟩
    rw [ofComment?, afterKeyword?_eq_some_iff.mpr (hasStatement_iff.mp hstatement)]
    simp only [(hblank rest).mpr hhead, if_true]
    exact congrArg some (congrArg (Directive.mk directive.nextLine) hscope.symm)

/-! ### Spellings -/

/-- How a comment is set apart from the program. -/
inductive CommentStyle where
  /-- Up to the end of the line. -/
  | line
  /-- Up to the closing delimiter. -/
  | block
  deriving DecidableEq, Repr

/-- The comment with a text in it. -/
def CommentStyle.around : CommentStyle → List Char → List Char
  | line, text => '/' :: '/' :: text
  | block, text => '/' :: '*' :: (text ++ ['*', '/'])

/-- **An identifier that can be named in a directive.** -/
structure IsIdentifier (id : String) : Prop where
  /-- It is not empty. -/
  ne_empty : id ≠ ""
  /-- There is no white space in it. -/
  not_blank : ∀ c ∈ id.toList, isBlank c = false
  /-- There is no comma in it. -/
  not_comma : ',' ∉ id.toList
  /-- There are no two hyphens in it. -/
  not_mark : ¬ ['-', '-'] <:+: id.toList

/-- **The text names these checks**, each after one or more commas, spaces and tabs. -/
inductive Names : List String → List Char → Prop where
  /-- No checks. -/
  | nil : Names [] []
  /-- A check, and then others. -/
  | cons {gap : List Char} {id : String} {ids : List String} {rest : List Char} (hgap : gap ≠ [])
    (hseparates : ∀ c ∈ gap, c = ',' ∨ c = ' ' ∨ c = '\t') (hid : IsIdentifier id)
    (hrest : Names ids rest) : Names (id :: ids) (gap ++ id.toList ++ rest)

/-- **A directive as it is written down.** -/
structure Spelling where
  /-- The style of the comment. -/
  style : CommentStyle
  /-- Whether the directive is about the next line. -/
  nextLine : Bool
  /-- The checks that it names. -/
  ids : List String
  /-- The text that names them. -/
  listing : List Char
  /-- What is said after two hyphens, if anything is. -/
  reason : Option (List Char)
  /-- The white space before the keyword. -/
  lead : List Char
  /-- The white space at the end. -/
  trail : List Char
  /-- The listing names the checks. -/
  names : Names ids listing
  /-- The keyword and the first check are kept apart by white space. -/
  spaced : ∀ c ∈ listing.head?, isBlank c = true
  /-- There is only white space before the keyword. -/
  lead_blank : ∀ c ∈ lead, isBlank c = true
  /-- There is only white space at the end. -/
  trail_blank : ∀ c ∈ trail, isBlank c = true

/-- A justification with what introduces it. -/
def justification : Option (List Char) → List Char
  | some reason => ' ' :: '-' :: '-' :: ' ' :: reason
  | none => []

namespace Spelling

/-- The comment in which a directive is written down. -/
def comment (spelling : Spelling) : String :=
  String.ofList <| spelling.style.around <| spelling.lead ++
    (keyword spelling.nextLine ++ spelling.listing) ++ justification spelling.reason ++
    spelling.trail

/-- The directive that is written down. -/
def directive (spelling : Spelling) : Directive :=
  ⟨spelling.nextLine, scopeOf spelling.ids⟩

end Spelling

/-! ### Listings -/

@[simp] theorem idsOf_nil : idsOf [] = [] := by
  rfl

theorem idsOf_append_cons {c : Char} (h : separates c = true) (l rest : List Char) :
    idsOf (l ++ c :: rest) = idsOf l ++ idsOf rest := by
  simp only [idsOf, splitWhen_append_cons h, List.map_append, List.filter_append]

theorem idsOf_append_of_separates {gap : List Char} (h : ∀ c ∈ gap, separates c = true)
    (rest : List Char) : idsOf (gap ++ rest) = idsOf rest := by
  induction gap with
  | nil => rfl
  | cons c gap ih =>
    obtain ⟨hc, hgap⟩ := List.forall_mem_cons.mp h
    rw [List.cons_append, ← List.nil_append (c :: _), idsOf_append_cons hc, idsOf_nil, ih hgap]
    rfl

theorem IsIdentifier.separates_eq_false {id : String} (h : IsIdentifier id) {c : Char}
    (hc : c ∈ id.toList) : separates c = false := by
  have hblank := h.not_blank c hc
  simp only [separates, Bool.or_eq_false_iff, beq_eq_false_iff_ne]
  refine ⟨⟨?_, ?_⟩, ?_⟩ <;> rintro rfl
  · exact h.not_comma hc
  · exact absurd hblank (by decide)
  · exact absurd hblank (by decide)

theorem IsIdentifier.idsOf_eq {id : String} (h : IsIdentifier id) : idsOf id.toList = [id] := by
  have htrim : trimBlank id.toList = id.toList := by
    refine trimBlank_eq_iff.mpr ⟨⟨[], [], by simp, by simp, by simp⟩, fun c hc => ?_, fun c hc => ?_⟩
    · exact h.not_blank c (List.mem_of_mem_head? hc)
    · exact h.not_blank c (List.mem_of_getLast? hc)
  have hne : id.toList ≠ [] := fun hnil => h.ne_empty (String.toList_eq_nil_iff.mp hnil)
  rw [idsOf, splitWhen_of_forall_not fun c hc => h.separates_eq_false hc]
  simp [htrim, h.ne_empty]

theorem separates_of_mem {gap : List Char} (h : ∀ c ∈ gap, c = ',' ∨ c = ' ' ∨ c = '\t') :
    ∀ c ∈ gap, separates c = true := by
  intro c hc
  rcases h c hc with rfl | rfl | rfl <;> rfl

/-- A listing that goes on does so with a separator. -/
theorem Names.separates_head {ids : List String} {listing : List Char} (h : Names ids listing) :
    ∀ c ∈ listing.head?, separates c = true := by
  cases h with
  | nil => simp
  | cons hgap hseparates =>
    obtain ⟨a, gap, rfl⟩ := List.exists_cons_of_ne_nil hgap
    simpa using separates_of_mem hseparates a List.mem_cons_self

/-- **The checks that a listing names** are read back. -/
theorem Names.idsOf_eq {ids : List String} {listing : List Char} (h : Names ids listing) :
    idsOf listing = ids := by
  induction h with
  | nil => rfl
  | @cons gap id ids rest hgap hseparates hid hrest ih =>
    rw [List.append_assoc, idsOf_append_of_separates (separates_of_mem hseparates)]
    -- an identifier ends where the next separator stands
    cases rest with
    | nil => rw [List.append_nil, hid.idsOf_eq, ← ih, idsOf_nil]
    | cons c rest =>
      have hc : separates c = true := hrest.separates_head c rfl
      have hskip := idsOf_append_cons hc [] rest
      rw [List.nil_append, idsOf_nil, List.nil_append, ih] at hskip
      rw [idsOf_append_cons hc, hid.idsOf_eq, ← hskip, List.singleton_append]

/-- The last character of a listing is no white space. -/
theorem Names.last_not_blank {ids : List String} {listing : List Char} (h : Names ids listing) :
    ∀ c ∈ listing.getLast?, isBlank c = false := by
  induction h with
  | nil => simp
  | @cons gap id ids rest hgap hseparates hid hrest ih =>
    intro c hc
    rw [List.getLast?_append, Option.mem_def, Option.or_eq_some_iff] at hc
    rcases hc with hc | ⟨-, hc⟩
    · exact ih c hc
    · have hne : id.toList ≠ [] := fun hnil => hid.ne_empty (String.toList_eq_nil_iff.mp hnil)
      rw [List.getLast?_append_of_ne_nil _ hne] at hc
      exact hid.not_blank c (List.mem_of_getLast? hc)

/-! ### Justifications -/

/-- There are no two hyphens in a row. -/
def HasNoMark (text : List Char) : Prop :=
  text.IsChain fun c d => ¬ (c = '-' ∧ d = '-')

theorem hasNoMark_iff {text : List Char} : HasNoMark text ↔ ¬ ['-', '-'] <:+: text := by
  rw [HasNoMark, List.isChain_iff_forall_rel_of_append_cons_cons]
  constructor
  · rintro h ⟨before, after, rfl⟩
    exact h (List.append_assoc before _ after) ⟨rfl, rfl⟩
  · rintro h c d before after rfl ⟨rfl, rfl⟩
    exact h ⟨before, after, by simp⟩

theorem hasNoMark_of_notMem {text : List Char} (h : '-' ∉ text) : HasNoMark text := by
  refine hasNoMark_iff.mpr fun hoccurs => h (hoccurs.subset List.mem_cons_self)

/-- Two texts make no mark where they meet if the second one does not begin with a hyphen. -/
theorem HasNoMark.append {first second : List Char} (hfirst : HasNoMark first)
    (hsecond : HasNoMark second) (hhead : '-' ∉ second.head?) : HasNoMark (first ++ second) :=
  List.IsChain.append hfirst hsecond fun _ _ _ hd ⟨_, hmark⟩ => hhead (hmark ▸ hd)

theorem notMem_of_separates {gap : List Char} (h : ∀ c ∈ gap, separates c = true) :
    '-' ∉ gap :=
  fun hmem => absurd (h '-' hmem) (by decide)

/-- There are no two hyphens in a row in a listing. -/
theorem Names.hasNoMark {ids : List String} {listing : List Char} (h : Names ids listing) :
    HasNoMark listing := by
  induction h with
  | nil => exact List.IsChain.nil
  | @cons gap id ids rest hgap hseparates hid hrest ih =>
    have hhyphen := notMem_of_separates (separates_of_mem hseparates)
    have hmeet : '-' ∉ rest.head? := fun hmem =>
      absurd (hrest.separates_head '-' hmem) (by decide)
    refine HasNoMark.append ?_ ih hmeet
    refine List.IsChain.append (hasNoMark_of_notMem hhyphen) (hasNoMark_iff.mpr hid.not_mark) ?_
    exact fun c hc d _ ⟨hmark, _⟩ => hhyphen (hmark ▸ List.mem_of_getLast? hc)

/-! ### Reading what is written -/

theorem head?_keyword (nextLine : Bool) : (keyword nextLine).head? = some 'r' := by
  cases nextLine <;> rfl

theorem getLast?_keyword (nextLine : Bool) : (keyword nextLine).getLast? = some 'e' := by
  cases nextLine <;> rfl

theorem hasNoMark_keyword (nextLine : Bool) : HasNoMark (keyword nextLine) := by
  rw [HasNoMark]
  cases nextLine <;> decide

/-- White space at the end of a text can be told from the rest. -/
theorem exists_append_blank (text : List Char) :
    ∃ front after, text = front ++ after ∧ (∀ c ∈ after, isBlank c = true) ∧
      ∀ c ∈ front.getLast?, isBlank c = false := by
  refine ⟨text.rdropWhile isBlank, text.rtakeWhile isBlank,
    (List.rdropWhile_append_rtakeWhile ..).symm, fun c => List.mem_rtakeWhile_imp, fun c hc => ?_⟩
  obtain ⟨front, hfront⟩ := List.getLast?_eq_some_iff.mp hc
  have hne : text.rdropWhile isBlank ≠ [] := by simp [hfront]
  simpa [hfront] using List.rdropWhile_last_not isBlank text hne

/-- A text without white space around it is what a comment encloses, in either style and with any
white space around the text. -/
theorem CommentStyle.exists_encloses_around (style : CommentStyle) {lead body after : List Char}
    (hlead : ∀ c ∈ lead, isBlank c = true) (hafter : ∀ c ∈ after, isBlank c = true)
    (hne : body ≠ []) (hhead : ∀ c ∈ body.head?, isBlank c = false)
    (hlast : ∀ c ∈ body.getLast?, isBlank c = false) :
    ∃ trimmed enclosed, Trims (style.around (lead ++ body ++ after)) trimmed ∧
      Encloses trimmed enclosed ∧ Trims enclosed body := by
  have hslash : ∀ text : List Char, ∀ c ∈ ('/' :: text).head?, isBlank c = false := by
    rintro text _ ⟨⟩
    rfl
  cases style with
  | line =>
    refine ⟨'/' :: '/' :: (lead ++ body), lead ++ body, ⟨⟨[], after, rfl, by simp, hafter⟩, hslash _,
      fun c hc => hlast c ?_⟩, .line rfl, ⟨⟨lead, [], by simp, hlead, by simp⟩, hhead, hlast⟩⟩
    rwa [← List.cons_append, ← List.cons_append, List.getLast?_append_of_ne_nil _ hne] at hc
  | block =>
    refine ⟨_, lead ++ body ++ after, ⟨⟨[], [], (List.append_nil _).symm, by simp, by simp⟩, hslash _,
      fun c hc => ?_⟩, .block rfl, ⟨⟨lead, after, rfl, hlead, hafter⟩, hhead, hlast⟩⟩
    rw [← List.cons_append, ← List.cons_append, List.getLast?_append_of_ne_nil _ (by simp)] at hc
    obtain rfl := Option.some.inj hc
    rfl

/-- **What a comment states** that has a text without marks in it, and perhaps a justification. -/
theorem hasStatement_around (style : CommentStyle) {lead said trail : List Char}
    (reason : Option (List Char)) (hlead : ∀ c ∈ lead, isBlank c = true)
    (htrail : ∀ c ∈ trail, isBlank c = true) (hne : said ≠ [])
    (hhead : ∀ c ∈ said.head?, isBlank c = false) (hlast : ∀ c ∈ said.getLast?, isBlank c = false)
    (hmark : HasNoMark said) :
    HasStatement (style.around (lead ++ said ++ justification reason ++ trail)) said := by
  cases reason with
  | none =>
    obtain ⟨trimmed, enclosed, htrimmed, hencloses, hbody⟩ :=
      style.exists_encloses_around hlead htrail hne hhead hlast
    refine ⟨trimmed, enclosed, said, said, ?_, hencloses, hbody,
      .whole rfl (hasNoMark_iff.mp hmark), ⟨⟨[], [], by simp, by simp, by simp⟩, hhead, hlast⟩⟩
    rwa [justification, List.append_nil]
  | some reason =>
    -- the white space at the end belongs to the justification or follows it
    obtain ⟨front, after, hfront, hafter, hfrontLast⟩ := exists_append_blank (' ' :: reason ++ trail)
    have hbodyHead : ∀ c ∈ (said ++ [' '] ++ ['-', '-'] ++ front).head?, isBlank c = false := by
      intro c hc
      obtain ⟨a, rest, rfl⟩ := List.exists_cons_of_ne_nil hne
      exact hhead c hc
    have hbodyLast : ∀ c ∈ (said ++ [' '] ++ ['-', '-'] ++ front).getLast?, isBlank c = false := by
      intro c hc
      rw [List.getLast?_append, Option.mem_def, Option.or_eq_some_iff] at hc
      rcases hc with hc | ⟨-, hc⟩
      · exact hfrontLast c hc
      · rw [List.getLast?_append_of_ne_nil _ (by simp)] at hc
        obtain rfl := Option.some.inj hc
        rfl
    obtain ⟨trimmed, enclosed, htrimmed, hencloses, hbody⟩ :=
      style.exists_encloses_around hlead hafter (by simp) hbodyHead hbodyLast
    have htext : lead ++ said ++ justification (some reason) ++ trail =
        lead ++ (said ++ [' '] ++ ['-', '-'] ++ front) ++ after := by
      have hrest : ' ' :: (reason ++ trail) = front ++ after := hfront
      simp [justification, hrest]
    have hfirst : HasNoMark (said ++ [' '] ++ ['-']) := by
      rw [List.append_assoc]
      exact hmark.append (by rw [HasNoMark]; decide) (by decide)
    refine ⟨trimmed, enclosed, _, said ++ [' '], htext ▸ htrimmed, hencloses, hbody,
      .cut front rfl (hasNoMark_iff.mp hfirst),
      ⟨⟨[], [' '], by simp, by simp, by simp; rfl⟩, hhead, hlast⟩⟩

namespace Spelling

variable (spelling : Spelling)

theorem head_said : ∀ c ∈ (keyword spelling.nextLine ++ spelling.listing).head?,
    isBlank c = false := by
  rw [List.head?_append, head?_keyword]
  rintro _ ⟨⟩
  rfl

theorem last_said : ∀ c ∈ (keyword spelling.nextLine ++ spelling.listing).getLast?,
    isBlank c = false := by
  intro c hc
  rw [List.getLast?_append, Option.mem_def, Option.or_eq_some_iff] at hc
  rcases hc with hc | ⟨-, hc⟩
  · exact spelling.names.last_not_blank c hc
  · rw [getLast?_keyword] at hc
    obtain rfl := Option.some.inj hc
    rfl

/-- **What a spelling states** is the keyword with the listing. -/
theorem hasStatement_comment : HasStatement spelling.comment.toList
    (keyword spelling.nextLine ++ spelling.listing) := by
  have hne : keyword spelling.nextLine ≠ [] := by
    intro hnil
    simpa [hnil] using head?_keyword spelling.nextLine
  rw [comment, String.toList_ofList]
  refine hasStatement_around spelling.style spelling.reason spelling.lead_blank
    spelling.trail_blank (by simp [hne]) spelling.head_said spelling.last_said ?_
  exact (hasNoMark_keyword _).append spelling.names.hasNoMark fun hmem =>
    absurd (spelling.names.separates_head '-' hmem) (by decide)

end Spelling

/-- **Reading undoes writing, and takes nothing else for a directive.** -/
theorem ofComment?_spelled :
    (∀ spelling : Spelling, ofComment? spelling.comment = some spelling.directive) ∧
      ∀ comment nextLine, (∃ scope, ofComment? comment = some ⟨nextLine, scope⟩) ↔
        ∃ rest, HasStatement comment.toList (keyword nextLine ++ rest) ∧
          ∀ c ∈ rest.head?, isBlank c = true := by
  constructor
  · intro spelling
    refine ofComment?_eq_some_iff.mpr ⟨spelling.listing, spelling.hasStatement_comment,
      spelling.spaced, ?_⟩
    rw [spelling.names.idsOf_eq, Spelling.directive]
  · intro comment nextLine
    simp only [ofComment?_eq_some_iff]
    constructor
    · rintro ⟨scope, rest, hstatement, hrest, -⟩
      exact ⟨rest, hstatement, hrest⟩
    · rintro ⟨rest, hstatement, hrest⟩
      exact ⟨_, rest, hstatement, hrest, rfl⟩

/-- A hyphen or an asterisk at the end of an identifier belongs to it. -/
theorem isIdentifier_a_hyphen : IsIdentifier "a-" where
  ne_empty := by decide
  not_blank := List.forall_mem_cons.mpr ⟨by decide, List.forall_mem_singleton.mpr (by decide)⟩
  not_comma := by decide
  not_mark := by decide

theorem isIdentifier_b_asterisk : IsIdentifier "b*" where
  ne_empty := by decide
  not_blank := List.forall_mem_cons.mpr ⟨by decide, List.forall_mem_singleton.mpr (by decide)⟩
  not_comma := by decide
  not_mark := by decide

/-- A directive that names two checks in a block comment, without a blank before the end. -/
def twoNames : Spelling where
  style := .block
  nextLine := false
  ids := ["a-", "b*"]
  listing := [' '] ++ "a-".toList ++ ([' ', ',', '\t'] ++ "b*".toList ++ [])
  reason := none
  lead := [' ']
  trail := []
  names := .cons (by simp) (by simp) isIdentifier_a_hyphen
    (.cons (by simp) (by simp) isIdentifier_b_asterisk .nil)
  spaced := by simp [isBlank]
  lead_blank := by simp [isBlank]
  trail_blank := by simp

/-- Its identifiers end in what a justification and the end of the comment are made of, and are read
as they are. -/
theorem ofComment?_spelled_twoNames :
    twoNames.comment = "/* rxlint-disable-line a- ,\tb**/" ∧
      ofComment? twoNames.comment = some ⟨false, .checks ["a-", "b*"]⟩ ∧
      ∃ rest, HasStatement twoNames.comment.toList (keyword false ++ rest) ∧
        ∀ c ∈ rest.head?, isBlank c = true := by
  have hread : ofComment? twoNames.comment = some twoNames.directive := ofComment?_spelled.1 twoNames
  have hstated := (ofComment?_spelled.2 twoNames.comment false).mp ⟨_, hread⟩
  exact ⟨by decide, hread, hstated⟩

example : ofComment? "// rxlint-disable-lines a" = none := by
  decide

end Directive

end StreamLint
