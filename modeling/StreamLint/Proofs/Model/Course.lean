import StreamLint.Proofs.Model.Groundwork
import StreamLint.Proofs.Model.Loop
import StreamLint.Proofs.Model.Names
/-!
# The course of making a model

Once the groundwork is laid, a draft changes in six ways only (`StreamLint.Background.Move`): types
are put at the end of the table, a name is noted to refer to a symbol, a deferred type is taken up,
a type that was taken up is defined, an expression is begun, and an expression is answered. Making
the model is a *course* of such moves (`StreamLint.Background.Course`), and what is said of it as a
whole follows from what a single move does:

* a move keeps the draft sound (`StreamLint.Background.IsSound`);
* what a move has settled stays settled, so the drafts of a course fall into those before and those
  after (`StreamLint.Background.Course.exists_split`);
* where all function expressions are answered, nothing is deferred any more
  (`StreamLint.Background.Course.deferred_eq_some`).

The whole point of the conditions on moves is what they rule out: an answer that is given twice, a
type that is taken up again, a declared type that is defined anew.
-/

namespace StreamLint

/-- The type is a class, an interface or an object type with a member of that name. -/
def TypeEntry.hasOwnMember (name : String) : TypeEntry → Bool
  | .declared type => (type.members.find? (·.name == name)).isSome
  | .object members => (members.find? (·.name == name)).isSome
  | _ => false

/-- The place holds a type with a member of that name of its own. -/
def TypeTable.hasOwnMember (table : TypeTable) (shape : TypeId) (name : String) : Bool :=
  (table.get? shape).any (·.hasOwnMember name)

/-- The type is that of a function, and what it returns is to be found out from the body. -/
def Draft.Opens (draft : Draft) (body : NodeId) (type? : Option TypeId) : Prop :=
  ∃ type result, type? = some type ∧ draft.table.get? type = some (.function result) ∧
    draft.deferred[result]? = some (.body body)

/-- The type of the construct is made of that of its first part, or is the same. -/
def Construct.followsPart : Construct → Bool
  | .parenthesizedExpression .. | .assignmentExpression .. | .callExpression ..
  | .memberExpression .. => true
  | _ => false

/-- The block returns no value. -/
def SyntaxTree.ReturnsNothing (tree : SyntaxTree) (block : NodeId) : Prop :=
  tree.kind? block = some .blockStatement ∧ tree.returnedValues block = []

namespace Background

/-! ### Sound drafts -/

/-- **A sound draft**: names and references refer to settled types, what is deferred reads as
unknown and comes from a reached node, and the expressions that are being dealt with are reached,
different and unanswered. -/
structure IsSound (background : Background) (draft : Draft) : Prop where
  /-- Names and references refer to settled types. -/
  refers : background.Refers draft
  /-- What is deferred reads as unknown. -/
  unknown : ∀ (id : TypeId) (source : Deferred), draft.deferred[id]? = some source →
    draft.table.get? id = some .unknown
  /-- What is deferred comes from a reached node. -/
  source : ∀ (id : TypeId) (source : Deferred), draft.deferred[id]? = some source →
    background.tree.ReachesSource source
  /-- The expressions that are being dealt with are reached. -/
  reached : ∀ node ∈ draft.inProgress, background.tree.IsReached node
  /-- None of them is answered. -/
  unanswered : ∀ node ∈ draft.inProgress, draft.inferred[node]? = none
  /-- They are different. -/
  nodup : draft.inProgress.Nodup

theorem IsBound.isSound {background : Background} {draft : Draft} (h : background.IsBound draft) :
    background.IsSound draft where
  refers := ⟨fun _ _ => isSettled_of_typeNamed? h.closed, fun id target arguments hentry =>
    (h.closed.entries id _ hentry).2 target arguments rfl⟩
  unknown := h.closed.deferred
  source := h.ground.deferred
  reached := by simp [h.ground.inProgress]
  unanswered := by simp [h.ground.inProgress]
  nodup := by simp [h.ground.inProgress]

/-! ### Moves -/

/-- The source is the body of a function expression that is being dealt with. -/
def IsBodyInProgress (background : Background) (draft : Draft) (source : Deferred) : Prop :=
  ∃ node ∈ draft.inProgress, ∃ params returnType body,
    background.tree.construct? node = some (.functionExpression params returnType (some body)) ∧
      source = .body body

theorem after_typeOfFunction_opens (background : Background) (draft : Draft) (node body : NodeId) :
    Draft.After (background.typeOfFunction node none (some body)) draft fun type? new =>
      new.Opens body type? :=
  ⟨_, draft.table.size, rfl, TypeTable.get?_push .., Std.TreeMap.getElem?_insert_self⟩

/-- The node is an expression that may have a type. -/
def isExpression (background : Background) (node : NodeId) : Bool :=
  ((background.tree.kind? node).map (·.mayHaveType)).getD false

theorem isExpression_eq_mayHaveType {background : Background} {node : NodeId}
    {construct : Construct} (h : background.tree.construct? node = some construct) :
    background.isExpression node = construct.kind.mayHaveType := by
  simp [isExpression, SyntaxTree.kind?, h]

/-- **The answer fits the answers to the parts**: that of parentheses and of an assignment is that
of the part; a call has one if the type of what is called stands for a function; a member has one,
where that may be asked for, if the type of the object has such a member of its own. What a function
expression returns is deferred unless it is written. What is no expression has no type. -/
structure Fits (background : Background) (mayAsk : Prop) (draft : Draft) (node : NodeId)
    (type? : Option TypeId) : Prop where
  /-- Parentheses and assignments. -/
  same : ∀ part, (background.tree.construct? node = some (.parenthesizedExpression part) ∨
      ∃ left, background.tree.construct? node = some (.assignmentExpression left part)) →
    type? = (draft.inferred[part]?).getD none
  /-- A part without a type gives none. -/
  ofNone : ∀ part, ((∃ arguments, background.tree.construct? node =
        some (.callExpression part arguments)) ∨
      ∃ property, background.tree.construct? node = some (.memberExpression part property)) →
    (draft.inferred[part]?).getD none = none → type? = none
  /-- Calls. -/
  call : ∀ callee arguments type shape result,
    background.tree.construct? node = some (.callExpression callee arguments) →
    draft.inferred[callee]? = some (some type) →
    draft.settledShape? (background.maxDepth + 1) type = some shape →
    draft.table.get? shape = some (.function result) → type? = some result
  /-- Members. -/
  member : mayAsk → ∀ object property name type shape,
    background.tree.construct? node = some (.memberExpression object property) →
    background.tree.nameAt? property = some name →
    draft.inferred[object]? = some (some type) →
    draft.settledShape? (background.maxDepth + 1) type = some shape →
    draft.table.hasOwnMember shape name = true → type?.isSome = true
  /-- Function expressions. -/
  function : ∀ params body,
    background.tree.construct? node = some (.functionExpression params none (some body)) →
    draft.Opens body type?
  /-- What is no expression. -/
  ofOther : background.isExpression node = false → type? = none

namespace Fits

variable {background : Background} {mayAsk : Prop} {draft : Draft} {node : NodeId}
  {type? : Option TypeId}

/-- Nothing is asked of expressions that do not follow a part of them, except of functions. -/
theorem of_followsPart (h : ((background.tree.construct? node).any (·.followsPart)) = false)
    (hfunction : ∀ params body,
      background.tree.construct? node = some (.functionExpression params none (some body)) →
        draft.Opens body type?)
    (hother : background.isExpression node = false → type? = none) :
    background.Fits mayAsk draft node type? := by
  refine ⟨?_, ?_, ?_, ?_, hfunction, hother⟩
  · rintro part (hconstruct | ⟨left, hconstruct⟩) <;> simp [hconstruct, Construct.followsPart] at h
  · rintro part (⟨_, hconstruct⟩ | ⟨_, hconstruct⟩) <;>
      simp [hconstruct, Construct.followsPart] at h
  · intro callee arguments type shape result hconstruct
    simp [hconstruct, Construct.followsPart] at h
  · intro _ object property name type shape hconstruct
    simp [hconstruct, Construct.followsPart] at h

theorem of_same {part : NodeId}
    (hconstruct : background.tree.construct? node = some (.parenthesizedExpression part) ∨
      ∃ left, background.tree.construct? node = some (.assignmentExpression left part))
    (h : type? = (draft.inferred[part]?).getD none) : background.Fits mayAsk draft node type? := by
  refine ⟨?_, ?_, ?_, ?_, ?_, fun hnot => ?_⟩
  · intro part' hconstruct'
    obtain rfl : part' = part := by
      rcases hconstruct with hconstruct | ⟨_, hconstruct⟩ <;>
        simpa [hconstruct, eq_comm] using hconstruct'
    exact h
  · rintro part' (⟨_, hconstruct'⟩ | ⟨_, hconstruct'⟩) <;> simp [hconstruct'] at hconstruct
  · intro callee arguments type shape result hconstruct'
    simp [hconstruct'] at hconstruct
  · intro _ object property name type shape hconstruct'
    simp [hconstruct'] at hconstruct
  · intro params body hconstruct'
    simp [hconstruct'] at hconstruct
  · rcases hconstruct with hconstruct | ⟨_, hconstruct⟩ <;>
      simp [isExpression_eq_mayHaveType hconstruct, Construct.kind, SyntaxKind.mayHaveType] at hnot

theorem of_call {callee : NodeId} {arguments : List NodeId}
    (hconstruct : background.tree.construct? node = some (.callExpression callee arguments))
    (h : ((draft.inferred[callee]?).getD none = none ∧ type? = none) ∨
      ∃ type, draft.inferred[callee]? = some (some type) ∧ ∀ shape result,
        draft.settledShape? (background.maxDepth + 1) type = some shape →
          draft.table.get? shape = some (.function result) → type? = some result) :
    background.Fits mayAsk draft node type? := by
  refine ⟨?_, ?_, ?_, ?_, ?_, fun hnot => ?_⟩
  · rintro part (hconstruct' | ⟨_, hconstruct'⟩) <;> simp [hconstruct] at hconstruct'
  · rintro part (⟨_, hconstruct'⟩ | ⟨_, hconstruct'⟩) hnone
    · obtain ⟨rfl, -⟩ := Construct.callExpression.inj
        (Option.some.inj (hconstruct.symm.trans hconstruct'))
      rcases h with ⟨-, htype⟩ | ⟨type, hanswer, -⟩
      · exact htype
      · simp [hanswer] at hnone
    · simp [hconstruct] at hconstruct'
  · intro callee' arguments' type shape result hconstruct' hanswer hshape hentry
    obtain ⟨rfl, -⟩ := Construct.callExpression.inj
      (Option.some.inj (hconstruct.symm.trans hconstruct'))
    rcases h with ⟨hnone, -⟩ | ⟨type', hanswer', hresult⟩
    · simp [hanswer] at hnone
    · obtain rfl := Option.some.inj (Option.some.inj (hanswer.symm.trans hanswer'))
      exact hresult shape result hshape hentry
  · intro _ object property name type shape hconstruct'
    simp [hconstruct] at hconstruct'
  · intro params body hconstruct'
    simp [hconstruct] at hconstruct'
  · simp [isExpression_eq_mayHaveType hconstruct, Construct.kind, SyntaxKind.mayHaveType] at hnot

theorem of_member {object property : NodeId}
    (hconstruct : background.tree.construct? node = some (.memberExpression object property))
    (h : ((draft.inferred[object]?).getD none = none ∧ type? = none) ∨
      ∃ type, draft.inferred[object]? = some (some type) ∧ (mayAsk → ∀ name shape,
        background.tree.nameAt? property = some name →
          draft.settledShape? (background.maxDepth + 1) type = some shape →
            draft.table.hasOwnMember shape name = true → type?.isSome = true)) :
    background.Fits mayAsk draft node type? := by
  refine ⟨?_, ?_, ?_, ?_, ?_, fun hnot => ?_⟩
  · rintro part (hconstruct' | ⟨_, hconstruct'⟩) <;> simp [hconstruct] at hconstruct'
  · rintro part (⟨_, hconstruct'⟩ | ⟨_, hconstruct'⟩) hnone
    · simp [hconstruct] at hconstruct'
    · obtain ⟨rfl, -⟩ := Construct.memberExpression.inj
        (Option.some.inj (hconstruct.symm.trans hconstruct'))
      rcases h with ⟨-, htype⟩ | ⟨type, hanswer, -⟩
      · exact htype
      · simp [hanswer] at hnone
  · intro callee arguments type shape result hconstruct'
    simp [hconstruct] at hconstruct'
  · intro hmay object' property' name type shape hconstruct' hname hanswer hshape hown
    obtain ⟨rfl, rfl⟩ := Construct.memberExpression.inj
      (Option.some.inj (hconstruct.symm.trans hconstruct'))
    rcases h with ⟨hnone, -⟩ | ⟨type', hanswer', hmember⟩
    · simp [hanswer] at hnone
    · obtain rfl := Option.some.inj (Option.some.inj (hanswer.symm.trans hanswer'))
      exact hmember hmay name shape hname hshape hown
  · intro params body hconstruct'
    simp [hconstruct] at hconstruct'
  · simp [isExpression_eq_mayHaveType hconstruct, Construct.kind, SyntaxKind.mayHaveType] at hnot

theorem imp {mayAsk' : Prop} (h : background.Fits mayAsk draft node type?)
    (himp : mayAsk' → mayAsk) : background.Fits mayAsk' draft node type? :=
  { h with member := fun hmay => h.member (himp hmay) }

end Fits

/-- **The answer is what typing the expression has come to**, from a sound draft in which it had been
begun. -/
def ComesOfTyping (background : Background) (draft : Draft) (node : NodeId)
    (type? : Option TypeId) : Prop :=
  ∃ (begun : Draft) (fuel budget : Nat), background.IsSound begun ∧ node ∈ begun.inProgress ∧
    (background.typeOfExpression (background.infer background.resultOfCall fuel)
      (background.resultOfCall (background.infer background.resultOfCall fuel)) budget node :
        Inference Option (Option TypeId)).run begun = some (type?, draft)

/-- **One move.** -/
inductive Move (background : Background) (old : Draft) : Draft → Prop where
  /-- Types are put at the end of the table. -/
  | adds {new : Draft} (h : background.Extends (background.IsBodyInProgress old) old new) :
    Move background old new
  /-- A name is noted to refer to a symbol. -/
  | notes {node : NodeId} {symbol : SymbolId} (h : background.RefersTo old node symbol) :
    Move background old { old with nodeSymbols := old.nodeSymbols.insert node symbol }
  /-- A deferred type is taken up. -/
  | takes {id : TypeId} {source : Deferred} (h : old.deferred[id]? = some source) :
    Move background old { old with deferred := old.deferred.erase id }
  /-- A type that was taken up is defined. -/
  | defines {id : TypeId} {data : TypeEntry} (hunknown : old.table.get? id = some .unknown)
    (hsettled : old.deferred[id]? = none)
    (hdata : data = .unknown ∨ ∃ target, data = .alias "" [] target ∧ target ≠ id) :
    Move background old { old with table := old.table.define id data }
  /-- An expression is begun. -/
  | begins {node : NodeId} (hreached : background.tree.IsReached node)
    (hunanswered : old.inferred[node]? = none) (hidle : node ∉ old.inProgress) :
    Move background old { old with inProgress := node :: old.inProgress }
  /-- An expression is answered. -/
  | answers {node : NodeId} {rest : List NodeId} {type? : Option TypeId}
    (hbegun : old.inProgress = node :: rest) (hunanswered : old.inferred[node]? = none)
    (hfits : background.Fits (old.inProgress = [node] ∧ 0 < background.maxDepth) old node type?)
    (hnames : background.Names old node type?)
    (htyping : background.ComesOfTyping old node type?) :
    Move background old
      { old with
        inProgress := old.inProgress.erase node
        inferred := old.inferred.insert node type? }

namespace Move

variable {background : Background} {old new : Draft}

theorem size_le (h : background.Move old new) : old.table.size ≤ new.table.size := by
  cases h with
  | adds h => exact h.size_le
  | defines => exact Nat.le_of_eq (TypeTable.size_define ..).symm
  | _ => exact Nat.le_refl _

/-- A place that is in use stays so. -/
theorem has (h : background.Move old new) {id : Nat} (hid : old.table.Has id) : new.table.Has id :=
  hid.mono h.size_le

theorem sameNames (h : background.Move old new) : old.SameNames new := by
  cases h with
  | adds h => exact h.sameNames
  | _ => exact ⟨rfl, rfl⟩

/-- The names that are bound stay. -/
theorem scopes_eq (h : background.Move old new) : new.scopes = old.scopes := by
  cases h with
  | adds h => rw [h.rest]
  | _ => rfl

/-- The types of the symbols stay. -/
theorem symbols_eq (h : background.Move old new) : new.symbols = old.symbols := by
  cases h with
  | adds h => rw [h.rest]
  | _ => rfl

/-- What a name is noted to refer to, if it does refer to it, is not noted differently. -/
theorem nodeSymbols_eq_some (h : background.Move old new) {node : NodeId} {symbol : SymbolId}
    (hrefers : background.RefersTo old node symbol) (hnode : old.nodeSymbols[node]? = some symbol) :
    new.nodeSymbols[node]? = some symbol := by
  cases h with
  | adds h => rw [h.rest, hnode]
  | @notes other symbol' hother =>
    rw [Std.TreeMap.getElem?_insert]
    split
    next heq =>
      obtain rfl := Std.LawfulEqCmp.compare_eq_iff_eq.mp heq
      rw [hrefers.unique hother]
    next => exact hnode
  | _ => exact hnode

/-- The answer to a name goes on being right. -/
theorem names (h : background.Move old new) {node : NodeId} {type? : Option TypeId}
    (hold : background.Names old node type?) : background.Names new node type? :=
  hold.mono h.scopes_eq h.symbols_eq fun _ hrefers hnode => h.nodeSymbols_eq_some hrefers hnode

/-- An answer stays. -/
theorem inferred_eq_some (h : background.Move old new) {node : NodeId} {type? : Option TypeId}
    (hnode : old.inferred[node]? = some type?) : new.inferred[node]? = some type? := by
  cases h with
  | adds h => rw [h.inferred_eq, hnode]
  | answers hbegun hunanswered =>
    rw [Std.TreeMap.getElem?_insert, if_neg, hnode]
    intro heq
    rw [Std.LawfulEqCmp.compare_eq_iff_eq.mp heq, hnode] at hunanswered
    cases hunanswered
  | _ => exact hnode

/-- What is settled stays settled. -/
theorem isSettled (h : background.Move old new) {id : Nat} (hid : old.IsSettled id) :
    new.IsSettled id := by
  cases h with
  | adds h => exact h.isSettled hid
  | takes => exact ⟨hid.1, by rw [Std.TreeMap.getElem?_erase, hid.2, ite_self]⟩
  | defines => exact ⟨hid.1.mono (Nat.le_of_eq (TypeTable.size_define ..).symm), hid.2⟩
  | _ => exact hid

/-- A type that is known stays as it is. -/
theorem get?_eq_some (h : background.Move old new) {id : Nat} {entry : TypeEntry}
    (hentry : old.table.get? id = some entry) (hknown : entry ≠ .unknown) :
    new.table.get? id = some entry := by
  cases h with
  | adds h => exact h.get?_eq_some hentry
  | defines hunknown =>
    refine (TypeTable.get?_define_of_ne ?_).trans hentry
    rintro rfl
    exact hknown (Option.some.inj (hentry.symm.trans hunknown))
  | _ => exact hentry

theorem refers (h : background.Move old new) (hold : background.Refers old) :
    background.Refers new := by
  have hnames : new.typeNames = old.typeNames := h.sameNames.typeNames
  have hsettled : ∀ id : Nat, old.IsSettled id → new.IsSettled id := fun id => h.isSettled
  have hkept : (∀ (id target : TypeId) (arguments : List TypeId),
      new.table.get? id = some (.reference target arguments) →
        old.table.get? id = some (.reference target arguments)) → background.Refers new := by
    intro hreferences
    refine ⟨fun name id hid => hsettled id (hold.names name id ?_),
      fun id target arguments hentry => hsettled target ?_⟩
    · simpa only [typeNamed?, hnames] using hid
    · exact hold.references id target arguments (hreferences id target arguments hentry)
  cases h with
  | adds h => exact h.refers hold
  | defines _ _ hdata =>
    refine hkept fun id target arguments hentry => ?_
    -- what is defined is no reference
    refine (TypeTable.get?_define_eq_some hentry).resolve_right ?_
    rintro rfl
    rcases hdata with hdata | ⟨_, hdata, _⟩ <;> cases hdata
  | _ => exact hkept fun _ _ _ => id

/-- **A move keeps the draft sound.** -/
theorem isSound (h : background.Move old new) (hold : background.IsSound old) :
    background.IsSound new := by
  have hrefers := h.refers hold.refers
  cases h with
  | adds h =>
    have hreached : ∀ source, background.IsBodyInProgress old source →
        background.tree.ReachesSource source := by
      rintro _ ⟨node, hnode, params, returnType, body, hconstruct, rfl⟩
      exact (hold.reached node hnode).part hconstruct
        (by simp [Construct.children, Deferred.node])
    refine ⟨hrefers, fun id source hsource => ?_, fun id source hsource => ?_, ?_, ?_, ?_⟩
    · rcases h.deferred id source hsource with hsource | ⟨-, hunknown, -⟩
      · exact h.get?_eq_some (hold.unknown id source hsource)
      · exact hunknown
    · rcases h.deferred id source hsource with hsource | ⟨-, -, hbody⟩
      · exact hold.source id source hsource
      · exact hreached source hbody
    · rw [h.inProgress_eq]
      exact hold.reached
    · rw [h.inProgress_eq, h.inferred_eq]
      exact hold.unanswered
    · rw [h.inProgress_eq]
      exact hold.nodup
  | notes => exact { hold with refers := hrefers }
  | takes =>
    have hkept : ∀ {id : TypeId} {other : TypeId} {source : Deferred},
        (old.deferred.erase other)[id]? = some source → old.deferred[id]? = some source := by
      intro id other source hsource
      rw [Std.TreeMap.getElem?_erase] at hsource
      split at hsource
      · cases hsource
      · exact hsource
    exact { hold with
      refers := hrefers
      unknown := fun id source hsource => hold.unknown id source (hkept hsource)
      source := fun id source hsource => hold.source id source (hkept hsource) }
  | defines hunknown hsettled hdata =>
    refine { hold with refers := hrefers, unknown := fun id source hsource => ?_ }
    refine (TypeTable.get?_define_of_ne ?_).trans (hold.unknown id source hsource)
    rintro rfl
    exact absurd (hsettled.symm.trans hsource) (by simp)
  | begins hreached hunanswered hidle =>
    exact { hold with
      refers := hrefers
      reached := List.forall_mem_cons.mpr ⟨hreached, hold.reached⟩
      unanswered := List.forall_mem_cons.mpr ⟨hunanswered, hold.unanswered⟩
      nodup := List.nodup_cons.mpr ⟨hidle, hold.nodup⟩ }
  | @answers node rest type? hbegun hunanswered =>
    have hnodup := hold.nodup
    rw [hbegun] at hnodup
    have hfresh : node ∉ rest := (List.nodup_cons.mp hnodup).1
    have hrest : old.inProgress.erase node = rest := by rw [hbegun, List.erase_cons_head]
    have hsub : ∀ other ∈ rest, other ∈ old.inProgress := by
      intro other hother
      rw [hbegun]
      exact List.mem_cons_of_mem _ hother
    refine ⟨hrefers, hold.unknown, hold.source, ?_, ?_, ?_⟩
    · simp only [hrest]
      exact fun other hother => hold.reached other (hsub other hother)
    · simp only [hrest]
      intro other hother
      -- the answer is for the expression begun last, and the others are different from it
      rw [Std.TreeMap.getElem?_insert, if_neg, hold.unanswered other (hsub other hother)]
      intro heq
      exact hfresh (Std.LawfulEqCmp.compare_eq_iff_eq.mp heq ▸ hother)
    · simp only [hrest]
      exact (List.nodup_cons.mp hnodup).2

/-- Once known, a type that was found out is unknown or an alias of another place. -/
theorem isFound (h : background.Move old new) {id : TypeId}
    (hid : old.table.get? id = some .unknown ∨
      ∃ target, old.table.get? id = some (.alias "" [] target) ∧ target ≠ id) :
    new.table.get? id = some .unknown ∨
      ∃ target, new.table.get? id = some (.alias "" [] target) ∧ target ≠ id := by
  rcases hid with hunknown | ⟨target, hentry, hne⟩
  · cases h with
    | adds h => exact .inl (h.get?_eq_some hunknown)
    | @defines site data _ _ hdata =>
      by_cases heq : site = id
      · subst heq
        have hat : (old.table.define site data).get? site = some data :=
          Array.getElem?_setIfInBounds_self_of_lt (TypeTable.has_of_get? hunknown)
        rcases hdata with rfl | ⟨target, rfl, hne⟩
        · exact .inl hat
        · exact .inr ⟨target, hat, hne⟩
      · exact .inl ((TypeTable.get?_define_of_ne heq).trans hunknown)
    | _ => exact .inl hunknown
  · exact .inr ⟨target, h.get?_eq_some hentry (by simp), hne⟩

/-- **Where all function expressions are answered, nothing is deferred any more.** -/
theorem deferred_eq_some (h : background.Move old new) (hold : background.IsSound old)
    (hanswered : ∀ node params returnType body, background.tree.IsReached node →
      background.tree.construct? node = some (.functionExpression params returnType body) →
        old.inferred[node]? ≠ none) {id : TypeId} {source : Deferred}
    (hsource : new.deferred[id]? = some source) : old.deferred[id]? = some source := by
  cases h with
  | adds h =>
    refine (h.deferred id source hsource).resolve_right ?_
    rintro ⟨-, -, node, hnode, params, returnType, body, hconstruct, -⟩
    -- the function expression would be one that is being dealt with
    exact hanswered node params returnType _ (hold.reached node hnode) hconstruct
      (hold.unanswered node hnode)
  | takes =>
    simp only [Std.TreeMap.getElem?_erase] at hsource
    split at hsource
    · cases hsource
    · exact hsource
  | _ => exact hsource

end Move

/-! ### Courses -/

/-- **A course of moves** from a draft to another one, with the drafts before each of the moves. -/
inductive Course (background : Background) : Draft → List Draft → Draft → Prop where
  /-- No move. -/
  | nil (draft : Draft) : Course background draft [] draft
  /-- One move more, at the beginning. -/
  | cons {old middle new : Draft} {through : List Draft} (h : background.Move old middle)
    (hrest : Course background middle through new) : Course background old (old :: through) new

namespace Course

variable {background : Background} {old middle new : Draft} {through through' : List Draft}

theorem single (h : background.Move old new) : background.Course old [old] new :=
  .cons h (.nil new)

theorem trans (h : background.Course old through middle)
    (h' : background.Course middle through' new) :
    background.Course old (through ++ through') new := by
  induction h with
  | nil => exact h'
  | cons hmove _ ih => exact .cons hmove (ih h')

/-- The first draft is one of the course. -/
theorem mem_first (h : background.Course old through new) : old ∈ through ++ [new] := by
  cases h with
  | nil => exact List.mem_singleton_self old
  | cons => exact List.mem_cons_self

/-- **What every move keeps** holds of all drafts of a course, if it holds of the first one. -/
theorem forall_mem (h : background.Course old through new) {fact : Draft → Prop}
    (hmove : ∀ {a b : Draft}, background.Move a b → fact a → fact b) (hold : fact old) :
    ∀ draft ∈ through ++ [new], fact draft := by
  induction h with
  | nil => simpa using hold
  | cons hfirst _ ih => exact List.forall_mem_cons.mpr ⟨hold, ih (hmove hfirst hold)⟩

theorem keeps (h : background.Course old through new) {fact : Draft → Prop}
    (hmove : ∀ {a b : Draft}, background.Move a b → fact a → fact b) (hold : fact old) : fact new :=
  h.forall_mem hmove hold new (by simp)

/-- What holds of one of the drafts, and is kept by every move, holds of the last one. -/
theorem keeps_of_mem (h : background.Course old through new) {fact : Draft → Prop}
    (hmove : ∀ {a b : Draft}, background.Move a b → fact a → fact b) {draft : Draft}
    (hdraft : draft ∈ through ++ [new]) (hfact : fact draft) : fact new := by
  induction h with
  | nil =>
    obtain rfl := List.mem_singleton.mp hdraft
    exact hfact
  | cons hfirst hrest ih =>
    rcases List.mem_cons.mp hdraft with rfl | hdraft
    · exact (Course.cons hfirst hrest).keeps hmove hfact
    · exact ih hdraft

/-- **An expression that has come to be answered** was answered by one of the moves, with what is
its answer from then on. -/
theorem exists_typed_answer (h : background.Course old through new) {node : NodeId}
    {type? : Option TypeId} (hold : old.inferred[node]? = none)
    (hnew : new.inferred[node]? = some type?) :
    ∃ before last after, through ++ [new] = before ++ last :: after ∧
      (∀ draft ∈ before ++ [last], draft.inferred[node]? = none) ∧
        (∀ draft ∈ after, draft.inferred[node]? = some type?) ∧
          background.Fits (last.inProgress = [node] ∧ 0 < background.maxDepth) last node type? ∧
            background.ComesOfTyping last node type? := by
  induction h with
  | nil => simp [hold] at hnew
  | @cons old middle new through hmove hrest ih =>
    rcases hmiddle : middle.inferred[node]? with _ | type'?
    · obtain ⟨before, last, after, heq, hbefore, hafter, hanswer⟩ := ih hmiddle hnew
      exact ⟨old :: before, last, after, by simp [heq],
        List.forall_mem_cons.mpr ⟨hold, hbefore⟩, hafter, hanswer⟩
    · have hafter := hrest.forall_mem (fun hmove => hmove.inferred_eq_some) hmiddle
      obtain rfl := Option.some.inj ((hafter new (by simp)).symm.trans hnew)
      refine ⟨[], old, through ++ [new], rfl, by simpa using hold, hafter, ?_⟩
      -- no other move gives an answer
      cases hmove with
      | @answers other rest other? hbegun hunanswered hfits hnames htyping =>
        by_cases heq : other = node
        · subst heq
          obtain rfl : other? = type'? := by simpa using hmiddle
          exact ⟨hfits, htyping⟩
        · simp only [Std.TreeMap.getElem?_insert, Std.LawfulEqCmp.compare_eq_iff_eq, heq, if_false,
            hold] at hmiddle
          cases hmiddle
      | adds h => rw [h.inferred_eq, hold] at hmiddle; cases hmiddle
      | _ => exact absurd (hold.symm.trans hmiddle) (by simp)

theorem exists_answer (h : background.Course old through new) {node : NodeId}
    {type? : Option TypeId} (hold : old.inferred[node]? = none)
    (hnew : new.inferred[node]? = some type?) :
    ∃ before last after, through ++ [new] = before ++ last :: after ∧
      (∀ draft ∈ before ++ [last], draft.inferred[node]? = none) ∧
        (∀ draft ∈ after, draft.inferred[node]? = some type?) ∧
          background.Fits (last.inProgress = [node] ∧ 0 < background.maxDepth) last node type? := by
  obtain ⟨before, last, after, heq, hbefore, hafter, hfits, -⟩ := h.exists_typed_answer hold hnew
  exact ⟨before, last, after, heq, hbefore, hafter, hfits⟩

theorem isSound (h : background.Course old through new) (hold : background.IsSound old) :
    background.IsSound new :=
  h.keeps (fun hmove => hmove.isSound) hold

theorem sameNames (h : background.Course old through new) : old.SameNames new :=
  h.keeps (fun hmove hnames => hnames.trans hmove.sameNames) (.refl old)

theorem names (h : background.Course old through new) {node : NodeId} {type? : Option TypeId}
    (hold : background.Names old node type?) : background.Names new node type? :=
  h.keeps (fun hmove => hmove.names) hold

theorem inferred_eq_some (h : background.Course old through new) {node : NodeId}
    {type? : Option TypeId} (hnode : old.inferred[node]? = some type?) :
    new.inferred[node]? = some type? :=
  h.keeps (fun hmove => hmove.inferred_eq_some) hnode

/-- **Before and after**: the drafts of a course fall into those for which a fact does not hold yet
and those for which it holds, if every move keeps it. -/
theorem exists_split (h : background.Course old through new) (fact : Draft → Prop)
    (hmove : ∀ {a b : Draft}, background.Move a b → fact a → fact b) :
    ∃ before after, through ++ [new] = before ++ after ∧ (∀ draft ∈ before, ¬fact draft) ∧
      ∀ draft ∈ after, fact draft := by
  induction h with
  | nil draft =>
    by_cases hfact : fact draft
    · exact ⟨[], [draft], rfl, by simp, by simpa using hfact⟩
    · exact ⟨[draft], [], rfl, by simpa using hfact, by simp⟩
  | @cons old middle new through hfirst hrest ih =>
    by_cases hfact : fact old
    · exact ⟨[], old :: through ++ [new], rfl, by simp,
        (Course.cons hfirst hrest).forall_mem hmove hfact⟩
    · obtain ⟨before, after, heq, hbefore, hafter⟩ := ih
      refine ⟨old :: before, after, by simp [heq], ?_, hafter⟩
      exact List.forall_mem_cons.mpr ⟨hfact, hbefore⟩

/-- **Before, during and after**: before the first of two facts holds, while the second one does not
hold yet, and after that. -/
theorem exists_split_two (h : background.Course old through new) (first second : Draft → Prop)
    (hfirst : ∀ {a b : Draft}, background.Move a b → first a → first b)
    (hsecond : ∀ {a b : Draft}, background.Move a b → second a → second b) :
    ∃ before during after, through ++ [new] = before ++ (during ++ after) ∧
      (∀ draft ∈ before, ¬first draft) ∧ (∀ draft ∈ during, first draft ∧ ¬second draft) ∧
        ∀ draft ∈ after, second draft := by
  -- once the first fact holds it goes on holding, and only the second one divides the drafts
  have hheld : ∀ {old through}, background.Course old through new → first old →
      ∃ before during after, through ++ [new] = before ++ (during ++ after) ∧
        (∀ draft ∈ before, ¬first draft) ∧ (∀ draft ∈ during, first draft ∧ ¬second draft) ∧
          ∀ draft ∈ after, second draft := by
    intro old through h hold
    obtain ⟨during, after, heq, hduring, hafter⟩ := h.exists_split second hsecond
    refine ⟨[], during, after, heq, by simp, fun draft hdraft => ⟨?_, hduring draft hdraft⟩, hafter⟩
    exact h.forall_mem hfirst hold draft (heq ▸ List.mem_append_left _ hdraft)
  induction h with
  | nil draft =>
    by_cases hfact : first draft
    · exact hheld (.nil draft) hfact
    · exact ⟨[draft], [], [], rfl, by simpa using hfact, by simp, by simp⟩
  | @cons old middle new through hmove hrest ih =>
    by_cases hfact : first old
    · exact hheld (.cons hmove hrest) hfact
    · obtain ⟨before, during, after, heq, hbefore, hduring, hafter⟩ := ih hheld
      refine ⟨old :: before, during, after, by simp [heq], ?_, hduring, hafter⟩
      exact List.forall_mem_cons.mpr ⟨hfact, hbefore⟩

/-- **Where all function expressions are answered, nothing is deferred any more.** -/
theorem deferred_eq_some (h : background.Course old through new) (hold : background.IsSound old)
    (hanswered : ∀ node params returnType body, background.tree.IsReached node →
      background.tree.construct? node = some (.functionExpression params returnType body) →
        old.inferred[node]? ≠ none) {id : TypeId} {source : Deferred}
    (hsource : new.deferred[id]? = some source) : old.deferred[id]? = some source := by
  induction h with
  | nil => exact hsource
  | cons hmove hrest ih =>
    refine hmove.deferred_eq_some hold hanswered (ih (hmove.isSound hold) ?_ hsource)
    intro node params returnType body hreached hconstruct
    obtain ⟨answer, hanswer⟩ := Option.ne_none_iff_exists'.mp
      (hanswered node params returnType body hreached hconstruct)
    simp [hmove.inferred_eq_some hanswer]

end Course

/-! ### Passages

What a computation does to a draft that it has found: the expressions that were being dealt with are
left alone, and settled types are left as they are. -/

/-- **What a block without values returns** is still to be found out, or it has become nothing. -/
def FindsVoid (background : Background) (old new : Draft) : Prop :=
  ∀ (id : TypeId) (block : NodeId), background.tree.ReturnsNothing block → id ≠ .void →
    old.table.Has id → old.deferred[id]? = some (.body block) → new.table.Has id ∧
      (new.deferred[id]? = some (.body block) ∨ new.table.get? id = some (.alias "" [] .void))

theorem FindsVoid.refl {background : Background} (draft : Draft) :
    background.FindsVoid draft draft :=
  fun _ _ _ _ hhas hsource => ⟨hhas, .inl hsource⟩

theorem FindsVoid.trans {background : Background} {old middle new : Draft} {through : List Draft}
    (h : background.FindsVoid old middle) (h' : background.FindsVoid middle new)
    (hcourse : background.Course middle through new) : background.FindsVoid old new := by
  intro id block hblock hne hhas hsource
  obtain ⟨hmiddle, hsource | hvoid⟩ := h id block hblock hne hhas hsource
  · exact h' id block hblock hne hmiddle hsource
  · refine ⟨hcourse.keeps (fun hmove => hmove.has) hmiddle, .inr ?_⟩
    exact hcourse.keeps (fun hmove hat => hmove.get?_eq_some hat (by simp)) hvoid

/-- One move more, at the beginning and at the end. -/
theorem FindsVoid.forall_mem_between {background : Background} {old middle new : Draft}
    {through : List Draft} (h : ∀ draft ∈ through ++ [middle], background.FindsVoid draft middle)
    (hmove : background.Move middle new) (hmiddle : background.FindsVoid middle new)
    (hold : background.FindsVoid old new) :
    ∀ draft ∈ (old :: (through ++ [middle])) ++ [new], background.FindsVoid draft new := by
  rw [List.cons_append]
  refine List.forall_mem_cons.mpr ⟨hold, List.forall_mem_append.mpr ⟨fun draft hdraft => ?_, ?_⟩⟩
  · exact (h draft hdraft).trans hmiddle (.single hmove)
  · exact List.forall_mem_singleton.mpr (.refl new)

/-- **A course that leaves what it finds alone**: the expressions that were being dealt with still
are, with no answer, and what was settled is as it was. -/
structure Passes (background : Background) (old : Draft) (through : List Draft) (new : Draft) :
    Prop where
  /-- The moves. -/
  course : background.Course old through new
  /-- The same expressions are being dealt with. -/
  inProgress_eq : new.inProgress = old.inProgress
  /-- Settled types are as they were. -/
  get?_eq : ∀ id : Nat, old.IsSettled id → new.table.get? id = old.table.get? id
  /-- What a block without values returns comes to nothing. -/
  void : ∀ draft ∈ through ++ [new], background.FindsVoid draft new

namespace Passes

variable {background : Background} {old middle new : Draft} {through through' : List Draft}

theorem refl (draft : Draft) : background.Passes draft [] draft :=
  ⟨.nil draft, rfl, fun _ _ => rfl, List.forall_mem_singleton.mpr (.refl draft)⟩

theorem isSettled (h : background.Passes old through new) {id : Nat} (hid : old.IsSettled id) :
    new.IsSettled id :=
  h.course.keeps (fun hmove => hmove.isSettled) hid

theorem has (h : background.Passes old through new) {id : Nat} (hid : old.table.Has id) :
    new.table.Has id :=
  h.course.keeps (fun hmove => hmove.has) hid

theorem trans (h : background.Passes old through middle)
    (h' : background.Passes middle through' new) :
    background.Passes old (through ++ through') new where
  course := h.course.trans h'.course
  inProgress_eq := h'.inProgress_eq.trans h.inProgress_eq
  get?_eq id hid := (h'.get?_eq id (h.isSettled hid)).trans (h.get?_eq id hid)
  void draft hdraft := by
    rw [List.append_assoc] at hdraft
    rcases List.mem_append.mp hdraft with hdraft | hdraft
    · exact (h.void draft (List.mem_append_left _ hdraft)).trans
        (h'.void middle h'.course.mem_first) h'.course
    · exact h'.void draft hdraft

/-- Putting types at the end of the table. -/
theorem adds (h : background.Extends (background.IsBodyInProgress old) old new) :
    background.Passes old [old] new where
  course := .single (.adds h)
  inProgress_eq := h.inProgress_eq
  get?_eq id hid := h.get?_eq id hid.1
  void := List.forall_mem_cons.mpr ⟨fun id _ _ _ hhas hsource =>
    ⟨h.has hhas, .inl ((h.deferred_eq id hhas).trans hsource)⟩,
    List.forall_mem_singleton.mpr (.refl new)⟩

theorem notes {draft : Draft} {node : NodeId} {symbol : SymbolId}
    (h : background.RefersTo draft node symbol) :
    background.Passes draft [draft]
      { draft with nodeSymbols := draft.nodeSymbols.insert node symbol } :=
  ⟨.single (.notes h), rfl, fun _ _ => rfl, List.forall_mem_cons.mpr
    ⟨fun _ _ _ _ hhas hsource => ⟨hhas, .inl hsource⟩, List.forall_mem_singleton.mpr (.refl _)⟩⟩

/-- **Taking up a deferred type**, passing on, and defining the type in the end. -/
theorem settles {id : TypeId} {source : Deferred} {data : TypeEntry} (hold : background.IsSound old)
    (hsource : old.deferred[id]? = some source)
    (h : background.Passes { old with deferred := old.deferred.erase id } through new)
    (hdata : data = .unknown ∨ ∃ target, data = .alias "" [] target ∧ target ≠ id)
    (hvoid : ∀ block, background.tree.ReturnsNothing block → id ≠ .void → source = .body block →
      data = .alias "" [] .void) :
    background.Passes old (old :: through ++ [new]) ((Draft.define id data).run new).2 := by
  have htakes : background.Move old { old with deferred := old.deferred.erase id } := .takes hsource
  have hunknown := hold.unknown id source hsource
  have hid : ({ old with deferred := old.deferred.erase id } : Draft).IsSettled id :=
    ⟨TypeTable.has_of_get? hunknown, by simp⟩
  have hdefines : background.Move new ((Draft.define id data).run new).2 :=
    .defines ((h.get?_eq id hid).trans hunknown) (h.isSettled hid).2 hdata
  have hsettled := h.isSettled hid
  refine ⟨.trans (.cons htakes h.course) (.single hdefines), h.inProgress_eq,
    fun other hother => ?_, ?_⟩
  · -- what was settled before was not deferred, so it is not what is defined
    have hne : id ≠ other := by
      rintro rfl
      exact absurd (hother.2.symm.trans hsource) (by simp)
    exact (TypeTable.get?_define_of_ne hne).trans (h.get?_eq other (htakes.isSettled hother))
  have hlast : background.FindsVoid new ((Draft.define id data).run new).2 := by
    intro other block _ _ hhas hother
    refine ⟨hhas.mono (Nat.le_of_eq (TypeTable.size_define ..).symm), .inl hother⟩
  refine FindsVoid.forall_mem_between h.void hdefines hlast fun other block hblock hne hhas hother => ?_
  by_cases heq : id = other
  · subst heq
    obtain rfl := hvoid block hblock hne (Option.some.inj (hsource.symm.trans hother))
    exact ⟨hsettled.1.mono (Nat.le_of_eq (TypeTable.size_define ..).symm),
      .inr (Array.getElem?_setIfInBounds_self_of_lt hsettled.1)⟩
  · have hkept : ({ old with deferred := old.deferred.erase id } : Draft).deferred[other]? =
        some (.body block) := by
      simpa [Std.TreeMap.getElem?_erase, heq] using hother
    exact (h.void _ h.course.mem_first).trans hlast (.single hdefines) other block hblock hne hhas
      hkept

/-- **Beginning an expression**, passing on, and answering it in the end. -/
theorem answers {node : NodeId} {type? : Option TypeId} (hold : background.IsSound old)
    (hreached : background.tree.IsReached node) (hunanswered : old.inferred[node]? = none)
    (hidle : node ∉ old.inProgress)
    (h : background.Passes { old with inProgress := node :: old.inProgress } through new)
    (hfits : background.Fits (new.inProgress = [node] ∧ 0 < background.maxDepth) new node type?)
    (hnames : background.Names new node type?)
    (htyping : background.ComesOfTyping new node type?) :
    background.Passes old (old :: through ++ [new])
      { new with
        inProgress := new.inProgress.erase node
        inferred := new.inferred.insert node type? } := by
  have hbegins : background.Move old { old with inProgress := node :: old.inProgress } :=
    .begins hreached hunanswered hidle
  have hbegun : new.inProgress = node :: old.inProgress := h.inProgress_eq
  have hsound := h.course.isSound (hbegins.isSound hold)
  have hanswers := Move.answers hbegun (hsound.unanswered node (hbegun ▸ List.mem_cons_self)) hfits
    hnames htyping
  refine ⟨.trans (.cons hbegins h.course) (.single hanswers), ?_, fun id hid => h.get?_eq id hid,
    FindsVoid.forall_mem_between h.void hanswers (fun _ _ _ _ hhas hsource => ⟨hhas, .inl hsource⟩)
      fun id block => h.void _ h.course.mem_first id block⟩
  simp only [hbegun, List.erase_cons_head]

theorem isSound (h : background.Passes old through new) (hold : background.IsSound old) :
    background.IsSound new :=
  h.course.isSound hold

/-- What stands for another type is in use. -/
theorem has_of_standsFor? {table : TypeTable} {type next : TypeId}
    (h : table.standsFor? type = some next) : table.Has type := by
  unfold TypeTable.standsFor? at h
  split at h
  next hentry => exact TypeTable.has_of_get? hentry
  next hentry => exact TypeTable.has_of_get? hentry
  next hentry => exact TypeTable.has_of_get? hentry
  next => cases h

theorem get?_eq_some (h : background.Passes old through new) {id : TypeId} {entry : TypeEntry}
    (hentry : old.table.get? id = some entry) (hknown : entry ≠ .unknown) :
    new.table.get? id = some entry := by
  have hmove : ∀ {a b : Draft}, background.Move a b → a.table.get? id = some entry →
      b.table.get? id = some entry := fun hmove hid => hmove.get?_eq_some hid hknown
  exact h.course.keeps hmove hentry

theorem standsFor?_eq (h : background.Passes old through new) (hold : background.IsSound old)
    {type : TypeId} (htype : old.IsSettled type) :
    new.table.standsFor? type = old.table.standsFor? type := by
  -- the target of a reference is settled, so that the reference stays one to an alias or not
  have htarget : ∀ target arguments, old.table.get? type = some (.reference target arguments) →
      new.table.get? target = old.table.get? target :=
    fun target arguments hentry =>
      h.get?_eq target (hold.refers.references type target arguments hentry)
  simp only [TypeTable.standsFor?, h.get?_eq type htype]
  split
  · rfl
  · rfl
  next target arguments hentry => rw [htarget target arguments hentry]
  · rfl

/-- **What a type stands for in the end**, if that is in use, it stands for after passing on. -/
theorem settledShape?_eq_some (h : background.Passes old through new)
    (hold : background.IsSound old) {steps : Nat} {type shape : TypeId}
    (hshape : old.settledShape? steps type = some shape) (hhas : old.table.Has shape) :
    new.settledShape? steps type = some shape := by
  induction steps generalizing type with
  | zero => exact hshape
  | succ steps ih =>
    unfold Draft.settledShape? at hshape ⊢
    split at hshape
    next => cases hshape
    next hdeferred =>
      -- the type is in use: it stands for another one, or it is the shape
      have htype : old.IsSettled type := by
        refine ⟨?_, hdeferred⟩
        split at hshape
        next hnext => exact has_of_standsFor? hnext
        next => exact Option.some.inj hshape ▸ hhas
      rw [(h.isSettled htype).2, h.standsFor?_eq hold htype]
      dsimp only
      split at hshape
      next next hnext =>
        split at hshape
        next heq =>
          rw [if_pos heq]
          exact hshape
        next hne =>
          rw [if_neg hne]
          exact ih hshape
      next => exact hshape

/-- The shape of a type, once known, stays its shape and stays as it is. -/
theorem shape_eq (h : background.Passes old through new) (hold : background.IsSound old)
    {steps : Nat} {type shape shape' : TypeId} {entry : TypeEntry}
    (hshape : old.settledShape? steps type = some shape)
    (hentry : old.table.get? shape = some entry) (hknown : entry ≠ .unknown)
    (hshape' : new.settledShape? steps type = some shape') :
    shape' = shape ∧ new.table.get? shape' = some entry := by
  have hkept := h.settledShape?_eq_some hold hshape (TypeTable.has_of_get? hentry)
  obtain rfl := Option.some.inj (hshape'.symm.trans hkept)
  exact ⟨rfl, h.get?_eq_some hentry hknown⟩

end Passes

end Background

end StreamLint
