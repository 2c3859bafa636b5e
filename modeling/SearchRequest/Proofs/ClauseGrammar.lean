/-
The grammar of query fragments, kind by kind, and that whatever is rendered keeps to
it. A fragment has one key, the kind of the clause, and under it a body of the shape
that the kind has; a bool query has an array for each of its roles, and the items of
the arrays are fragments again.

The grammar is given without the renderer. It says of a range that its field is not
blank, that the bounds stand in their fixed order, and that null stands for nothing
but a double that a document cannot hold. A range is made for such a field only, and no
call on a slot assigns another one to it. Where that was done otherwise, nothing has
checked the field.
-/

import SearchRequest.Proofs.Fault
import SearchRequest.Proofs.LeafLedger

namespace SearchRequest

/-- What may stand under the key of a bound; null only if the bound has no written form. -/
def Json.IsBound (unwritable : Prop) (value : Json) : Prop :=
  (∃ number, value = .number number) ∨ (∃ text, value = .string text) ∨
    (value = .null ∧ unwritable)

/--
The bodies of each kind of leaf. The proposition holds if the field of a range is unchecked, and
the predicate names the bounds without a written form.
-/
inductive LeafKind.Describes (unchecked : Prop) (unwritable : String → Prop) :
    LeafKind → Json → Prop
  | matchAll : Describes unchecked unwritable .matchAll (.object [])
  | matchNone : Describes unchecked unwritable .matchNone (.object [])
  | term (field : String) (value : Json) :
      Describes unchecked unwritable .term (.single field (.single "value" value))
  | terms (field : String) (values : List Json) :
      Describes unchecked unwritable .terms (.single field (.array values))
  | range {field : String} {bounds : Entries Json} :
      Text.isBlank field = false ∨ unchecked → bounds ≠ [] →
        (Entries.keys bounds).Sublist ["gt", "gte", "lt", "lte"] →
          (∀ bound ∈ bounds, bound.2.IsBound (unwritable bound.1)) →
            Describes unchecked unwritable .range (.single field (.object bounds))
  | regexp (field pattern : String) :
      Describes unchecked unwritable .regexp
        (.single field (.single "value" (.string pattern)))
  | wildcard (field pattern : String) :
      Describes unchecked unwritable .wildcard
        (.single field (.single "value" (.string pattern)))
  | «exists» (field : String) :
      Describes unchecked unwritable .exists (.single "field" (.string field))
  | matchPhrase (field phrase : String) :
      Describes unchecked unwritable .matchPhrase (.single field (.string phrase))
  | queryString (query : String) :
      Describes unchecked unwritable .queryString (.object [("query", .string query)])
  | queryStringIn (query : String) (fields : List Json) :
      Describes unchecked unwritable .queryString
        (.object [("query", .string query), ("fields", .array fields)])

/-- The leaf is a range, and under this key it is bounded by a double that is not finite. -/
def Leaf.HasInfiniteBound (content : Leaf) (key : String) : Prop :=
  ∃ clause comparison value, content = .range clause ∧ comparison.key = key ∧
    clause.bounds.get? comparison = some (.double value) ∧ value.isFinite = false

/-- The leaf is as its constructor returned it. Only that of a range checks anything. -/
inductive Leaf.Constructed : Leaf → Prop
  | range {field : String} {bounds : RangeBounds} {clause : RangeClause} :
      RangeClause.build field bounds = .ok clause → Constructed (.range clause)
  | other {content : Leaf} : content.kind ≠ .range → Constructed content

/-- Its constructor would not return the leaf: the field was assigned later. -/
def Leaf.Reassigned (content : Leaf) : Prop :=
  ¬ content.Constructed

def Clause.Constructed (clause : Clause) : Prop :=
  ∀ content ∈ clause.leaves, content.Constructed

def Query.Constructed (query : Query) : Prop :=
  ∀ content ∈ query.leaves, content.Constructed

/-- The leaves that the call hands over are as their constructors returned them. -/
def BoolOperation.OperandsConstructed : BoolOperation → Prop
  | .openRole _ => True
  | .push clause | .merge clause => clause.Constructed
  | .union other => (Clause.bool other).Constructed

def QueryOperation.OperandsConstructed : QueryOperation → Prop
  | .push clause => clause.Constructed
  | .pushRange _ _ | .negate => True
  | .editBool calls | .withBool _ calls _ => ∀ call ∈ calls, call.OperandsConstructed
  | .merge other | .mergeInto other => other.Constructed

/--
The document is a fragment of the clause's kind; inside a bool query, at every depth. Of the
leaves that the predicate names the fields are unchecked.
-/
inductive Clause.Conforms (unchecked : Leaf → Prop) : Clause → Json → Prop
  | leaf {content : Leaf} {body : Json} :
      content.kind.Describes (unchecked content) content.HasInfiniteBound body →
        Conforms unchecked (.leaf content) (.single content.kind.key body)
  | bool {table : BoolQuery} {shown : Clause → Json} :
      table.groups ≠ [] → table.roles.Nodup → (∀ group ∈ table.groups, group.2 ≠ []) →
        (∀ group ∈ table.groups, ∀ clause ∈ group.2,
          Conforms unchecked clause (shown clause)) →
          Conforms unchecked (.bool table) (.single "bool" (.object
            (table.groups.map fun group => (group.1.key, .array (group.2.map shown)))))

theorem Clause.Conforms.single {unchecked : Leaf → Prop} {clause : Clause} {document : Json}
    (conforms : clause.Conforms unchecked document) :
    ∃ body, document = .single clause.key body := by
  cases conforms with
  | leaf _ => exact ⟨_, rfl⟩
  | bool _ _ _ _ => exact ⟨_, rfl⟩

theorem RangeValue.isBound_toJson (value : RangeValue) :
    value.toJson.IsBound (∃ double, value = .double double ∧ double.isFinite = false) := by
  cases value with
  | long number => exact Or.inl ⟨_, rfl⟩
  | text content => exact Or.inr (Or.inl ⟨content, rfl⟩)
  | double number =>
      cases finite : number.isFinite with
      | true => exact Or.inl ⟨_, Json.ofBinary64_finite finite⟩
      | false =>
          refine Or.inr (Or.inr ⟨?_, number, rfl, finite⟩)
          change Json.ofBinary64 number = .null
          unfold Json.ofBinary64 Json.Number.ofBinary64?
          rw [dif_neg (ne_true_of_eq_false finite)]

/-- What a range was made for is not blank, and a blank field is all that can be amiss later. -/
theorem Leaf.constructed_range_iff (clause : RangeClause) :
    (Leaf.range clause).Constructed ↔ Text.isBlank clause.field = false := by
  constructor
  · intro constructed
    cases constructed with
    | range built =>
        obtain ⟨notBlank, sameField, _⟩ := RangeClause.build_eq_ok_iff.mp built
        rw [sameField]
        exact notBlank
    | other otherKind => exact absurd rfl otherKind
  · intro notBlank
    exact .range (RangeClause.build_eq_ok_iff.mpr ⟨notBlank, rfl, rfl⟩)

section

variable {unchecked : Leaf → Prop}

theorem RangeClause.describes_body {clause : RangeClause}
    (checked : (Leaf.range clause).Constructed ∨ unchecked (.range clause)) :
    LeafKind.Describes (unchecked (.range clause)) (Leaf.range clause).HasInfiniteBound .range
      clause.body := by
  apply LeafKind.Describes.range
  · exact checked.imp_left (Leaf.constructed_range_iff clause).mp
  · exact RangeBounds.entries_ne_nil clause.boundsNotEmpty
  · exact Entries.keys_optional_sublist Comparison.key _ Comparison.all
  · intro bound member
    obtain ⟨comparison, value, isBound, same⟩ := (clause.bounds.mem_entries_iff bound).mp member
    subst same
    rcases value.isBound_toJson with number | text | ⟨null, double, isDouble, infinite⟩
    · exact Or.inl number
    · exact Or.inr (Or.inl text)
    · subst isDouble
      exact Or.inr (Or.inr ⟨null, clause, comparison, double, rfl, rfl, isBound, infinite⟩)

theorem Leaf.describes_body {content : Leaf} (checked : content.Constructed ∨ unchecked content) :
    content.kind.Describes (unchecked content) content.HasInfiniteBound content.body := by
  cases content with
  | matchAll => exact .matchAll
  | matchNone => exact .matchNone
  | term field value => exact .term field value
  | terms field values => exact .terms field values
  | range clause => exact RangeClause.describes_body checked
  | regexp field pattern => exact .regexp field pattern
  | wildcard field pattern => exact .wildcard field pattern
  | «exists» field => exact .exists field
  | matchPhrase field phrase => exact .matchPhrase field phrase
  | queryString query fields =>
      cases fields with
      | none => exact .queryString query
      | some fields => exact .queryStringIn query (fields.map .string)

/-! ### Clauses -/

namespace Clause

/-- The fragment of a clause that is known to have one. -/
def shown (clause : Clause) : Json :=
  clause.toJson.toOption.getD .null

theorem shown_of_toJson {clause : Clause} {fragment : Json}
    (rendered : clause.toJson = .ok fragment) : clause.shown = fragment := by
  rw [shown, rendered]
  rfl

theorem body_eq_map_shown {table : BoolQuery} {fragments : RoleTable Json}
    (same : table.map toJson = fragments.map Except.ok) :
    fragments.body =
      table.groups.map fun group => (group.1.key, .array (group.2.map shown)) := by
  have sameGroups : (table.groups.map fun group => (group.1, group.2.map toJson)) =
      fragments.groups.map fun group => (group.1, group.2.map Except.ok) :=
    congrArg RoleTable.groups same
  have values := congrArg (List.map fun group : Role × List (Except RequestError Json) =>
    (group.1.key, Json.array (group.2.map fun outcome => outcome.toOption.getD .null))) sameGroups
  simp only [List.map_map, Function.comp_def, Except.toOption, Option.getD_some,
    List.map_id'] at values
  exact values.symm

theorem conforms_of_toJson {clause : Clause} {document : Json} (wellFormed : clause.WellFormed)
    (checked : ∀ content ∈ clause.leaves, content.Constructed ∨ unchecked content)
    (rendered : clause.toJson = .ok document) : clause.Conforms unchecked document := by
  induction clause generalizing document with
  | leaf content =>
      cases rendered
      exact .leaf (Leaf.describes_body (checked content List.mem_cons_self))
  | bool table ih =>
      obtain ⟨⟨distinct, _⟩, inside⟩ := (wellFormed_bool_iff table).mp wellFormed
      obtain ⟨fragments, same, isDocument⟩ := fragments_of_toJson distinct rendered
      have clean := (toJson_reports (.bool table)).ok_iff.mp ⟨document, rendered⟩
      obtain ⟨⟨listed, filled⟩, _⟩ := (faults_bool_nil_iff table).mp clean
      have itemsRendered := rendered_of_map_toJson same
      rw [isDocument, body_eq_map_shown same]
      refine .bool listed distinct filled ?_
      intro group groupMember clause clauseMember
      obtain ⟨fragment, isFragment⟩ := itemsRendered group groupMember clause clauseMember
      rw [shown_of_toJson isFragment]
      have checkedInside : ∀ content ∈ clause.leaves, content.Constructed ∨ unchecked content := by
        intro content member
        apply checked content
        rw [leaves_bool]
        exact List.mem_flatMap.mpr
          ⟨group, groupMember, List.mem_flatMap.mpr ⟨clause, clauseMember, member⟩⟩
      exact ih group groupMember clause clauseMember
        (inside group groupMember clause clauseMember) checkedInside isFragment

/-- Whatever fields were assigned to its ranges, what is rendered conforms but for those. -/
theorem conforms_but_reassigned {clause : Clause} {document : Json}
    (wellFormed : clause.WellFormed) (rendered : clause.toJson = .ok document) :
    clause.Conforms Leaf.Reassigned document :=
  conforms_of_toJson wellFormed (fun content _ => Classical.em content.Constructed) rendered

end Clause

end

/-! ### Runs -/

theorem mem_of_mem_handedOver {α : Type} {outcome : Except RequestError α} {leaves : List Leaf}
    {content : Leaf} (member : content ∈ handedOver (outcome.map fun _ => leaves)) :
    content ∈ leaves := by
  cases outcome with
  | error refused => cases member
  | ok accepted => exact member

theorem BoolOperation.constructed_apply {table : BoolQuery}
    (constructed : (Clause.bool table).Constructed) {operation : BoolOperation}
    (operands : operation.OperandsConstructed) :
    (Clause.bool (operation.apply table).2).Constructed := by
  intro content member
  rcases List.mem_append.mp ((leaves_apply_perm table operation).mem_iff.mp member) with old | new
  · exact constructed content old
  · cases operation with
    | openRole role => cases new
    | push clause => exact operands content (mem_of_mem_handedOver new)
    | merge clause => exact operands content new
    | union other => exact operands content new

theorem BoolRun.constructed_execute {table : BoolQuery}
    (constructed : (Clause.bool table).Constructed) {run : List BoolOperation}
    (operands : ∀ operation ∈ run, operation.OperandsConstructed) :
    (Clause.bool (execute table run)).Constructed := by
  apply List.foldlRecOn (motive := fun reached => (Clause.bool reached).Constructed) run _
    constructed
  intro reached reachedConstructed operation member
  exact BoolOperation.constructed_apply reachedConstructed (operands operation member)

namespace Query

theorem constructed_boolean_iff (table : BoolQuery) :
    (Query.boolean table).Constructed ↔ (Clause.bool table).Constructed := by
  rw [Constructed, leaves_boolean, Clause.Constructed]

theorem Constructed.push {query : Query} (constructed : query.Constructed) {clause : Clause}
    (new : clause.Constructed) : ((QueryOperation.push clause).apply query).2.Constructed := by
  intro content member
  rcases List.mem_append.mp ((query.leaves_push_perm clause).mem_iff.mp member) with old | pushed
  · exact constructed content old
  · exact new content (mem_of_mem_handedOver pushed)

theorem Constructed.editBool {query : Query} (constructed : query.Constructed)
    {calls : List BoolOperation} (operands : ∀ call ∈ calls, call.OperandsConstructed) :
    ((QueryOperation.editBool calls).apply query).2.Constructed := by
  cases query with
  | empty =>
      have nothing : (Clause.bool .empty).Constructed := List.forall_mem_nil _
      exact (constructed_boolean_iff _).mpr (BoolRun.constructed_execute nothing operands)
  | single content => exact constructed
  | boolean table =>
      have present := (constructed_boolean_iff table).mp constructed
      exact (constructed_boolean_iff _).mpr (BoolRun.constructed_execute present operands)

/-- The two constants, which take each other's place, have nothing that is checked. -/
theorem Constructed.negate {query : Query} (constructed : query.Constructed) :
    query.negate.Constructed := by
  intro content member
  cases constant : content.isConstant with
  | true =>
      apply Leaf.Constructed.other
      cases content <;> first | decide | cases constant
  | false =>
      have lasting : content ∈ Leaf.lasting query.negate.leaves :=
        List.mem_filter.mpr ⟨member, by rw [constant]; rfl⟩
      rw [query.lasting_negate] at lasting
      exact constructed content (List.mem_filter.mp lasting).1

theorem Constructed.merge {left right : Query} (leftConstructed : left.Constructed)
    (rightConstructed : right.Constructed) : (left.merge right).Constructed := by
  intro content member
  rw [left.leaves_merge right] at member
  rcases List.mem_append.mp member with first | second
  · exact leftConstructed content first
  · exact rightConstructed content second

end Query

theorem QueryOperation.constructed_apply {query : Query} (constructed : query.Constructed)
    {operation : QueryOperation} (operands : operation.OperandsConstructed) :
    (operation.apply query).2.Constructed := by
  cases operation with
  | push clause => exact constructed.push operands
  | pushRange field bounds =>
      rw [apply, Query.pushRange_eq]
      cases built : RangeClause.build field bounds with
      | error refused => exact constructed
      | ok range => exact constructed.push (List.forall_mem_singleton.mpr (.range built))
  | editBool calls => exact constructed.editBool operands
  | withBool role calls result =>
      rw [apply_withBool]
      exact constructed.editBool (List.forall_mem_cons.mpr ⟨trivial, operands⟩)
  | negate => exact constructed.negate
  | merge other => exact constructed.merge operands
  | mergeInto other => exact operands.merge constructed

theorem QueryRun.constructed_execute {query : Query} (constructed : query.Constructed)
    {run : List QueryOperation} (operands : ∀ operation ∈ run, operation.OperandsConstructed) :
    (execute query run).Constructed := by
  apply List.foldlRecOn run _ constructed
  intro reached reachedConstructed operation member
  exact QueryOperation.constructed_apply reachedConstructed (operands operation member)

namespace Query

/-- Of leaves as they were constructed, the grammar is kept in full. -/
theorem conforms_of_toJson {query : Query} (built : query.Built) (constructed : query.Constructed)
    {document : Json} (rendered : query.toJson = .ok document) :
    query.clause.Conforms (fun _ => False) document := by
  apply Clause.conforms_of_toJson built.wellFormed _ rendered
  intro content member
  cases query with
  | empty =>
      cases List.mem_singleton.mp member
      exact Or.inl (.other (by decide))
  | single _ | boolean _ =>
      rw [← leaves_eq_clause_leaves (by nofun)] at member
      exact Or.inl (constructed content member)

/-- A bound that is infinite, in a range under two bool queries. -/
def openReadings : RangeClause :=
  { field := " reading"
    bounds := { gt := some (.long 3), lte := some (.double (.infinity false)) }
    boundsNotEmpty := by decide }

def sensorQuery : BoolQuery :=
  (RoleTable.ofRole .filter [.leaf (.exists "sensor")]).union
    (.ofRole .should
      [.negate (.leaf (.range openReadings)), .leaf (.queryString "ok" (some ["state"]))])

theorem built_sensorQuery : RoleTable.Built sensorQuery := by
  apply RoleTable.Built.union
  · exact .ofRole .filter (List.forall_mem_singleton.mpr (.leaf _))
  · apply RoleTable.Built.ofRole
    intro clause member
    rcases List.mem_cons.mp member with negated | text
    · exact negated ▸ .negate (.leaf _)
    · exact List.mem_singleton.mp text ▸ .leaf _

/-- A blank field that was assigned to a range is shown like any other. -/
example :
    (Query.single (.range { openReadings with field := " " })).toJson =
      .ok (.single "range" (.single " " (.object [("gt", .ofInt64 3), ("lte", .null)]))) :=
  rfl

end Query

end SearchRequest
