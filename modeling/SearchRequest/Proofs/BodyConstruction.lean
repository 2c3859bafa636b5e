/-
The aggregations and bodies that the operations can build, and the bool queries
that stand in them: in the query of a body, or in a filter at any depth of its
aggregations. Every filter holds a query that was built by the operations on
queries, so nothing new has to be shown about bool queries here.

An edit inside a tree may be anything that turns built parts into built parts. The
names, the parameters and the scripts of aggregations are left open.
-/

import SearchRequest.Proofs.AggregationLookup
import SearchRequest.Proofs.Construction

namespace SearchRequest

def Bucket.Built (content : Bucket) : Prop :=
  ∀ query, content = .filter query → query.Built

mutual

inductive Aggregation.Built : Aggregation → Prop
  | metric (name : String) (content : Metric) : Aggregation.Built (.metric name content)
  | bucket (name : String) {content : Bucket} :
      content.Built → Aggregation.Built (.bucket name content none)
  /-- An option of the bucket is set, or the query of a filter is edited. -/
  | configure {name : String} {content changed : Bucket} {children : Option (List Aggregation)} :
      Aggregation.Built (.bucket name content children) → changed.Built →
        Aggregation.Built (.bucket name changed children)
  | nest {name : String} {content : Bucket} {children : Option (List Aggregation)}
      {nested : List Aggregation} :
      Aggregation.Built (.bucket name content children) → Aggregations.Built nested →
        Aggregation.Built (.bucket name content (some nested))

inductive Aggregations.Built : List Aggregation → Prop
  | empty : Aggregations.Built []
  | push {items : Aggregations} {item : Aggregation} :
      Aggregations.Built items → Aggregation.Built item → Aggregations.Built (items.push item)
  | merge {items others : Aggregations} :
      Aggregations.Built items → Aggregations.Built others →
        Aggregations.Built (items.merge others)
  | replace {before after : List Aggregation} {item changed : Aggregation} :
      Aggregations.Built (before ++ item :: after) → Aggregation.Built changed →
        Aggregations.Built (before ++ changed :: after)

end

inductive Body.Built : Body → Prop
  | empty : Body.Built .empty
  | ofSettings (settings : Settings) : Body.Built (.ofSettings settings)
  /-- The window, the source filter, collapsing or sorting is set. -/
  | configure {body changed : Body} :
      body.Built → changed.query = body.query → changed.aggregations = body.aggregations →
        changed.Built
  | editQuery {β : Type} {block : Query → Except RequestError β × Query} {body : Body} :
      (∀ query, query.Built → (block query).2.Built) → body.Built →
        Body.Built { body with query := (block body.query).2 }
  | editAggregations {ε β : Type} {edit : Aggregations → Except ε β × Aggregations}
      {body : Body} :
      (∀ items, Aggregations.Built items → Aggregations.Built (edit items).2) → body.Built →
        Body.Built { body with aggregations := (edit body.aggregations).2 }
  | merge {body other : Body} : body.Built → other.Built → (body.merge other).Built

theorem Aggregation.Built.children {aggregation : Aggregation} :
    aggregation.Built → Aggregations.Built (aggregation.children?.getD [])
  | .metric _ _ => .empty
  | .bucket _ _ => .empty
  | .configure built _ => built.children
  | .nest _ nested => nested

theorem Aggregation.Built.editChildren {ε β : Type} {refuse : RequestError → ε}
    {edit : Aggregations → Except ε β × Aggregations}
    (keeps : ∀ items, Aggregations.Built items → Aggregations.Built (edit items).2)
    {aggregation : Aggregation} (built : aggregation.Built) :
    (aggregation.editChildren refuse edit).2.Built := by
  cases aggregation with
  | metric name content => exact built
  | bucket name content children => exact .nest built (keeps _ built.children)

namespace Aggregations

theorem Built.item {items : Aggregations} :
    Built items → ∀ item ∈ items, Aggregation.Built item
  | .empty => fun _ impossible => nomatch impossible
  | .push built new => by
      intro item member
      rcases List.mem_append.mp member with old | last
      · exact built.item item old
      · exact List.mem_singleton.mp last ▸ new
  | .merge built others => by
      intro item member
      rcases List.mem_append.mp member with left | right
      · exact built.item item left
      · exact others.item item right
  | .replace built changed => by
      intro item member
      rcases List.mem_append.mp member with left | right
      · exact built.item item (List.mem_append_left _ left)
      · rcases List.mem_cons.mp right with here | later
        · exact here ▸ changed
        · exact built.item item (List.mem_append_right _ (List.mem_cons_of_mem _ later))

theorem Built.editNamed {β : Type} {name : String}
    {edit : Aggregation → Except PathError β × Aggregation}
    (keeps : ∀ item, Aggregation.Built item → (edit item).2.Built) {items : Aggregations}
    (built : Built items) : Built (Aggregations.editNamed name edit items).2 := by
  unfold Aggregations.editNamed
  cases edited : editLast? name edit items with
  | none => exact built
  | some outcome =>
      obtain ⟨result, changed⟩ := outcome
      obtain ⟨before, item, after, cut, _, isChanged⟩ := editLast?_eq_some_iff.mp edited
      have whole := cut.whole
      subst whole
      subst isChanged
      have member : item ∈ before ++ item :: after :=
        List.mem_append_right before List.mem_cons_self
      exact .replace built (keeps item (built.item item member))

/-- An edit keeps what is around it, however deep the path goes. -/
theorem Built.editAt {β : Type} {edit : Aggregations → Except PathError β × Aggregations}
    (keeps : ∀ items, Built items → Built (edit items).2) (path : List String)
    {items : Aggregations} (built : Built items) :
    Built (Aggregations.editAt edit path items).2 := by
  induction path generalizing items with
  | nil => exact keeps items built
  | cons name path ih =>
      apply built.editNamed
      intro item itemBuilt
      exact itemBuilt.editChildren fun nested nestedBuilt => ih nestedBuilt

end Aggregations

def Aggregation.ContentBuilt : Aggregation → Prop
  | .metric _ _ => True
  | .bucket _ content _ => content.Built

theorem Aggregation.Built.content {aggregation : Aggregation} :
    aggregation.Built → aggregation.ContentBuilt
  | .metric _ _ => True.intro
  | .bucket _ content => content
  | .configure _ changed => changed
  | .nest built _ => built.content

theorem Aggregation.Built.filter {aggregation : Aggregation} (built : aggregation.Built)
    {query : Query} (found : aggregation.HasFilter query) : query.Built := by
  induction aggregation with
  | metric name content => cases found
  | bucket name content children ih =>
      rcases (hasFilter_bucket_iff query name content children).mp found with
        own | ⟨item, member, nested⟩
      · exact built.content query own
      · have itemBuilt := built.children.item item member
        exact ih item member itemBuilt nested

theorem Body.Built.parts {body : Body} :
    body.Built → body.query.Built ∧ Aggregations.Built body.aggregations
  | .empty => ⟨.empty, .empty⟩
  | .ofSettings _ => ⟨.empty, .empty⟩
  | .configure built sameQuery sameAggregations =>
      ⟨sameQuery ▸ built.parts.1, sameAggregations ▸ built.parts.2⟩
  | .editQuery keeps built => ⟨keeps _ built.parts.1, built.parts.2⟩
  | .editAggregations keeps built => ⟨built.parts.1, keeps _ built.parts.2⟩
  | .merge built other =>
      ⟨.merge built.parts.1 other.parts.1, .merge built.parts.2 other.parts.2⟩

end SearchRequest
