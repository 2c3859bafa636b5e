/-
Walks through a tree of aggregations. A walk follows the names of a path and asks each
aggregation on it for its nested ones, but it adds nothing in the end. It does change the
tree: a container comes about at every step, and it stays where the walk goes no further.

None of this shows in a request. Lists of aggregations are compared by what they add to
entries that are already written. Two lists that add the same may stand for each other
wherever a list stands: inside an aggregation, among others, and in a body.
-/

import SearchRequest.Proofs.AggregationLookup
import SearchRequest.Proofs.BodyDocument

namespace SearchRequest

namespace Aggregations

/-- Whatever is written already, both lists add the same entries to it, or fail alike. -/
def WrittenAlike (items others : Aggregations) : Prop :=
  ∀ written, Aggregation.listToEntries written items = Aggregation.listToEntries written others

namespace WrittenAlike

theorem refl (items : Aggregations) : items.WrittenAlike items :=
  fun _ => rfl

theorem trans {items others third : Aggregations} (first : items.WrittenAlike others)
    (second : others.WrittenAlike third) : items.WrittenAlike third :=
  fun written => (first written).trans (second written)

theorem toEntries {items others : Aggregations} (alike : items.WrittenAlike others) :
    items.toEntries = others.toEntries :=
  alike []

theorem merge {items others second third : Aggregations} (alike : items.WrittenAlike others)
    (later : second.WrittenAlike third) :
    (items.merge second).WrittenAlike (others.merge third) := by
  intro written
  unfold Aggregations.merge
  rw [Aggregation.listToEntries_append, Aggregation.listToEntries_append, alike written]
  congr
  funext entries
  exact later entries

/-- Only the name and the fragment of an aggregation are written. -/
theorem replace {item changed : Aggregation} (sameName : changed.name = item.name)
    (sameFragment : changed.toJson = item.toJson) (before after : Aggregations) :
    WrittenAlike (before ++ changed :: after) (before ++ item :: after) := by
  apply (refl before).merge
  intro written
  rw [Aggregation.listToEntries_cons, Aggregation.listToEntries_cons, sameName, sameFragment]

end WrittenAlike

end Aggregations

namespace Aggregation

section

variable {ε β : Type} {refuse : RequestError → ε} {edit : Aggregations → Except ε β × Aggregations}

theorem name_editChildren (aggregation : Aggregation) :
    (aggregation.editChildren refuse edit).2.name = aggregation.name := by
  cases aggregation <;> rfl

/-- A container that comes about is empty at first, and an empty one does not show. -/
theorem toJson_editChildren (hidden : ∀ items, (edit items).2.WrittenAlike items)
    (aggregation : Aggregation) :
    (aggregation.editChildren refuse edit).2.toJson = aggregation.toJson := by
  cases aggregation with
  | metric name content => rfl
  | bucket name content children =>
      have sameEntries := (hidden (children.getD [])).toEntries
      change toJson (.bucket name content (some (edit (children.getD [])).2)) = _
      rw [toJson_bucket, toJson_bucket, Option.getD_some, sameEntries]

end

end Aggregation

namespace Aggregations

theorem writtenAlike_editNamed {β : Type} {edit : Aggregation → Except PathError β × Aggregation}
    (sameName : ∀ item, (edit item).2.name = item.name)
    (sameFragment : ∀ item, (edit item).2.toJson = item.toJson) (name : String)
    (items : Aggregations) : (editNamed name edit items).2.WrittenAlike items := by
  unfold editNamed
  cases edited : editLast? name edit items with
  | none => exact .refl items
  | some outcome =>
      obtain ⟨result, changed⟩ := outcome
      obtain ⟨before, item, after, cut, _, isChanged⟩ := editLast?_eq_some_iff.mp edited
      rw [isChanged, cut.whole]
      exact .replace (sameName item) (sameFragment item) before after

/-- What does not show at the end of a path does not show in the tree. -/
theorem writtenAlike_editAt {β : Type} {edit : Aggregations → Except PathError β × Aggregations}
    (hidden : ∀ items, (edit items).2.WrittenAlike items) (path : List String)
    (items : Aggregations) : (editAt edit path items).2.WrittenAlike items := by
  induction path generalizing items with
  | nil => exact hidden items
  | cons name path ih =>
      apply writtenAlike_editNamed
      · exact fun item => item.name_editChildren
      · exact fun item => item.toJson_editChildren ih

/-! ### Walks -/

/-- Asks each aggregation on the path for its nested ones, and then does nothing. -/
def walk (path : List String) (items : Aggregations) : Except PathError Unit × Aggregations :=
  editAt (fun nested => (.ok (), nested)) path items

def walkAll (paths : List (List String)) (items : Aggregations) : Aggregations :=
  paths.foldl (fun reached path => (walk path reached).2) items

theorem writtenAlike_walk (path : List String) (items : Aggregations) :
    (walk path items).2.WrittenAlike items :=
  writtenAlike_editAt WrittenAlike.refl path items

theorem writtenAlike_walkAll (paths : List (List String)) (items : Aggregations) :
    (walkAll paths items).WrittenAlike items := by
  induction paths generalizing items with
  | nil => exact .refl items
  | cons path paths ih => exact (ih _).trans (writtenAlike_walk path items)

/-- Every name of the path finds an aggregation that has a container. -/
inductive HasContainers : Aggregations → List String → Prop
  | here (items : Aggregations) : HasContainers items []
  | into {items nested : Aggregations} {name : String} {path : List String} {item : Aggregation} :
      items.find? name = some item → item.children? = some nested →
        HasContainers nested path → HasContainers items (name :: path)

theorem CutAtLast.hasContainers_iff {name : String} {items before after : Aggregations}
    {item : Aggregation} (cut : CutAtLast name items before item after) (path : List String) :
    items.HasContainers (name :: path) ↔
      ∃ nested, item.children? = some nested ∧ HasContainers nested path := by
  constructor
  · intro containers
    cases containers with
    | into found container deeper =>
        rw [cut.find?] at found
        cases found
        exact ⟨_, container, deeper⟩
  · intro parts
    obtain ⟨nested, container, deeper⟩ := parts
    exact .into cut.find? container deeper

theorem not_hasContainers_of_not_mem {name : String} {items : Aggregations}
    (absent : name ∉ items.names) (path : List String) : ¬ items.HasContainers (name :: path) := by
  intro containers
  cases containers with
  | into found _ _ =>
      rw [find?_of_not_mem absent] at found
      cases found

/-- The containers of the path are there afterwards if the walk gets to its end, and only then. -/
theorem walk_succeeds_iff (path : List String) (items : Aggregations) :
    (walk path items).1 = .ok () ↔ (walk path items).2.HasContainers path := by
  unfold walk
  induction path generalizing items with
  | nil => exact ⟨fun _ => .here items, fun _ => rfl⟩
  | cons name path ih =>
      by_cases member : name ∈ items.names
      · obtain ⟨before, item, after, cut⟩ := cutAtLast_of_mem member
        cases item with
        | metric own content =>
            rw [cut.editAt_metric path, ← cut.whole, cut.hasContainers_iff]
            constructor
            · intro impossible
              cases impossible
            · intro parts
              obtain ⟨nested, impossible, _⟩ := parts
              cases impossible
        | bucket own content children =>
            have cutAfter : ∀ nested, CutAtLast name (before ++ .bucket own content nested :: after)
                before (.bucket own content nested) after :=
              fun nested => ⟨rfl, cut.named, cut.last⟩
            rw [cut.editAt_bucket path, (cutAfter _).hasContainers_iff]
            constructor
            · intro succeeds
              exact ⟨_, rfl, (ih _).mp succeeds⟩
            · intro parts
              obtain ⟨nested, container, deeper⟩ := parts
              cases container
              exact (ih _).mpr deeper
      · rw [editAt_of_not_mem member path]
        constructor
        · intro impossible
          cases impossible
        · intro containers
          exact absurd containers (not_hasContainers_of_not_mem member path)

/-- A walk stops early where a name is missing or stands for a metric, and nowhere else. -/
theorem walk_outcomes (path : List String) (items : Aggregations) :
    (walk path items).1 = .ok () ∨ (∃ name, (walk path items).1 = .error (.missing name)) ∨
      ∃ name kind, (walk path items).1 = .error (.refused (.notNestable name kind)) := by
  unfold walk
  induction path generalizing items with
  | nil => exact Or.inl rfl
  | cons name path ih =>
      by_cases member : name ∈ items.names
      · obtain ⟨before, item, after, cut⟩ := cutAtLast_of_mem member
        cases item with
        | metric own content =>
            rw [cut.editAt_metric path]
            exact Or.inr (Or.inr ⟨own, content.kind, rfl⟩)
        | bucket own content children =>
            rw [cut.editAt_bucket path]
            exact ih _
      · rw [editAt_of_not_mem member path]
        exact Or.inr (Or.inl ⟨name, rfl⟩)

end Aggregations

namespace Body

/-- What happens to a body: a walk through its aggregations, or a merge that gives a new body. -/
inductive Handling where
  | walk (path : List String)
  /-- The other body comes second. -/
  | merge (other : Body)
  | mergeInto (other : Body)

namespace Handling

def isWalk : Handling → Bool
  | .walk _ => true
  | .merge _ | .mergeInto _ => false

def apply (body : Body) : Handling → Body
  | .walk path => { body with aggregations := (Aggregations.walk path body.aggregations).2 }
  | .merge other => body.merge other
  | .mergeInto other => other.merge body

end Handling

def handle (body : Body) (handlings : List Handling) : Body :=
  handlings.foldl Handling.apply body

/-- The bodies differ in their aggregations at most, and there only in what does not show. -/
def WrittenAlike (body other : Body) : Prop :=
  ∃ items, other = { body with aggregations := items } ∧ body.aggregations.WrittenAlike items

namespace WrittenAlike

theorem refl (body : Body) : body.WrittenAlike body :=
  ⟨body.aggregations, rfl, .refl _⟩

theorem toJson {body other : Body} (alike : body.WrittenAlike other) :
    body.toJson = other.toJson := by
  obtain ⟨items, same, aggregations⟩ := alike
  subst same
  rw [toJson_eq, toJson_eq, aggregations.toEntries]
  rfl

theorem render {body other : Body} (alike : body.WrittenAlike other) (pretty : Bool) :
    body.render pretty = other.render pretty := by
  unfold Body.render
  rw [alike.toJson]

theorem merge {body other : Body} (alike : body.WrittenAlike other) (later : Body) :
    (body.merge later).WrittenAlike (other.merge later) := by
  obtain ⟨items, same, aggregations⟩ := alike
  subst same
  exact ⟨items.merge later.aggregations, rfl, aggregations.merge (.refl _)⟩

theorem mergeInto {body other : Body} (alike : body.WrittenAlike other) (earlier : Body) :
    (earlier.merge body).WrittenAlike (earlier.merge other) := by
  obtain ⟨items, same, aggregations⟩ := alike
  subst same
  exact ⟨earlier.aggregations.merge items, rfl, .merge (.refl _) aggregations⟩

theorem walk {body other : Body} (alike : body.WrittenAlike other) (path : List String) :
    ((Handling.walk path).apply body).WrittenAlike other := by
  obtain ⟨items, same, aggregations⟩ := alike
  subst same
  exact ⟨items, rfl, (Aggregations.writtenAlike_walk path body.aggregations).trans aggregations⟩

end WrittenAlike

theorem writtenAlike_handle {body other : Body} (alike : body.WrittenAlike other)
    (handlings : List Handling) :
    (body.handle handlings).WrittenAlike
      (other.handle (handlings.filter fun handling => !handling.isWalk)) := by
  induction handlings generalizing body other with
  | nil => exact alike
  | cons handling handlings ih =>
      cases handling with
      | walk path => exact ih (alike.walk path)
      | merge later => exact ih (alike.merge later)
      | mergeInto earlier => exact ih (alike.mergeInto earlier)

end Body

/--
Walks, also those that stop early, change neither the entries of a tree nor its error. In whatever
is done with a body that holds it, copies and merges included, they may be left out. Still a walk
is no idle call: it is gone to its end exactly when all containers of its path exist afterwards.
-/
theorem walks_do_not_show (items : Aggregations) (paths : List (List String)) :
    (items.walkAll paths).toEntries = items.toEntries ∧
      (∀ (body : Body) (handlings : List Body.Handling),
        (body.handle handlings).toJson =
            (body.handle (handlings.filter fun handling => !handling.isWalk)).toJson ∧
          ∀ pretty, (body.handle handlings).render pretty =
            (body.handle (handlings.filter fun handling => !handling.isWalk)).render pretty) ∧
      ∀ path,
        ((items.walk path).1 = .ok () ↔ (items.walk path).2.HasContainers path) ∧
          ((items.walk path).1 = .ok () ∨ (∃ name, (items.walk path).1 = .error (.missing name)) ∨
            ∃ name kind, (items.walk path).1 = .error (.refused (.notNestable name kind))) := by
  refine ⟨(items.writtenAlike_walkAll paths).toEntries, ?_, ?_⟩
  · intro body handlings
    have alike := Body.writtenAlike_handle (.refl body) handlings
    exact ⟨alike.toJson, alike.render⟩
  · intro path
    exact ⟨items.walk_succeeds_iff path, items.walk_outcomes path⟩

/-- The walk fails at the last name, and the container before it has come about all the same. -/
example :
    Aggregations.walk ["jobs", "recent", "cost"]
        [.bucket "jobs" (.topHits 1) none,
          .bucket "jobs" (.filter .empty) (some [.bucket "recent" (.topHits 3) none])] =
      (.error (.missing "cost"),
        [.bucket "jobs" (.topHits 1) none,
          .bucket "jobs" (.filter .empty) (some [.bucket "recent" (.topHits 3) (some [])])]) :=
  rfl

end SearchRequest
