import Mathlib.Data.List.Nodup
import ChTech.Content.Article
import ChTech.Content.Project

/-!
# Rows with a unique slug

Projects and articles share the constraint on their slug, and what their repositories do
with its violation.  An update alone meets it where its attributes are flushed: at the
commit, which reports it, or before the technologies are selected, where nothing does.
-/

namespace ChTech.Content

open Foundation

open TechnologyRepository (Technologies)

section

variable {Model Input Entity : Type} [Collation]

/-- The slug is the one column that is unique beside the primary key. -/
structure Slugged (repo : Repository Model Input Entity) where
  slug : Model → String
  wanted : Input → String
  clash : ∀ first second, repo.clash first second =
    (repo.key first == repo.key second || Collation.equal (slug first) (slug second))
  constructSlug : ∀ defaults data, slug (repo.construct defaults data) = wanted data
  assignSlug : ∀ data model, slug (repo.assign data model) = wanted data
  touchSlug : ∀ now model, slug (repo.touch now model) = slug model
  storedSlug : ∀ model, slug (repo.stored model) = slug model
  sameSlug : ∀ first second, repo.same first second = true → slug first = slug second
  /-- What the `except` clauses raise. -/
  conflict : ∃ message, repo.conflict = .app (.conflictError message)

namespace Slugged

variable {repo : Repository Model Input Entity} (slugged : Slugged repo)

/-- A row other than the one with the given key holds the slug. -/
def taken (rows : repo.Rows) (id : UUID) (slug : String) : Bool :=
  rows.rows.any fun row => repo.key row != id && Collation.equal (slugged.slug row) slug

/-- What an update makes of a row. -/
def touched (_ : Slugged repo) (now : Instant) (data : Input) (model : Model) : Model :=
  repo.touch now (repo.assign data model)

variable {slugged}

theorem touched_key {now : Instant} {data : Input} {model : Model} :
    repo.key (repo.stored (slugged.touched now data model)) = repo.key model := by
  rw [repo.keeps.stored, touched, repo.keeps.touch, repo.keeps.assign]

theorem touched_slug {now : Instant} {data : Input} {model : Model} :
    slugged.slug (repo.stored (slugged.touched now data model)) = slugged.wanted data := by
  rw [slugged.storedSlug, touched, slugged.touchSlug, slugged.assignSlug]

omit slugged in
theorem equal_comm (first second : String) :
    Collation.equal first second = Collation.equal second first :=
  BEq.comm

/-- Two rows are in each other's way exactly when they agree in the key or in the slug. -/
theorem clash_eq_false (slugged : Slugged repo) {first second : Model} :
    repo.clash first second = false ↔ repo.key first ≠ repo.key second ∧
      Collation.equal (slugged.slug first) (slugged.slug second) = false := by
  rw [slugged.clash, Bool.or_eq_false_iff, beq_eq_false_iff_ne]

theorem taken_eq_false {rows : repo.Rows} {id : UUID} {slug : String} :
    slugged.taken rows id slug = false ↔ ∀ row ∈ rows.rows, repo.key row ≠ id →
      Collation.equal (slugged.slug row) slug = false := by
  simp [taken]

theorem taken_eq_true {rows : repo.Rows} {id : UUID} {slug : String} :
    slugged.taken rows id slug = true ↔ ∃ row ∈ rows.rows, repo.key row ≠ id ∧
      Collation.equal (slugged.slug row) slug = true := by
  simp [taken]

/-- With its own slug a row is in nobody's way. -/
theorem taken_own {rows : repo.Rows} {model : Model} (member : model ∈ rows.rows) :
    slugged.taken rows (repo.key model) (slugged.slug model) = false := by
  rw [taken_eq_false]
  intro row rowMem different
  by_contra equal
  have alike : Collation.equal (slugged.slug row) (slugged.slug model) = true :=
    Bool.eq_true_of_not_eq_false equal
  have one : row = model := by
    apply Table.eq_of_clash rowMem member
    · rw [slugged.clash, alike, Bool.or_true]
    · rw [slugged.clash, equal_comm, alike, Bool.or_true]
  exact different (congrArg repo.key one)

/-- An `UPDATE` of one row meets no constraint while no other row holds its slug. -/
theorem update?_of_free {rows : repo.Rows} {model written : Model}
    (key : repo.key written = repo.key model)
    (free : slugged.taken rows (repo.key model) (slugged.slug written) = false) :
    ∃ next : repo.Rows, (rows.update? fun row =>
        if repo.key row = repo.key model then written else row) = some next ∧
      next.rows = rows.rows.map fun row =>
        if repo.key row = repo.key model then written else row := by
  have distinct : (rows.rows.map fun row =>
      if repo.key row = repo.key model then written else row).Pairwise
        fun first second => repo.clash first second = false := by
    rw [List.pairwise_map]
    refine rows.distinct.imp_of_mem ?_
    intro first second firstMem secondMem apart
    have keys := (slugged.clash_eq_false.mp apart).1
    rw [taken_eq_false] at free
    by_cases firstOwn : repo.key first = repo.key model
    · have secondOther : repo.key second ≠ repo.key model := fun equal =>
        keys (firstOwn.trans equal.symm)
      rw [if_pos firstOwn, if_neg secondOther, slugged.clash_eq_false, key]
      exact ⟨secondOther.symm, (equal_comm _ _).trans (free second secondMem secondOther)⟩
    · by_cases secondOwn : repo.key second = repo.key model
      · rw [if_neg firstOwn, if_pos secondOwn, slugged.clash_eq_false, key]
        exact ⟨firstOwn, free first firstMem firstOwn⟩
      · rw [if_neg firstOwn, if_neg secondOwn]
        exact apart
  exact ⟨_, dif_pos distinct, rfl⟩

/-- It fails when another row does. -/
theorem update?_of_taken {rows : repo.Rows} {model written : Model} (member : model ∈ rows.rows)
    (key : repo.key written = repo.key model)
    (held : slugged.taken rows (repo.key model) (slugged.slug written) = true) :
    (rows.update? fun row => if repo.key row = repo.key model then written else row) = none := by
  apply dif_neg
  intro distinct
  rcases taken_eq_true.mp held with ⟨other, otherMem, different, equal⟩
  have symmetric : Std.Symm fun first second : Model => repo.clash first second = false := by
    constructor
    intro first second apart
    rw [slugged.clash_eq_false] at apart ⊢
    exact ⟨apart.1.symm, (equal_comm _ _).trans apart.2⟩
  have writtenMem : written ∈ rows.rows.map fun row =>
      if repo.key row = repo.key model then written else row :=
    List.mem_map.mpr ⟨model, member, if_pos rfl⟩
  have otherMem' : other ∈ rows.rows.map fun row =>
      if repo.key row = repo.key model then written else row :=
    List.mem_map.mpr ⟨other, otherMem, if_neg different⟩
  have apart := distinct.forall otherMem' writtenMem fun same =>
    different ((congrArg repo.key same).trans key)
  rw [slugged.clash_eq_false, equal] at apart
  cases apart.2

end Slugged

end

section

variable [PyUnicode] [Collation]

def ProjectRepository.slugged : Slugged ProjectRepository.repository where
  slug := ProjectModel.slug
  wanted := ProjectWrite.slug
  clash _ _ := rfl
  constructSlug _ _ := rfl
  assignSlug _ _ := rfl
  touchSlug _ _ := rfl
  storedSlug _ := rfl
  sameSlug _ _ same := congrArg ProjectModel.slug (eq_of_beq same)
  conflict := ⟨_, rfl⟩

def ArticleRepository.slugged : Slugged ArticleRepository.repository where
  slug := ArticleModel.slug
  wanted data := data.2.slug
  clash _ _ := rfl
  constructSlug _ _ := rfl
  assignSlug _ _ := rfl
  touchSlug _ _ := rfl
  storedSlug _ := rfl
  sameSlug first second same := by
    simp only [ArticleRepository.repository, Bool.and_eq_true, beq_iff_eq] at same
    have equal := congrArg ArticleModel.slug same.1
    exact equal
  conflict := ⟨_, rfl⟩

end

namespace Tagged

variable [PyUnicode] [Collation] {Model Input Entity : Type}
  {repo : Repository Model Input Entity}

/-- The selected technologies are different ones. -/
theorem nodup_getTechnologies (technologies : Technologies) (technologyIds : List UUID) :
    (getTechnologies technologies technologyIds).Nodup := by
  have distinct : (technologies.rows.map TechnologyModel.id).Nodup := by
    rw [List.Nodup, List.pairwise_map]
    refine technologies.distinct.imp ?_
    intro first second apart equal
    simp [TechnologyRepository.repository, equal] at apart
  exact distinct.sublist (List.Sublist.map _ List.filter_sublist)

theorem mem_getTechnologies {technologies : Technologies} {technologyIds : List UUID}
    {id : UUID} : id ∈ getTechnologies technologies technologyIds ↔
      id ∈ technologyIds ∧ ∃ technology ∈ technologies.rows, technology.id = id := by
  simp only [getTechnologies, List.mem_map, List.mem_filter, List.contains_iff_mem]
  constructor
  · rintro ⟨technology, ⟨member, wanted⟩, rfl⟩
    exact ⟨wanted, technology, member, rfl⟩
  · rintro ⟨wanted, technology, member, rfl⟩
    exact ⟨technology, ⟨member, wanted⟩, rfl⟩

omit [PyUnicode] [Collation] in
/-- New links of one owner are added one by one. -/
theorem insertLinks {owner : UUID} {added : List UUID} {links : Links}
    (distinct : added.Nodup) (absent : ∀ id ∈ added, (owner, id) ∉ links.rows) :
    ∃ next : Links, added.foldlM (fun links id => links.insert? (owner, id)) links = some next ∧
      next.rows = links.rows ++ added.map fun id => (owner, id) := by
  induction added generalizing links with
  | nil => exact ⟨links, rfl, (List.append_nil _).symm⟩
  | cons id rest ih =>
      rcases List.nodup_cons.mp distinct with ⟨new, distinct⟩
      have free : ∀ stored ∈ links.rows, (stored == (owner, id)) = false := by
        intro stored member
        rw [beq_eq_false_iff_ne]
        intro same
        subst same
        exact absent id List.mem_cons_self member
      obtain ⟨first, inserted⟩ : ∃ first, links.insert? (owner, id) = some first :=
        ⟨_, dif_pos free⟩
      have rows := (Table.insert?_eq_some.mp inserted).2
      have absent' : ∀ other ∈ rest, (owner, other) ∉ first.rows := by
        intro other member present
        rw [rows, List.mem_append, List.mem_singleton] at present
        rcases present with before | same
        · exact absent other (List.mem_cons_of_mem _ member) before
        · exact new ((Prod.mk.inj same).2 ▸ member)
      rcases ih distinct absent' with ⟨next, linked, all⟩
      refine ⟨next, ?_, ?_⟩
      · rw [List.foldlM_cons, inserted]
        exact linked
      · rw [all, rows, List.map_cons, List.append_assoc, List.singleton_append]

omit [PyUnicode] [Collation] in
/-- One of them present already fails them all. -/
theorem insertLinks_of_mem {owner id : UUID} {added : List UUID} {links : Links}
    (member : id ∈ added) (present : (owner, id) ∈ links.rows) :
    (added.foldlM (fun links id => links.insert? (owner, id)) links) = none := by
  induction added generalizing links with
  | nil => cases member
  | cons first rest ih =>
      rw [List.foldlM_cons]
      cases inserted : links.insert? (owner, first) with
      | none => rfl
      | some next =>
          rcases Table.insert?_eq_some.mp inserted with ⟨free, rows⟩
          rcases List.mem_cons.mp member with rfl | later
          · have apart : ((owner, id) == (owner, id)) = false := free _ present
            rw [beq_self_eq_true] at apart
            cases apart
          · exact ih later (rows ▸ List.mem_append_left _ present)

end Tagged

end ChTech.Content
