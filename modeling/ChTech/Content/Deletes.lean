import ChTech.Content.SlugUpdates

/-!
# Deletes

`delete` selects a row by its key and commits without it, unless a row of another table
names it.  What becomes of that `IntegrityError` is up to the repository.
-/

namespace ChTech.Content

open Foundation

open TechnologyRepository (Technologies)

section

variable {Model Input Entity : Type} {repo : Repository Model Input Entity}

/-- The `DELETE` of a row; `held` tells whether a foreign key names it. -/
def Repository.commitDelete (held : UUID → Bool) (id : UUID) (table : repo.Rows) :
    Except Raised repo.Rows :=
  if held id then .error .integrityError else .ok (table.delete fun row => repo.key row = id)

/-- The `DELETE` of a row and of the links it was loaded with. -/
def Tagged.commitDelete (held : UUID → Bool) (id : UUID) (loaded : List UUID)
    (tagged : Tagged repo) : Except Raised (Tagged repo) :=
  if !loaded.all fun technologyId => tagged.links.rows.contains (id, technologyId) then
    .error .operationalError
  else
    let links := tagged.links.delete fun link => link.1 == id && loaded.contains link.2
    if links.rows.any fun link => link.1 == id then
      .error .integrityError
    else
      (Repository.commitDelete held id tagged.rows).map fun rows => ⟨rows, links⟩

/-- `delete` of a row with technologies. -/
def Tagged.deleteRow [PyUnicode] [Collation] (technologies : Technologies) (ties : Ties)
    (held : UUID → Bool) (conflict : Raised) (id : UUID) : Program (Tagged repo) Raised Bool :=
  Program.transact fun tagged => do
    match ← repo.select tagged.rows id with
    | none => return (false, tagged)
    | some model =>
        (refusedAs conflict (tagged.commitDelete held (repo.key model)
          (loadedIds tagged technologies ties (repo.key model)))).map fun next => (true, next)

theorem Repository.commitDelete_rows {held : UUID → Bool} {id : UUID} {table next : repo.Rows}
    (deleted : Repository.commitDelete held id table = .ok next) :
    ∀ row ∈ next.rows, row ∈ table.rows := by
  simp only [Repository.commitDelete] at deleted
  split at deleted
  · cases deleted
  · cases deleted
    intro row member
    exact (Table.mem_delete.mp member).1

theorem Tagged.commitDelete_rows {held : UUID → Bool} {id : UUID} {loaded : List UUID}
    {tagged next : Tagged repo} (deleted : tagged.commitDelete held id loaded = .ok next) :
    ∀ row ∈ next.rows.rows, row ∈ tagged.rows.rows := by
  simp only [Tagged.commitDelete] at deleted
  split at deleted
  next => cases deleted
  next =>
    split at deleted
    next => cases deleted
    next =>
      rcases Result.map_eq_ok.mp deleted with ⟨rows, removed, equal⟩
      cases equal
      exact Repository.commitDelete_rows removed

/-- A row that is named is the only thing in the way. -/
theorem Repository.refused_commitDelete {held : UUID → Bool} {id : UUID} {table : repo.Rows}
    {conflict error : Raised}
    (refused : refusedAs conflict (Repository.commitDelete held id table) = .error error) :
    error = conflict := by
  simp only [Repository.commitDelete] at refused
  split at refused
  · cases refused
    rfl
  · cases refused

/-- With technologies, while the links it was loaded with are there. -/
theorem Tagged.refused_commitDelete {held : UUID → Bool} {id : UUID} {loaded : List UUID}
    {tagged : Tagged repo} {conflict error : Raised}
    (linked : loaded.all fun technologyId => tagged.links.rows.contains (id, technologyId))
    (refused : refusedAs conflict (tagged.commitDelete held id loaded) = .error error) :
    error = conflict := by
  simp only [Tagged.commitDelete, linked, Bool.not_true, Bool.false_eq_true, if_false] at refused
  split at refused
  next =>
    cases refused
    rfl
  next =>
    rw [refusedAs_map] at refused
    exact Repository.refused_commitDelete (Result.map_eq_error.mp refused)

end

end ChTech.Content
