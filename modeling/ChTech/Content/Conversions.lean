import ChTech.Content.Article
import ChTech.Content.Project

/-!
# What a conversion raises

`_to_entity` and `_to_row` build value objects and enumeration members, which raise
`ValueError` and nothing else.
-/

namespace ChTech

open Foundation

def Raised.IsValueError (raised : Raised) : Prop := ∃ message, raised = .valueError message

abbrev RaisesValueError {α : Type} (result : Except Raised α) : Prop :=
  Result.RaisesOnly Raised.IsValueError result

theorem raisesValueError {α : Type} (message : String) :
    RaisesValueError (.error (.valueError message) : Except Raised α) :=
  .error ⟨message, rfl⟩

theorem Slug.postInit_raises (value : String) : RaisesValueError (Slug.postInit value) := by
  simp only [Slug.postInit]
  split
  · exact .ok
  · exact raisesValueError _

theorem MarkdownContent.postInit_raises (value : String) :
    RaisesValueError (MarkdownContent.postInit value) := by
  simp only [MarkdownContent.postInit]
  split
  · exact .ok
  · exact raisesValueError _

theorem ofMembers_raises {α : Type} (members : List α) (value : α → String) (name text : String) :
    RaisesValueError (ofMembers members value name text) := by
  simp only [ofMembers]
  split
  · exact .ok
  · exact raisesValueError _

section

variable [PyUnicode]

theorem urlsplit_raises (url : String) : RaisesValueError (urlsplit url) := by
  unfold urlsplit
  extract_lets stripped split
  split
  next rest =>
    extract_lets netloc
    split
    · exact raisesValueError _
    · split
      · exact .ok
      · exact raisesValueError _
  next => exact .ok

theorem checkHttpUrl_raises (value : String) : RaisesValueError (checkHttpUrl value) := by
  have checked : RaisesValueError (isHttpUrl value) := by
    simp only [isHttpUrl]
    split
    · exact .ok
    · exact (urlsplit_raises value).map
  simp only [checkHttpUrl]
  split
  · exact .ok
  · exact raisesValueError _
  next raised failed => exact .error (checked raised failed)

theorem Url.postInit_raises (value : String) : RaisesValueError (Url.postInit value) := by
  simp only [Url.postInit]
  split
  · exact .ok
  next raised failed => exact .error (checkHttpUrl_raises value raised failed)

theorem Image.postInit_raises (value : String) : RaisesValueError (Image.postInit value) := by
  simp only [Image.postInit]
  split
  · exact .ok
  next raised failed => exact .error (checkHttpUrl_raises value raised failed)

namespace Content

omit [PyUnicode] in
theorem orNone_raises {α : Type} {build : String → Except Raised α}
    (raises : ∀ value, RaisesValueError (build value)) (value : Option String) :
    RaisesValueError (orNone build value) := by
  cases value with
  | none => exact .ok
  | some value =>
      simp only [orNone]
      split
      · exact .ok
      · exact (raises value).map

theorem TechnologyModel.toEntity_raises (model : TechnologyModel) :
    RaisesValueError model.toEntity :=
  (orNone_raises Image.postInit_raises _).bind fun _ =>
    (orNone_raises Url.postInit_raises _).bind fun _ => .ok

theorem ProjectModel.toEntity_raises (model : ProjectModel) : RaisesValueError model.toEntity :=
  (Slug.postInit_raises _).bind fun _ => (orNone_raises Url.postInit_raises _).bind fun _ =>
    (orNone_raises Url.postInit_raises _).bind fun _ =>
      (orNone_raises Image.postInit_raises _).bind fun _ =>
        (ofMembers_raises _ _ _ _).bind fun _ => (ofMembers_raises _ _ _ _).bind fun _ => .ok

theorem ArticleModel.toEntity_raises (model : ArticleModel) : RaisesValueError model.toEntity := by
  refine (Slug.postInit_raises _).bind fun _ => (MarkdownContent.postInit_raises _).bind fun _ =>
    (orNone_raises Image.postInit_raises _).bind fun _ => ?_
  split
  · exact .ok
  · exact raisesValueError _

/-- A row brings its technologies along. -/
theorem Tagged.toRow_raises [Collation] {Model Input Entity : Type}
    {repo : Repository Model Input Entity} {tagged : Tagged repo}
    {technologies : TechnologyRepository.Technologies} {ties : Ties} {model : Model}
    (raises : RaisesValueError (repo.toEntity model)) :
    RaisesValueError (tagged.toRow technologies ties model) :=
  raises.bind fun _ => (Result.RaisesOnly.mapM TechnologyModel.toEntity_raises).bind fun _ => .ok

end Content

end

end ChTech
