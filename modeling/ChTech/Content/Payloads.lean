import ChTech.Content.Database

/-!
# Payloads and columns

The length limits of the write schemas keep most fields within their columns.  They count
characters where a `TEXT` column counts bytes, and put no bound on integers, on dates or
on JSON documents.
-/

namespace ChTech.Content

open Foundation

/-- A payload of one of the write schemas. -/
inductive Payload where
  | project (payload : ProjectWrite)
  | article (authorId : UUID) (payload : ArticleWrite)
  | service (payload : ServiceWrite)
  | product (payload : ProductWrite)
  | serviceLine (payload : ServiceLineWrite)
  | technology (payload : TechnologyWrite)
  | client (payload : ClientWrite)
  | partner (payload : PartnerWrite)
  | teamMember (payload : TeamMemberWrite)
  | company (payload : CompanyWrite)
  | caseStudy (payload : CaseStudyWrite)
  | testimonial (payload : TestimonialWrite)
  | contact (payload : ContactCreate)

/-! ## The exact bounds -/

/-- At most 65,535 bytes. -/
def withinText (value : String) : Bool := value.utf8ByteSize ≤ 65535

/-- A 32-bit integer. -/
def withinInteger (value : Int) : Bool :=
  decide (-2147483648 ≤ value) && decide (value ≤ 2147483647)

/-- An instant of the years 1 to 9999. -/
def withinCalendar (value : Datetime) : Bool :=
  decide (0 ≤ value.instant) && decide (value.instant < calendarEnd)

section

variable [Mysql]

theorem storable_utcDateTime (value : Option Datetime) :
    (Cell.utcDateTime value).storable = ifGiven withinCalendar value := by
  cases value with
  | none => rfl
  | some value =>
      apply Bool.eq_iff_iff.mpr
      rw [show ifGiven withinCalendar (some value) = withinCalendar value from rfl, withinCalendar,
        Bool.and_eq_true, decide_eq_true_eq, decide_eq_true_eq]
      exact UTCDateTime.processBindParam_isOk

end

namespace Payload

variable [PyUnicode] [EmailStr]

/-- The schema accepts the payload. -/
def accepted : Payload → Bool
  | project payload => payload.accepted
  | article _ payload => payload.accepted
  | service payload => payload.accepted
  | product payload => payload.accepted
  | serviceLine payload => payload.accepted
  | technology payload => payload.accepted
  | client payload => payload.accepted
  | partner payload => payload.accepted
  | teamMember payload => payload.accepted
  | company payload => payload.accepted
  | caseStudy payload => payload.accepted
  | testimonial payload => payload.accepted
  | contact payload => payload.accepted

variable [Mysql]

omit [PyUnicode] [EmailStr] in
/-- What the schemas leave open. -/
def fits : Payload → Bool
  | project payload => ifGiven withinText payload.fullDescription
  | product payload => ifGiven withinText payload.fullDescription
  | article _ payload =>
      withinText payload.content && ifGiven withinInteger payload.readingTime &&
        ifGiven withinCalendar payload.publishedAt
  | serviceLine payload => withinInteger payload.displayOrder
  | teamMember payload => withinInteger payload.displayOrder
  | company payload => ifGiven Mysql.acceptsJson payload.socialLinks
  | caseStudy payload => ifGiven Mysql.acceptsJson payload.metrics
  | service _ | technology _ | client _ | partner _ | testimonial _ | contact _ => true

variable [Collation]

omit [EmailStr]

/-- Every value that reaches a column is stored there. -/
def Stored : Payload → Prop
  | project payload => ProjectRepository.repository.Stores payload
  | article authorId payload => ArticleRepository.repository.Stores (authorId, payload)
  | service payload => ServiceRepository.repository.Stores payload
  | product payload => ProductRepository.repository.Stores payload
  | serviceLine payload => ServiceLineRepository.repository.Stores payload
  | technology payload => TechnologyRepository.repository.Stores payload
  | client payload => ClientRepository.repository.Stores payload
  | partner payload => PartnerRepository.repository.Stores payload
  | teamMember payload => TeamMemberRepository.repository.Stores payload
  | company payload => CompanyRepository.repository.Stores payload
  | caseStudy payload => CaseStudyRepository.repository.Stores payload
  | testimonial payload => TestimonialRepository.repository.Stores payload
  | contact payload => ∀ defaults, (ContactRequestRepository.repository.cells
      (ContactRequestRepository.repository.construct defaults payload)).all Cell.storable = true

/-- No flush of the payload fails with a data error, whatever the tables hold. -/
def Flushes : Payload → Prop
  | project payload => ∀ technologies ties referenced target
      (projects : ProjectRepository.Projects), Undisturbed
        (Tagged.commit technologies ties payload.technologyIds referenced target payload projects).1
  | article authorId payload => ∀ technologies ties referenced target
      (articles : ArticleRepository.Articles), Undisturbed (Tagged.commit technologies ties
        payload.technologyIds referenced target (authorId, payload) articles).1
  | service payload => ∀ referenced target table,
      Undisturbed (ServiceRepository.repository.commit referenced target payload table).1
  | product payload => ∀ referenced target table,
      Undisturbed (ProductRepository.repository.commit referenced target payload table).1
  | serviceLine payload => ∀ referenced target table,
      Undisturbed (ServiceLineRepository.repository.commit referenced target payload table).1
  | technology payload => ∀ referenced target table,
      Undisturbed (TechnologyRepository.repository.commit referenced target payload table).1
  | client payload => ∀ referenced target table,
      Undisturbed (ClientRepository.repository.commit referenced target payload table).1
  | partner payload => ∀ referenced target table,
      Undisturbed (PartnerRepository.repository.commit referenced target payload table).1
  | teamMember payload => ∀ referenced target table,
      Undisturbed (TeamMemberRepository.repository.commit referenced target payload table).1
  | company payload => ∀ ties defaults now companies,
      Undisturbed (CompanyRepository.commit ties defaults now payload companies).1
  | caseStudy payload => ∀ referenced target table,
      Undisturbed (CaseStudyRepository.repository.commit referenced target payload table).1
  | testimonial payload => ∀ referenced target table,
      Undisturbed (TestimonialRepository.repository.commit referenced target payload table).1
  | contact payload => ∀ referenced defaults table, Undisturbed
      (ContactRequestRepository.repository.commitNew referenced defaults payload table)

theorem article_fits (authorId : UUID) {payload : ArticleWrite}
    (accepted : payload.accepted = true) :
    ArticleRepository.repository.Fits (authorId, payload) (article authorId payload).fits := by
  rw [fits, Bool.and_assoc, ← storable_utcDateTime]
  exact ArticleRepository.fits accepted

/-- An accepted payload is stored, and never fails with a data error, exactly within the
bounds its schema leaves open. -/
theorem accepted_fits [EmailStr]
    (emailStr : ∀ value, EmailStr.produces value = true → value.length ≤ 254)
    {payload : Payload} (accepted : payload.accepted = true) :
    (payload.Stored ↔ payload.fits = true) ∧ (payload.Flushes ↔ payload.fits = true) := by
  cases payload with
  | project payload =>
      have decided := ProjectRepository.fits accepted
      exact ⟨decided.stores_iff, Tagged.undisturbed_iff decided ProjectRepository.plain⟩
  | article authorId payload =>
      have decided := article_fits authorId accepted
      exact ⟨decided.stores_iff, Tagged.undisturbed_iff decided ArticleRepository.plain⟩
  | service payload =>
      have decided := ServiceRepository.fits accepted
      exact ⟨decided.stores_iff, decided.undisturbed_iff ServiceRepository.plain⟩
  | product payload =>
      have decided := ProductRepository.fits accepted
      exact ⟨decided.stores_iff, decided.undisturbed_iff ProductRepository.plain⟩
  | serviceLine payload =>
      have decided := ServiceLineRepository.fits accepted
      exact ⟨decided.stores_iff, decided.undisturbed_iff ServiceLineRepository.plain⟩
  | technology payload =>
      have decided := TechnologyRepository.fits accepted
      exact ⟨decided.stores_iff, decided.undisturbed_iff TechnologyRepository.plain⟩
  | client payload =>
      have decided := ClientRepository.fits accepted
      exact ⟨decided.stores_iff, decided.undisturbed_iff ClientRepository.plain⟩
  | partner payload =>
      have decided := PartnerRepository.fits accepted
      exact ⟨decided.stores_iff, decided.undisturbed_iff PartnerRepository.plain⟩
  | teamMember payload =>
      have decided := TeamMemberRepository.fits accepted
      exact ⟨decided.stores_iff, decided.undisturbed_iff TeamMemberRepository.plain⟩
  | company payload =>
      have decided := CompanyRepository.fits emailStr accepted
      exact ⟨decided.stores_iff, CompanyRepository.undisturbed_iff decided⟩
  | caseStudy payload =>
      have decided := CaseStudyRepository.fits accepted
      exact ⟨decided.stores_iff, decided.undisturbed_iff CaseStudyRepository.plain⟩
  | testimonial payload =>
      have decided := TestimonialRepository.fits accepted
      exact ⟨decided.stores_iff, decided.undisturbed_iff TestimonialRepository.plain⟩
  | contact payload =>
      have stored := ContactRequestRepository.fits emailStr accepted
      refine ⟨⟨fun _ => rfl, fun _ => stored⟩, ⟨fun _ => rfl, ?_⟩⟩
      intro _ referenced defaults table
      exact (Repository.reported_undisturbed ContactRequestRepository.plain
        (Repository.flush_undisturbed (stored defaults))).map

end Payload

namespace Sample

attribute [local instance] unicode collation mysql emailStr

/-- A text of four-byte characters. -/
def emoji (count : Nat) : String := String.ofList (List.replicate count '😀')

theorem emoji_length (count : Nat) : (emoji count).length = count := by
  simp [emoji]

theorem emoji_utf8ByteSize (count : Nat) : (emoji count).utf8ByteSize = 4 * count := by
  simp only [emoji]
  rw [String.utf8ByteSize_ofList]
  induction count with
  | zero => rfl
  | succ count ih =>
      rw [List.replicate_succ, String.utf8Len_cons, ih]
      rfl

theorem emoji_isMarkdown (count : Nat) : isMarkdown (emoji (count + 1)) = true := by
  have kept : ∀ count, PyString.lstrip PyString.isSpace (List.replicate count '😀') =
      List.replicate count '😀' := by
    intro count
    cases count with
    | zero => rfl
    | succ count => rfl
  have stripped : (PyString.strip (emoji (count + 1))).isEmpty = false := by
    simp only [PyString.strip, emoji]
    rw [String.toList_ofList, kept, List.reverse_replicate, kept, List.reverse_replicate]
    simp
  simp only [isMarkdown, MarkdownContent.postInit]
  rw [dif_pos stripped]
  rfl

/-- An article with a text of the given number of emoji. -/
def article (count : Nat) : ArticleWrite where
  slug := "emoji"
  title := "Emoji"
  summary := none
  content := emoji count
  coverImage := none
  readingTime := some 3
  published := false
  publishedAt := none
  technologyIds := []

theorem article_accepted {count : Nat} (short : count + 1 ≤ 50000) :
    (article (count + 1)).accepted = true := by
  have content : maxLength 50000 (emoji (count + 1)) = true := by
    rw [maxLength, emoji_length]
    exact decide_eq_true short
  simp only [ArticleWrite.accepted, article, content, emoji_isMarkdown]
  decide

/-- 16,383 emoji are stored: they take 65,532 bytes. -/
theorem accepted_fits_emoji :
    (Payload.article 1 (article 16383)).Stored ∧ (Payload.article 1 (article 16383)).Flushes := by
  have length : ∀ value, EmailStr.produces value = true → value.length ≤ 254 := by
    intro value equal
    have same : value = "contact@ch-tech.dev" := eq_of_beq equal
    rw [same]
    decide
  have accepted : (Payload.article 1 (article 16383)).accepted = true :=
    article_accepted (by decide)
  have small : (Payload.article 1 (article 16383)).fits = true := by
    simp only [Payload.fits, article, withinText, emoji_utf8ByteSize]
    decide
  have decided := Payload.accepted_fits length accepted
  exact ⟨decided.1.mpr small, decided.2.mpr small⟩

/-- One more is accepted as well, but takes 65,536 bytes. -/
theorem accepted_content_overflows :
    (Payload.article 1 (article 16384)).accepted = true ∧
      ¬(Payload.article 1 (article 16384)).Stored ∧
      ¬(Payload.article 1 (article 16384)).Flushes := by
  have accepted : (article 16384).accepted = true := article_accepted (by decide)
  have large : (Payload.article 1 (article 16384)).fits = false := by
    simp only [Payload.fits, article, withinText, emoji_utf8ByteSize]
    decide
  have decided := Payload.article_fits 1 accepted
  rw [large] at decided
  refine ⟨accepted, ?_, ?_⟩
  · intro stored
    cases decided.stores_iff.mp stored
  · intro flushes
    cases (Tagged.undisturbed_iff decided ArticleRepository.plain).mp flushes

end Sample

end ChTech.Content
