import ChTech.Content.ProjectList
import ChTech.Foundation.CaseSearch
import ChTech.Foundation.Like
import ChTech.Infrastructure.EmailRows

/-!
# Searching titles

The list searches with `LIKE` for the term between percent signs, the in-memory list for
the term itself.  A term with a character that `LIKE` interprets tells them apart, and so does one
with a character that the server and Python do not lower or compare alike.
-/

namespace ChTech.Content.ProjectRepository

open Foundation

open TechnologyRepository (Technologies)

section

variable [PyUnicode] [Collation] [Mysql]

omit [Collation] [Mysql] in
/-- `needle in title.lower()`, as the in-memory list has it. -/
def titleContains (search : String) (model : ProjectModel) : Bool :=
  decide ((PyUnicode.lower search).toList <:+: (PyUnicode.lower model.title).toList)

/-- The projects that the list keeps, before it sorts them and cuts the page. -/
def kept (projects : Projects) (technologies : Technologies) (filters : ProjectFilters)
    (publicOnly : Bool) : List ProjectModel :=
  (found projects technologies filters publicOnly).map Prod.fst

/-- What Python and the server document: `str.lower` follows the character database; `LOWER` maps
the text character by character, which leaves the characters that a pattern interprets what they
are; `LIKE` compares single characters, by an equivalence. -/
structure Lowers (database : CaseDatabase) (lower : Char → Char) : Prop where
  python : ∀ value, PyUnicode.lower value = database.lower value
  standard : database.Standard
  patterns : ∀ char ∈ Like.special, ∀ other, char ∈ database.lowerFull other ↔ other = char
  server : ∀ value, Mysql.lower value = String.ofList (value.toList.map lower)
  keeps : ∀ char, Like.special.contains (lower char) = Like.special.contains char
  fixed : ∀ char ∈ Like.special, lower char = char
  letter : lower 'a' = 'a'
  compares : Equivalence fun first second => Mysql.sameChar first second = true

/-- `LIKE` takes the one character of a title for the other of a term. -/
def Taken (lower : Char → Char) (first second : Char) : Prop :=
  Mysql.sameChar (lower first) (lower second) = true

/-- The lower case of the term is literal: in each of its places the server takes for the term's
character exactly the characters that Python lowers to it. -/
structure Literal (database : CaseDatabase) (lower : Char → Char) (search : String) : Prop where
  plain : Like.plain search.toList = true
  itself : List.Forall₂ (Taken lower) search.toList (database.lower search).toList
  places : database.Literal (Taken lower) (database.lower search).toList

variable {database : CaseDatabase} {lower : Char → Char}

omit [Collation] in
theorem Lowers.pattern (lowers : Lowers database lower) (search : String) :
    (Mysql.lower ("%" ++ search ++ "%")).toList =
      '%' :: (search.toList.map lower ++ ['%']) := by
  have percent := lowers.fixed '%' (by decide)
  rw [lowers.server, String.toList_ofList, String.toList_append, String.toList_append]
  simp [percent]

omit [Collation] in
theorem Lowers.plain (lowers : Lowers database lower) (text : List Char) :
    Like.plain (text.map lower) = Like.plain text := by
  simp only [Like.plain, List.all_map]
  apply congrArg (fun check => text.all check)
  funext char
  simp only [Function.comp_apply, lowers.keeps]

omit [Collation] in
theorem Lowers.taken (lowers : Lowers database lower) : Equivalence (Taken lower) where
  refl _ := lowers.compares.refl _
  symm taken := lowers.compares.symm taken
  trans taken taken' := lowers.compares.trans taken taken'

omit [Collation] in
/-- Python neither makes nor loses a character that a pattern interprets. -/
theorem Lowers.weights_lowerFrom (lowers : Lowers database lower) (before text : List Char) :
    Like.weights (database.lowerFrom before text) = Like.weights text := by
  have fixes : ∀ char, Like.weights (database.lowerFull char) = Like.weight char := by
    intro char
    by_cases special : char ∈ Like.special
    · rw [database.stable char char ((lowers.patterns char special char).mpr rfl)]
      simp [Like.weights]
    · have weightless : ∀ other, other ∉ Like.special → Like.weight other = 0 := by
        intro other plain
        exact Like.weight_of_plain (by simpa using plain)
      rw [weightless char special]
      apply Like.weights_eq_zero
      intro other lowered
      apply weightless
      intro interpreted
      rw [(lowers.patterns other interpreted char).mp lowered] at special
      exact special interpreted
  induction text generalizing before with
  | nil => rfl
  | cons char rest ih =>
      rw [CaseDatabase.lowerFrom_cons, Like.weights_append, ih, Like.weights_cons]
      by_cases sigma : char = 'Σ'
      · rw [sigma, CaseDatabase.lowerChar, if_pos rfl, CaseDatabase.handleCapitalSigma]
        split <;> rfl
      · rw [CaseDatabase.lowerChar_of_ne sigma, fixes]

omit [Collation] in
/-- A plain term is found where `LIKE` takes a block for it. -/
theorem Lowers.titleMatches_iff (lowers : Lowers database lower) {search : String}
    (plain : Like.plain search.toList = true) (model : ProjectModel) :
    titleMatches search model = true ↔
      CaseDatabase.Found (Taken lower) search.toList model.title.toList := by
  rw [titleMatches, lowers.pattern, lowers.server model.title, String.toList_ofList,
    Like.sqlLike_contains ((lowers.plain _).trans plain)]
  constructor
  · rintro ⟨block, inside, alike⟩
    rcases List.infix_map_iff.mp inside with ⟨block, split, rfl⟩
    rw [List.forall₂_map_left_iff, List.forall₂_map_right_iff] at alike
    exact ⟨block, split, alike⟩
  · rintro ⟨block, inside, alike⟩
    refine ⟨block.map lower, inside.map lower, ?_⟩
    rw [List.forall₂_map_left_iff, List.forall₂_map_right_iff]
    exact alike

omit [Collation] [Mysql] in
theorem titleContains_iff (python : ∀ value, PyUnicode.lower value = database.lower value)
    {search : String} {model : ProjectModel} : titleContains search model = true ↔
      database.lowerFrom [] search.toList <:+: database.lowerFrom [] model.title.toList := by
  rw [titleContains, decide_eq_true_eq, python, python, CaseDatabase.lower, CaseDatabase.lower,
    String.toList_ofList, String.toList_ofList]

/-- A project with a given title. -/
def titled (title : String) : ProjectModel where
  id := 1
  slug := "project"
  title
  shortDescription := none
  fullDescription := none
  repositoryUrl := none
  liveDemoUrl := none
  coverImage := none
  status := "COMPLETED"
  visibility := "PUBLIC"
  featured := false
  startedAt := none
  finishedAt := none
  clientId := none
  createdAt := 0
  updatedAt := 0

omit [Mysql] in
/-- It is the only one stored. -/
def alone (title : String) : Projects := ⟨Table.singleton (titled title), .empty⟩

omit [PyUnicode] [Collation] [Mysql] in
@[simp] theorem titled_title (title : String) : (titled title).title = title := rfl

omit [Collation] in
/-- A term that is interpreted is found in a title that does not contain it. -/
theorem Lowers.exists_title (lowers : Lowers database lower) {search : String}
    (interpreted : Like.plain search.toList = false) :
    ∃ title, titleMatches search (titled title) = true ∧
      titleContains search (titled title) = false := by
  have shortest : (Mysql.lower (String.ofList
      (Like.shortest ('%' :: (search.toList ++ ['%']))))).toList =
        Like.shortest ('%' :: (search.toList.map lower ++ ['%'])) := by
    rw [lowers.server, String.toList_ofList, String.toList_ofList,
      ← Like.shortest_map lowers.letter lowers.keeps lowers.fixed]
    simp [lowers.fixed '%' (by decide)]
  refine ⟨String.ofList (Like.shortest ('%' :: (search.toList ++ ['%']))), ?_, ?_⟩
  · rw [titleMatches, lowers.pattern, titled_title, shortest]
    exact Like.sqlLike_shortest lowers.compares.refl _
  · rw [← Bool.not_eq_true, titleContains_iff lowers.python, titled_title, String.toList_ofList]
    intro contained
    have heavier := Like.weights_le_of_infix contained
    rw [lowers.weights_lowerFrom, lowers.weights_lowerFrom, Like.shortest] at heavier
    have lighter := (Like.weights_shortest search.toList).2 interpreted
    omega

omit [Collation] in
/-- The two searches agree on every title exactly when the term is literal. -/
theorem Lowers.agrees_iff (lowers : Lowers database lower) (search : String) :
    (∀ title, titleMatches search (titled title) = titleContains search (titled title)) ↔
      Literal database lower search := by
  have texts : ∀ value, (database.lower value).toList = database.lowerFrom [] value.toList :=
    fun value => String.toList_ofList
  cases plain : Like.plain search.toList with
  | false =>
      constructor
      · intro agrees
        rcases lowers.exists_title plain with ⟨title, found, absent⟩
        rw [agrees title, absent] at found
        cases found
      · intro literal
        rw [literal.plain] at plain
        cases plain
  | true =>
      have decided := CaseDatabase.found_iff lowers.standard search.toList lowers.taken
      rw [← texts] at decided
      constructor
      · intro agrees
        rcases decided.mp (by
          intro text
          have agree := Bool.eq_iff_iff.mp (agrees (String.ofList text))
          rw [lowers.titleMatches_iff plain, titleContains_iff lowers.python, titled_title,
            String.toList_ofList] at agree
          rw [texts]
          exact agree) with ⟨itself, places⟩
        exact ⟨plain, itself, places⟩
      · rintro literal title
        rw [Bool.eq_iff_iff, lowers.titleMatches_iff plain, titleContains_iff lowers.python,
          ← texts search]
        exact decided.mpr ⟨literal.itself, literal.places⟩ _

/-! ## What the search keeps -/

theorem kept_eq (projects : Projects) (technologies : Technologies) (filters : ProjectFilters)
    (publicOnly : Bool) : kept projects technologies filters publicOnly =
      (matching projects technologies filters publicOnly).filter (searched filters) := by
  rw [kept, found_eq, List.map_map]
  exact List.map_id _

theorem kept_searchless (projects : Projects) (technologies : Technologies)
    (filters : ProjectFilters) (publicOnly : Bool) :
    kept projects technologies { filters with search := none } publicOnly =
      matching projects technologies filters publicOnly := by
  rw [kept_eq]
  apply List.filter_eq_self.mpr
  intro model _
  rfl

/-- Every filter but the search. -/
def searchFor (search : String) (page : Query.Page) : ProjectFilters :=
  ⟨none, none, none, some search, "created_at", page⟩

omit [Collation] in
/-- A search looks at nothing of a project but its title. -/
theorem searches_congr {search : String} {model : ProjectModel}
    (agrees : ∀ title, titleMatches search (titled title) = titleContains search (titled title)) :
    titleMatches search model = titleContains search model :=
  agrees model.title

/-- The search keeps the projects whose lower-cased title contains the lower-cased term, whatever
is stored, exactly when the term is literal. -/
theorem search_literal_iff (lowers : Lowers database lower) (search : String) :
    (∀ (projects : Projects) (technologies : Technologies) (filters : ProjectFilters)
        (publicOnly : Bool), filters.search = some search →
      kept projects technologies filters publicOnly =
        (kept projects technologies { filters with search := none } publicOnly).filter
          (titleContains search)) ↔
      Literal database lower search := by
  rw [← lowers.agrees_iff]
  constructor
  · intro literal title
    have same := literal (alone title) .empty
      (searchFor search ⟨1, 1, Nat.le_refl 1, Nat.le_refl 1⟩) false rfl
    rw [kept_eq, kept_searchless] at same
    have all : matching (alone title) .empty
        (searchFor search ⟨1, 1, Nat.le_refl 1, Nat.le_refl 1⟩) false = [titled title] := rfl
    have kept : searched (searchFor search ⟨1, 1, Nat.le_refl 1, Nat.le_refl 1⟩) (titled title) =
        titleMatches search (titled title) := rfl
    rw [all, List.filter_singleton, List.filter_singleton, kept] at same
    cases found : titleMatches search (titled title) <;>
      cases contained : titleContains search (titled title) <;>
      simp [found, contained] at same ⊢
  · intro agrees projects technologies filters publicOnly given
    rw [kept_eq, kept_searchless]
    apply List.filter_congr
    intro model _
    rw [searched, given, Option.all_some, searches_congr agrees]

end

namespace Sample

open Content.Sample

open Email.Sample (database)

/-- `LOWER` of the letters of ASCII, and of the sigma. -/
def lower (char : Char) : Char := if char = 'Σ' then 'σ' else char.toLower

@[reducible] def server : Mysql where
  lower value := String.ofList (value.toList.map lower)
  sameChar first second := first == second
  acceptsJson _ := true

attribute [local instance] Email.Sample.unicode collation server

theorem lowerFull_eq (char : Char) : database.lowerFull char = [lower char] := by
  show Email.Sample.lowerFull char = [lower char]
  simp only [Email.Sample.lowerFull, lower]
  split <;> rfl

/-- To the sigma rule a character and its lower case are the same. -/
theorem meetsCased_lower (char : Char) (rest : List Char) :
    database.meetsCased (lower char :: rest) = database.meetsCased (char :: rest) := by
  rw [CaseDatabase.meetsCased_cons, CaseDatabase.meetsCased_cons, lower]
  split
  next sigma =>
    subst sigma
    rfl
  next =>
    have ignored := PyString.toLower_congr database.isCaseIgnorable (by decide) char
    have cased := PyString.toLower_congr database.isCased (by decide) char
    rw [ignored, cased]

theorem standard : database.Standard where
  nonempty char := by simp [lowerFull_eq]
  meetsAfter char rest := by
    rw [lowerFull_eq]
    exact meetsCased_lower char rest
  meetsBefore char rest := by
    rw [lowerFull_eq]
    exact meetsCased_lower char rest
  sigmas char sigma := by
    simp only [List.mem_cons, List.not_mem_nil, or_false] at sigma
    rcases sigma with rfl | rfl | rfl <;> decide

theorem lower_special (char : Char) :
    Like.special.contains (lower char) = Like.special.contains char := by
  rw [lower]
  split
  next sigma =>
    subst sigma
    rfl
  next => exact PyString.toLower_congr (fun char => Like.special.contains char) (by decide) char

theorem lower_fixed : ∀ char ∈ Like.special, lower char = char := by
  have each : (Like.special.all fun char => lower char == char) = true := by decide
  intro char special
  exact eq_of_beq (List.all_eq_true.mp each char special)

/-- No other character is lowered to one that a pattern interprets. -/
theorem eq_of_lower_special {char other : Char} (special : char ∈ Like.special)
    (lowered : lower other = char) : other = char := by
  have kept := lower_special other
  rw [lowered, List.contains_iff_mem.mpr special] at kept
  rw [← lower_fixed other (List.contains_iff_mem.mp kept.symm), lowered]

theorem lowers : Lowers database lower where
  python _ := rfl
  standard := standard
  patterns := by
    intro char special other
    rw [lowerFull_eq, List.mem_singleton]
    constructor
    · intro lowered
      exact eq_of_lower_special special lowered.symm
    · intro same
      rw [same, lower_fixed char special]
  server _ := rfl
  keeps := lower_special
  fixed := lower_fixed
  letter := by decide
  compares := by
    refine ⟨beq_self_eq_true, ?_, ?_⟩
    · intro first second same
      rw [eq_of_beq same]
      exact beq_self_eq_true second
    · intro first second third same same'
      rw [eq_of_beq same]
      exact same'

/-- A term without a sigma or a character that a pattern interprets is literal. -/
theorem literal_of_letters {search : String} (plain : Like.plain search.toList = true)
    (itself : (database.lower search).toList = search.toList.map lower)
    (letters : ((database.lower search).toList.all fun lowered =>
      !(['Σ', 'σ', 'ς'].contains lowered) && lower lowered == lowered) = true) :
    Literal database lower search := by
  have letter : ∀ lowered ∈ (database.lower search).toList,
      lowered ∉ ['Σ', 'σ', 'ς'] ∧ lower lowered = lowered := by
    intro lowered member
    rcases Bool.and_eq_true_iff.mp (List.all_eq_true.mp letters lowered member) with ⟨other, same⟩
    refine ⟨fun sigma => ?_, eq_of_beq same⟩
    rw [List.contains_iff_mem.mpr sigma] at other
    cases other
  refine ⟨plain, ?_, CaseDatabase.literal_of_chars (fun lowered member => (letter lowered member).1)
    ?_ ?_⟩
  · rw [itself, List.forall₂_map_right_iff, List.forall₂_same]
    intro char member
    have again := (letter (lower char) (by rw [itself]; exact List.mem_map_of_mem member)).2
    show (lower char == lower (lower char)) = true
    rw [again]
    exact beq_self_eq_true _
  · intro lowered _ char member
    rw [lowerFull_eq] at member ⊢
    rw [List.mem_singleton.mp member]
  · intro lowered member char
    show (lower lowered == lower char) = true ↔ _
    rw [(letter lowered member).2, lowerFull_eq, beq_iff_eq, List.singleton_inj, eq_comm]

/-- The projects with the term in their title. -/
def searching (search : String) : ProjectFilters :=
  searchFor search ⟨1, 20, first_page, Nat.succ_pos 19⟩

/-- The project "Showcase" is found. -/
theorem search_literal_showcase :
    kept (alone "Showcase") .empty (searching "SHOW") false =
      (kept (alone "Showcase") .empty { searching "SHOW" with search := none } false).filter
        (titleContains "SHOW") :=
  (search_literal_iff lowers "SHOW").mpr
    (literal_of_letters (by decide) (by decide) (by decide)) (alone "Showcase") .empty
    (searching "SHOW") false rfl

/-- An underscore is found in every title, a backslash not in a title that has one, and a word that
ends in a sigma in a title that does not contain its lower case. -/
theorem interpreted_search :
    kept (alone "Showcase") .empty (searching "_") false = [titled "Showcase"] ∧
      kept (alone "C:\\Tools") .empty (searching "\\") false = [] ∧
      kept (alone "aΣa") .empty (searching "aΣ") false = [titled "aΣa"] ∧
      ¬∀ (search : String) (projects : Projects) (technologies : Technologies)
          (filters : ProjectFilters) (publicOnly : Bool), filters.search = some search →
        kept projects technologies filters publicOnly =
          (kept projects technologies { filters with search := none } publicOnly).filter
            (titleContains search) := by
  have every : kept (alone "Showcase") .empty (searching "_") false = [titled "Showcase"] := by
    decide
  refine ⟨every, by decide, by decide, ?_⟩
  intro claim
  rw [claim "_" (alone "Showcase") .empty (searching "_") false rfl] at every
  revert every
  decide

end Sample

end ChTech.Content.ProjectRepository
