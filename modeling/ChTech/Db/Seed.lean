import ChTech.Content.DeleteFrames
import ChTech.Content.Singleton
import ChTech.Foundation.Ensure

/-!
# Seeding

`app.db.seed`: four seeders in one session, each of which looks before it adds a row.  What
one of them has added is flushed before the next lookup, so it is there for it; everything is
committed together at the end.
-/

namespace ChTech.Seed

open Foundation Content

/-- The settings of the seeded administrator. -/
structure SeedSettings where
  seedAdminName : String
  seedAdminEmail : String
  seedAdminPassword : String
  deriving DecidableEq, Repr

/-- What a run draws from its environment: the hash of the password under a fresh salt, the
defaults of the new rows and the engine's choice of a first row. -/
structure Generated where
  hashPassword : String → Except Raised String
  user : Defaults
  technology : String → Defaults
  company : Defaults
  teamMember : Defaults
  ties : Ties

/-- `TECHNOLOGY_CATALOG`. -/
def technologyCatalog : List (String × String) := [
  ("Python", "Language"),
  ("FastAPI", "Framework"),
  ("Next.js", "Framework"),
  ("Docker", "Infra"),
  ("MySQL", "Database")]

/-- What the seeder says of a technology. -/
def catalogued (entry : String × String) : TechnologyWrite where
  name := entry.1
  category := some entry.2
  icon := none
  officialUrl := none

def founderName : String := "Yadzael Chalico"

/-- The founder as a team member. -/
def founder (userId : UUID) : TeamMemberWrite where
  userId := some userId
  name := founderName
  role := "Founder & Lead Software Engineer"
  bio := some ("Fundador de CH-TECH. Diseña y construye arquitecturas " ++
    "escalables, automatizaciones con IA y productos digitales " ++
    "con prácticas de ingeniería moderna, de principio a fin.")
  photo := none
  linkedinUrl := none
  githubUrl := none
  displayOrder := 0
  active := true

section

variable [PyUnicode]

/-- `settings.seed_admin_email.strip().lower()`. -/
def adminEmail (settings : SeedSettings) : String :=
  PyUnicode.lower (PyString.strip settings.seedAdminEmail)

/-- The administrator, with the defaults of the model. -/
def admin (settings : SeedSettings) (defaults : Defaults) (passwordHash : String) : UserModel where
  id := defaults.id
  name := settings.seedAdminName
  email := adminEmail settings
  passwordHash
  role := "ADMIN"
  isActive := true
  lastLogin := none
  createdAt := defaults.createdAt
  updatedAt := defaults.updatedAt

variable [Collation]

/-- `select(User).where(User.email == …)`. -/
def usersByEmail (email : String) (store : Store) : List UserModel :=
  store.users.rows.filter fun user => Collation.equal user.email email

/-- `select(Technology).where(Technology.name == …)`. -/
def technologiesByName (name : String) (store : Store) : List TechnologyModel :=
  store.technologies.rows.filter fun technology => Collation.equal technology.name name

/-- `select(Company).limit(1)`. -/
def firstCompany (ties : Ties) (store : Store) : List CompanyModel :=
  CompanyRepository.selectFirst store.companies ties

/-- `select(TeamMember).where(TeamMember.name == …)`. -/
def membersByName (name : String) (store : Store) : List TeamMemberModel :=
  store.teamMembers.rows.filter fun member => Collation.equal member.name name

variable [Mysql]

/-- `INSERT` of a user; beside `email` the generated `email_lower` is unique. -/
def insertUser (user : UserModel) (users : Users) : Except Raised Users :=
  if !([.guid user.id, .varchar 150 user.name, .varchar 255 user.email,
      .varchar 255 (Mysql.lower user.email), .text user.passwordHash,
      .varchar 50 user.role, .boolean user.isActive] : List Cell).all Cell.storable then
    .error .dataError
  else if users.rows.any fun other =>
      Collation.equal (Mysql.lower other.email) (Mysql.lower user.email) then
    .error .integrityError
  else
    match users.insert? user with
    | some next => .ok next
    | none => .error .integrityError

def addAdmin (settings : SeedSettings) (generated : Generated) (store : Store) :
    Except Raised Store := do
  let passwordHash ← generated.hashPassword settings.seedAdminPassword
  let users ← insertUser (admin settings generated.user passwordHash) store.users
  return { store with users }

def seedAdminUser (settings : SeedSettings) (generated : Generated) : Store → Except Raised Store :=
  Query.ensure .multipleResultsFound (usersByEmail (adminEmail settings))
    (addAdmin settings generated)

def addTechnology (generated : Generated) (entry : String × String) (store : Store) :
    Except Raised Store := do
  let technologies ← TechnologyRepository.repository.insertRow (fun _ => true)
    (TechnologyRepository.repository.construct (generated.technology entry.1) (catalogued entry))
    store.technologies
  return { store with technologies }

/-- One round of `seed_technologies`. -/
def seedTechnology (generated : Generated) (entry : String × String) :
    Store → Except Raised Store :=
  Query.ensure .multipleResultsFound (technologiesByName entry.1) (addTechnology generated entry)

def seedTechnologies (generated : Generated) (store : Store) : Except Raised Store :=
  technologyCatalog.foldlM (fun store entry => seedTechnology generated entry store) store

def addCompany (generated : Generated) (store : Store) : Except Raised Store := do
  let companies ← CompanyRepository.repository.insertRow (fun _ => true)
    (CompanyRepository.repository.construct generated.company Singleton.baseline) store.companies
  return { store with companies }

def seedCompany (generated : Generated) : Store → Except Raised Store :=
  Query.ensure .multipleResultsFound (firstCompany generated.ties) (addCompany generated)

def addFounder (settings : SeedSettings) (generated : Generated) (store : Store) :
    Except Raised Store := do
  let adminUser ← Query.scalarOne .noResultFound .multipleResultsFound
    (usersByEmail (adminEmail settings) store)
  let teamMembers ← TeamMemberRepository.repository.insertRow
    (TeamMemberRepository.referenced store.users)
    (TeamMemberRepository.repository.construct generated.teamMember (founder adminUser.id))
    store.teamMembers
  return { store with teamMembers }

def seedTeam (settings : SeedSettings) (generated : Generated) : Store → Except Raised Store :=
  Query.ensure .multipleResultsFound (membersByName founderName) (addFounder settings generated)

/-- The four seeders in one session. -/
def seed (settings : SeedSettings) (generated : Generated) (store : Store) :
    Except Raised Store := do
  let store ← seedAdminUser settings generated store
  let store ← seedTechnologies generated store
  let store ← seedCompany generated store
  seedTeam settings generated store

/-- `main`; when something is raised, nothing has been committed. -/
def main (settings : SeedSettings) (generated : Generated) : Program Store Raised Unit :=
  Program.transact fun store => (seed settings generated store).map fun next => ((), next)

/-- `main`, as often as there are environments. -/
def mains (settings : SeedSettings) : List Generated → Program Store Raised Unit
  | [] => pure ()
  | generated :: rest => do
      main settings generated
      mains settings rest

variable {settings : SeedSettings} {generated : Generated} {entry : String × String}
  {store next : Store}

omit [PyUnicode] in
theorem insertUser_eq_ok {user : UserModel} {users added : Users}
    (inserted : insertUser user users = .ok added) : added.rows = users.rows ++ [user] := by
  simp only [insertUser] at inserted
  split at inserted
  next => cases inserted
  next =>
    split at inserted
    next => cases inserted
    next =>
      split at inserted
      next made found =>
        cases inserted
        exact (Table.insert?_eq_some.mp found).2
      next => cases inserted

omit [PyUnicode] [Collation] in
theorem insertRow_eq_ok {Model Input Entity : Type} {repo : Repository Model Input Entity}
    {referenced : Model → Bool} {model : Model} {rows added : repo.Rows}
    (inserted : repo.insertRow referenced model rows = .ok added) :
    added.rows = rows.rows ++ [repo.stored model] :=
  (Table.insert?_eq_some.mp (Repository.flush_eq_ok inserted).2).2

theorem addAdmin_eq_ok (added : addAdmin settings generated store = .ok next) :
    ∃ users user, next = { store with users } ∧ users.rows = store.users.rows ++ [user] ∧
      user.email = adminEmail settings := by
  rcases Result.bind_eq_ok.mp added with ⟨passwordHash, _, added⟩
  rcases Result.bind_eq_ok.mp added with ⟨users, inserted, equal⟩
  cases equal
  exact ⟨users, _, rfl, insertUser_eq_ok inserted, rfl⟩

theorem addTechnology_eq_ok (added : addTechnology generated entry store = .ok next) :
    ∃ technologies technology, next = { store with technologies } ∧
      technologies.rows = store.technologies.rows ++ [technology] ∧
        (technology.name, technology.category) = (entry.1, some entry.2) := by
  rcases Result.bind_eq_ok.mp added with ⟨technologies, inserted, equal⟩
  cases equal
  exact ⟨technologies, _, rfl, insertRow_eq_ok inserted, rfl⟩

theorem addCompany_eq_ok (added : addCompany generated store = .ok next) :
    ∃ companies company, next = { store with companies } ∧
      companies.rows = store.companies.rows ++ [company] := by
  rcases Result.bind_eq_ok.mp added with ⟨companies, inserted, equal⟩
  cases equal
  exact ⟨companies, _, rfl, insertRow_eq_ok inserted⟩

theorem addFounder_eq_ok (added : addFounder settings generated store = .ok next) :
    ∃ teamMembers member user, next = { store with teamMembers } ∧
      teamMembers.rows = store.teamMembers.rows ++ [member] ∧ member.name = founderName ∧
        usersByEmail (adminEmail settings) store = [user] ∧ member.userId = some user.id := by
  rcases Result.bind_eq_ok.mp added with ⟨user, found, added⟩
  rcases Result.bind_eq_ok.mp added with ⟨teamMembers, inserted, equal⟩
  cases equal
  exact ⟨teamMembers, _, user, rfl, insertRow_eq_ok inserted, rfl,
    Query.scalarOne_eq_ok.mp found, rfl⟩

/-- Everything that is seeded can be found. -/
structure Settled (settings : SeedSettings) (store : Store) : Prop where
  admin : (usersByEmail (adminEmail settings) store).length = 1
  technologies : ∀ entry ∈ technologyCatalog, (technologiesByName entry.1 store).length = 1
  company : store.companies.rows ≠ []
  founder : (membersByName founderName store).length = 1

omit [PyUnicode] [Collation] [Mysql] in
/-- A row that has been added is found if no other one was. -/
theorem found_added {Row : Type} {rows added : List Row} {row : Row} {selects : Row → Bool}
    (missing : rows.filter selects = []) (appended : added = rows ++ [row])
    (own : selects row = true) : (added.filter selects).length = 1 := by
  rw [appended, List.filter_append, missing, List.filter_singleton, own]
  rfl

theorem seedAdminUser_rests : RestsOn (seedAdminUser settings generated)
    fun store => (usersByEmail (adminEmail settings) store).length = 1 := by
  apply Query.ensure_rests
  intro store next missing added
  rcases addAdmin_eq_ok added with ⟨users, user, rfl, rows, email⟩
  apply found_added missing rows
  rw [email]
  exact beq_self_eq_true _

theorem seedTechnology_rests : RestsOn (seedTechnology generated entry)
    fun store => (technologiesByName entry.1 store).length = 1 := by
  apply Query.ensure_rests
  intro store next missing added
  rcases addTechnology_eq_ok added with ⟨technologies, technology, rfl, rows, named⟩
  apply found_added missing rows
  rw [(Prod.mk.inj named).1]
  exact beq_self_eq_true _

omit [Mysql] in
/-- There is a first company if there is any. -/
theorem firstCompany_single {ties : Ties} :
    (firstCompany ties store).length = 1 ↔ store.companies.rows ≠ [] := by
  rw [firstCompany, CompanyRepository.selectFirst, List.length_take, Query.orderBy,
    List.length_insertionSort]
  cases store.companies.rows with
  | nil => simp
  | cons row rest => simp

theorem seedCompany_rests : RestsOn (seedCompany generated)
    fun store => store.companies.rows ≠ [] := by
  have rests : RestsOn (seedCompany generated) fun store =>
      (firstCompany generated.ties store).length = 1 := by
    apply Query.ensure_rests
    intro store next _ added
    rcases addCompany_eq_ok added with ⟨companies, company, rfl, rows⟩
    rw [firstCompany_single, rows]
    exact List.append_ne_nil_of_right_ne_nil _ (List.cons_ne_nil _ _)
  exact rests.congr fun store => firstCompany_single

theorem seedTeam_rests : RestsOn (seedTeam settings generated)
    fun store => (membersByName founderName store).length = 1 := by
  apply Query.ensure_rests
  intro store next missing added
  rcases addFounder_eq_ok added with ⟨teamMembers, member, _, rfl, rows, name, _⟩
  apply found_added missing rows
  rw [name]
  exact beq_self_eq_true _

/-- A row for one name leaves the rows of the others. -/
theorem seedTechnology_keeps (name : String) : Keeps (seedTechnology generated entry)
    fun store => (technologiesByName name store).length = 1 := by
  apply Query.ensure_keeps
  intro store next added single
  rcases addTechnology_eq_ok added with ⟨technologies, technology, rfl, rows, _⟩
  have unique : (technologies.rows.filter fun row => Collation.equal row.name name).length ≤ 1 := by
    apply Table.length_filter_le_one
    intro first second firstNamed secondNamed
    exact Bool.or_eq_true_iff.mpr (.inr (Collation.equal_trans firstNamed secondNamed))
  have more : (technologiesByName name store).length ≤
      (technologies.rows.filter fun row => Collation.equal row.name name).length := by
    rw [rows, List.filter_append, List.length_append]
    exact Nat.le_add_right _ _
  exact Nat.le_antisymm unique (single ▸ more)

theorem seedTechnologies_rests : RestsOn (seedTechnologies generated)
    fun store => ∀ entry ∈ technologyCatalog, (technologiesByName entry.1 store).length = 1 :=
  RestsOn.foldlM (fun _ => seedTechnology_rests) fun _ other => seedTechnology_keeps other.1

variable {condition : Store → Prop}

/-- What does not look at the technologies stays. -/
theorem seedTechnologies_keeps
    (apart : ∀ store technologies, condition store → condition { store with technologies }) :
    Keeps (seedTechnologies generated) condition := by
  apply Keeps.foldlM
  intro entry _
  apply Query.ensure_keeps
  intro store next added holds
  rcases addTechnology_eq_ok added with ⟨technologies, technology, rfl, _⟩
  exact apart store technologies holds

theorem seedCompany_keeps
    (apart : ∀ store companies, condition store → condition { store with companies }) :
    Keeps (seedCompany generated) condition := by
  apply Query.ensure_keeps
  intro store next added holds
  rcases addCompany_eq_ok added with ⟨companies, company, rfl, _⟩
  exact apart store companies holds

theorem seedTeam_keeps
    (apart : ∀ store teamMembers, condition store → condition { store with teamMembers }) :
    Keeps (seedTeam settings generated) condition := by
  apply Query.ensure_keeps
  intro store next added holds
  rcases addFounder_eq_ok added with ⟨teamMembers, member, user, rfl, _⟩
  exact apart store teamMembers holds

/-- A run of the seeders leaves nothing to seed, and where nothing is left it adds nothing. -/
theorem seed_rests : RestsOn (seed settings generated) (Settled settings) := by
  have founded : RestsOn
      (fun store => seedCompany generated store >>= seedTeam settings generated)
      fun store => store.companies.rows ≠ [] ∧ (membersByName founderName store).length = 1 :=
    seedCompany_rests.andThen seedTeam_rests (seedTeam_keeps fun _ _ holds => holds)
  have listed : RestsOn
      (fun store => seedTechnologies generated store >>= fun store =>
        seedCompany generated store >>= seedTeam settings generated)
      fun store => (∀ entry ∈ technologyCatalog, (technologiesByName entry.1 store).length = 1) ∧
        store.companies.rows ≠ [] ∧ (membersByName founderName store).length = 1 := by
    apply seedTechnologies_rests.andThen founded
    exact (seedCompany_keeps fun _ _ holds => holds).andThen
      (seedTeam_keeps fun _ _ holds => holds)
  have administered : RestsOn (seed settings generated) fun store =>
      (usersByEmail (adminEmail settings) store).length = 1 ∧
        (∀ entry ∈ technologyCatalog, (technologiesByName entry.1 store).length = 1) ∧
          store.companies.rows ≠ [] ∧ (membersByName founderName store).length = 1 := by
    apply seedAdminUser_rests.andThen listed
    exact (seedTechnologies_keeps fun _ _ holds => holds).andThen
      ((seedCompany_keeps fun _ _ holds => holds).andThen
        (seedTeam_keeps fun _ _ holds => holds))
  apply administered.congr
  intro store
  constructor
  · rintro ⟨admin, technologies, company, founder⟩
    exact ⟨admin, technologies, company, founder⟩
  · intro settled
    exact ⟨settled.admin, settled.technologies, settled.company, settled.founder⟩

/-! ## What a run adds -/

/-- What a run of `main` makes of the tables. -/
structure Seeds (settings : SeedSettings) (before after : Store) : Prop where
  users : after.users.rows = before.users.rows ∨
    (∀ row ∈ before.users.rows, Collation.equal row.email (adminEmail settings) = false) ∧
      ∃ user, after.users.rows = before.users.rows ++ [user] ∧ user.email = adminEmail settings
  /-- At most one for each name of the catalogue that was not there. -/
  technologies : ∃ added, after.technologies.rows = before.technologies.rows ++ added ∧
    (added.map fun row => (row.name, row.category)).Sublist
      (technologyCatalog.map fun entry => (entry.1, some entry.2)) ∧
    ∀ row ∈ added, ∀ other ∈ before.technologies.rows, Collation.equal other.name row.name = false
  companies : after.companies.rows = before.companies.rows ∨
    before.companies.rows = [] ∧ ∃ company, after.companies.rows = [company]
  teamMembers : after.teamMembers.rows = before.teamMembers.rows ∨
    (∀ row ∈ before.teamMembers.rows, Collation.equal row.name founderName = false) ∧
      ∃ member, after.teamMembers.rows = before.teamMembers.rows ++ [member] ∧
        member.name = founderName ∧ ∃ user ∈ after.users.rows,
          Collation.equal user.email (adminEmail settings) = true ∧ member.userId = some user.id
  others : { after with
    users := before.users, technologies := before.technologies, companies := before.companies,
    teamMembers := before.teamMembers } = before

theorem seedAdminUser_eq_ok (seeded : seedAdminUser settings generated store = .ok next) :
    ∃ users, next = { store with users } ∧ (users.rows = store.users.rows ∨
      (∀ row ∈ store.users.rows, Collation.equal row.email (adminEmail settings) = false) ∧
        ∃ user, users.rows = store.users.rows ++ [user] ∧ user.email = adminEmail settings) := by
  rcases Query.ensure_eq_ok.mp seeded with ⟨_, rfl⟩ | ⟨missing, added⟩
  · exact ⟨next.users, rfl, .inl rfl⟩
  · rcases addAdmin_eq_ok added with ⟨users, user, rfl, rows, email⟩
    refine ⟨users, rfl, .inr ⟨?_, user, rows, email⟩⟩
    intro row member
    exact Bool.eq_false_of_not_eq_true (List.filter_eq_nil_iff.mp missing row member)

theorem foldlM_seedTechnology_eq_ok {entries : List (String × String)}
    (seeded : entries.foldlM (fun store entry => seedTechnology generated entry store) store =
      .ok next) :
    ∃ technologies added, next = { store with technologies } ∧
      technologies.rows = store.technologies.rows ++ added ∧
      (added.map fun row => (row.name, row.category)).Sublist
        (entries.map fun entry => (entry.1, some entry.2)) ∧
      ∀ row ∈ added, ∀ other ∈ store.technologies.rows,
        Collation.equal other.name row.name = false := by
  induction entries generalizing store with
  | nil =>
      cases seeded
      refine ⟨_, [], rfl, (List.append_nil _).symm, List.Sublist.refl _, ?_⟩
      intro row member
      cases member
  | cons entry rest ih =>
      rw [List.foldlM_cons] at seeded
      rcases Result.bind_eq_ok.mp seeded with ⟨middle, first, seeded⟩
      rcases ih seeded with ⟨technologies, added, rfl, rows, listed, missing⟩
      rcases Query.ensure_eq_ok.mp first with ⟨_, rfl⟩ | ⟨absent, inserted⟩
      · exact ⟨technologies, added, rfl, rows, listed.cons _, missing⟩
      · rcases addTechnology_eq_ok inserted with ⟨middle, technology, rfl, appended, named⟩
        refine ⟨technologies, technology :: added, rfl, ?_, ?_, ?_⟩
        · rw [rows, appended, List.append_assoc]
          rfl
        · rw [List.map_cons, List.map_cons, named]
          exact listed.cons_cons _
        · intro row member other earlier
          rcases List.mem_cons.mp member with rfl | later
          · rw [(Prod.mk.inj named).1]
            exact Bool.eq_false_of_not_eq_true (List.filter_eq_nil_iff.mp absent other earlier)
          · apply missing row later
            rw [appended]
            exact List.mem_append_left _ earlier

theorem seedCompany_eq_ok (seeded : seedCompany generated store = .ok next) :
    ∃ companies, next = { store with companies } ∧ (companies.rows = store.companies.rows ∨
      store.companies.rows = [] ∧ ∃ company, companies.rows = [company]) := by
  rcases Query.ensure_eq_ok.mp seeded with ⟨_, rfl⟩ | ⟨missing, added⟩
  · exact ⟨next.companies, rfl, .inl rfl⟩
  · rcases addCompany_eq_ok added with ⟨companies, company, rfl, rows⟩
    have empty : store.companies.rows = [] := by
      by_contra present
      have single : (firstCompany generated.ties store).length = 1 :=
        firstCompany_single.mpr present
      rw [missing] at single
      cases single
    rw [empty] at rows
    exact ⟨companies, rfl, .inr ⟨empty, company, rows⟩⟩

theorem seedTeam_eq_ok (seeded : seedTeam settings generated store = .ok next) :
    ∃ teamMembers, next = { store with teamMembers } ∧
      (teamMembers.rows = store.teamMembers.rows ∨
        (∀ row ∈ store.teamMembers.rows, Collation.equal row.name founderName = false) ∧
          ∃ member, teamMembers.rows = store.teamMembers.rows ++ [member] ∧
            member.name = founderName ∧ ∃ user ∈ store.users.rows,
              Collation.equal user.email (adminEmail settings) = true ∧
                member.userId = some user.id) := by
  rcases Query.ensure_eq_ok.mp seeded with ⟨_, rfl⟩ | ⟨missing, added⟩
  · exact ⟨next.teamMembers, rfl, .inl rfl⟩
  · rcases addFounder_eq_ok added with ⟨teamMembers, member, user, rfl, rows, name, found, id⟩
    have held := List.mem_filter.mp (found ▸ List.mem_singleton_self user)
    refine ⟨teamMembers, rfl, .inr ⟨?_, member, rows, name, user, held.1, held.2, id⟩⟩
    intro row stored
    exact Bool.eq_false_of_not_eq_true (List.filter_eq_nil_iff.mp missing row stored)

theorem seed_seeds (seeded : seed settings generated store = .ok next) :
    Seeds settings store next := by
  rcases Result.bind_eq_ok.mp seeded with ⟨first, administered, seeded⟩
  rcases Result.bind_eq_ok.mp seeded with ⟨second, catalogued, seeded⟩
  rcases Result.bind_eq_ok.mp seeded with ⟨third, founded, seeded⟩
  rcases seedAdminUser_eq_ok administered with ⟨users, rfl, usersAdded⟩
  rcases foldlM_seedTechnology_eq_ok catalogued with ⟨technologies, added, rfl, listed⟩
  rcases seedCompany_eq_ok founded with ⟨companies, rfl, companiesAdded⟩
  rcases seedTeam_eq_ok seeded with ⟨teamMembers, rfl, membersAdded⟩
  exact ⟨usersAdded, ⟨added, listed⟩, companiesAdded, membersAdded, rfl⟩

theorem main_eq_ok (returned : main settings generated store = (.ok (), next)) :
    seed settings generated store = .ok next := by
  simp only [main, Program.transact] at returned
  cases seeded : seed settings generated store with
  | error raised =>
      rw [seeded] at returned
      cases returned
  | ok last =>
      rw [seeded] at returned
      cases returned
      rfl

theorem main_ended (returned : (main settings generated store).1.isOk = true) :
    main settings generated store = (.ok (), (main settings generated store).2) := by
  rcases Result.isOk_iff.mp returned with ⟨_, ended⟩
  exact Prod.ext ended rfl

theorem main_settled (settled : Settled settings store) :
    main settings generated store = (.ok (), store) := by
  simp only [main, Program.transact, seed_rests.rests store settled]
  rfl

theorem mains_settled (settled : Settled settings store) (again : List Generated) :
    mains settings again store = (.ok (), store) := by
  induction again with
  | nil => rfl
  | cons generated rest ih =>
      change Program.bind (main settings generated) (fun _ => mains settings rest) store = _
      rw [Program.bind, main_settled settled]
      exact ih

/-- A run of `main` that returns has added only rows that its lookups did not find, and changed
or deleted none; each lookup finds its row afterwards, and any further runs return and change
nothing. -/
theorem seed_idempotent (returned : main settings generated store = (.ok (), next)) :
    Seeds settings store next ∧ Settled settings next ∧
      ∀ again, mains settings again next = (.ok (), next) := by
  have seeded := main_eq_ok returned
  have settled := seed_rests.settles store next seeded
  exact ⟨seed_seeds seeded, settled, mains_settled settled⟩

end

namespace Sample

open Content.Sample ProjectRepository.Sample

attribute [local instance] unicode collation mysql

def settings : SeedSettings := ⟨"Admin", " Admin@CH-Tech.dev ", "changeme"⟩

def generated : Generated where
  hashPassword _ := .ok "hash"
  user := ⟨1, 0, 0⟩
  technology name := ⟨(name.toList.headD ' ').toNat, 0, 0⟩
  company := ⟨20, 0, 0⟩
  teamMember := ⟨21, 0, 0⟩
  ties _ := 0

/-- The administrator and one technology are there already. -/
def partly : Store where
  toDb := { Db.empty (Table.singleton author) with technologies := Table.singleton python }
  refreshTokens := .empty

def seeded : Store := (main settings generated partly).2

theorem seed_idempotent_partly :
    Seeds settings partly seeded ∧ Settled settings seeded ∧
      ∀ again, mains settings again seeded = (.ok (), seeded) := by
  have returned : (main settings generated partly).1.isOk = true := by decide +kernel
  unfold seeded
  exact seed_idempotent (main_ended returned)

/-- The other technologies are added, and a founder with the account that was there. -/
example : seeded.users.rows = [author] ∧
    seeded.technologies.rows.map TechnologyModel.name =
      ["Python", "FastAPI", "Next.js", "Docker", "MySQL"] ∧
    seeded.teamMembers.rows.map TeamMemberModel.userId = [some 7] := by decide +kernel

end Sample

end ChTech.Seed
