import ChTech.Auth.Revocation

/-!
# Purging

A purge selects ids and deletes the rows later, while logins and refreshes go on.  The
rows it selects are spent: revoked, or expired for longer than the retention.  No
refresh that is quick enough can use such a row, so a run and the same run without its
purges go through the same states as far as the other executions can tell.
-/

namespace ChTech.Auth

open Foundation RefreshTokenRepository

section Simulation

variable [PyUnicode] [Collation] [Crypto]

/-- A label of a `Login` or a `RefreshAccessToken`, or of the environment. -/
def notPurge : Label → Bool
  | .call _ .purge | .purge _ => false
  | _ => true

/-- What remains of an execution when purges are left out. -/
def Proc.unpurged : Proc → Proc
  | .purge _ => .idle
  | proc => proc

/-- The clock reading of a refresh that is about to revoke its token. -/
def Proc.revoking : Proc → Option Instant
  | .refresh _ (.revokeIfActive now) => some now
  | _ => none

/-- No refresh waits longer than the retention for its revocation. -/
def Prompt (settings : Settings) (state : State) : Label → Prop
  | .advance pid => (state.procs pid).revoking.all fun now =>
      decide (state.clock ≤ now + settings.refreshTokenRetention)
  | _ => True

/-- The label starts a `Logout`. -/
def startsLogout : Label → Bool
  | .call _ (.logout _) => true
  | _ => false

/-- A run of `Login`, `RefreshAccessToken` and `PurgeExpiredRefreshTokens`, with fresh
tokens and ids and prompt refreshes. -/
def Purging (settings : Settings) (state : State) (label : Label) : Prop :=
  FreshTokens state label ∧ FreshIds state label ∧ Prompt settings state label ∧
    startsLogout label = false

instance (settings : Settings) (state : State) :
    (label : Label) → Decidable (Prompt settings state label)
  | .advance _ => inferInstanceAs (Decidable (_ = true))
  | .tick _ | .users _ | .call _ _ | .generate _ _ | .create _ _ | .purge _ => .isTrue trivial

instance (settings : Settings) (state : State) (label : Label) :
    Decidable (Purging settings state label) :=
  inferInstanceAs (Decidable (_ ∧ _ ∧ _ ∧ _))

/-- Revoked, or expired for longer than the retention. -/
def Spent (settings : Settings) (clock : Instant) (row : RefreshToken) : Prop :=
  row.revokedAt ≠ none ∨ row.expiresAt + settings.refreshTokenRetention < clock

/-- The two runs agree, but for spent rows that the purges have deleted. -/
structure Shadows (settings : Settings) (left right : State) : Prop where
  clock : right.clock = left.clock
  users : right.users = left.users
  hashes : right.hashes = left.hashes
  ids : right.ids = left.ids
  procs : ∀ pid, right.procs pid = (left.procs pid).unpurged
  noLogout : ∀ pid call pc, left.procs pid ≠ .logout call pc
  rows : ∀ row ∈ left.tokens.rows, row ∈ right.tokens.rows
  spent : ∀ row ∈ right.tokens.rows, row ∈ left.tokens.rows ∨ Spent settings left.clock row
  rowIds : ∀ row ∈ right.tokens.rows, row.id ∈ left.ids
  cutoff : ∀ pid cutoff, left.procs pid = .purge (.select cutoff) →
    cutoff + settings.refreshTokenRetention ≤ left.clock
  selected : ∀ pid ids, left.procs pid = .purge (.delete ids) → ∀ id ∈ ids,
    id ∈ left.ids ∧ ∀ row ∈ right.tokens.rows, row.id = id → Spent settings left.clock row

variable {settings : Settings} {left right next : State}

omit [PyUnicode] [Collation] [Crypto] in
theorem Spent.later {clock later : Instant} {row : RefreshToken}
    (spent : Spent settings clock row) (forward : clock ≤ later) : Spent settings later row := by
  rcases spent with revoked | expired
  · exact .inl revoked
  · exact .inr (Int.lt_of_lt_of_le expired forward)

omit [PyUnicode] [Collation] [Crypto] in
theorem Spent.withRevokedAt {clock now : Instant} {row : RefreshToken} (id : UUID)
    (spent : Spent settings clock row) :
    Spent settings clock (withRevokedAt id (some now) row) := by
  rcases spent with revoked | expired
  · refine .inl ?_
    rw [withRevokedAt_revokedAt]
    split
    · simp
    · exact revoked
  · refine .inr ?_
    rw [withRevokedAt_expiresAt]
    exact expired

omit [PyUnicode] [Collation] [Crypto] in
/-- A spent row is of no use to a refresh that has read the clock recently enough. -/
theorem Spent.not_selected {clock now : Instant} {row : RefreshToken} {hash : String}
    (spent : Spent settings clock row) (prompt : clock ≤ now + settings.refreshTokenRetention) :
    selectsActive hash now row = false := by
  rw [Bool.eq_false_iff]
  intro selected
  rcases selectsActive_iff.mp selected with ⟨_, unrevoked, live⟩
  rcases spent with revoked | expired
  · exact revoked unrevoked
  · have past : row.expiresAt < now :=
      Int.lt_of_add_lt_add_right (Int.lt_of_lt_of_le expired prompt)
    exact Int.lt_irrefl _ (Int.lt_trans past live)

omit [PyUnicode] [Collation] [Crypto] in
theorem spent_of_purgeable {clock cutoff : Instant} {row : RefreshToken}
    (chosen : purgeable cutoff row = true)
    (past : cutoff + settings.refreshTokenRetention ≤ clock) : Spent settings clock row := by
  simp only [purgeable] at chosen
  rcases (Bool.or_eq_true _ _).mp chosen with expired | revoked
  · have expired : row.expiresAt < cutoff := of_decide_eq_true expired
    exact .inr (Int.lt_of_lt_of_le (Int.add_lt_add_right expired _) past)
  · cases recorded : row.revokedAt with
    | none => simp [recorded] at revoked
    | some revokedAt => exact .inl (by simp [recorded])

namespace Shadows

omit [PyUnicode] [Crypto] in
/-- An execution that is not a purge stands at the same place in both runs. -/
theorem same (shadows : Shadows settings left right) {pid : Nat} {proc : Proc}
    (present : left.procs pid = proc) (other : proc.unpurged = proc) :
    right.procs pid = proc := by
  rw [shadows.procs, present, other]

omit [PyUnicode] [Crypto] in
/-- A refresh finds the same row in both runs. -/
theorem revokeIfActive_eq (shadows : Shadows settings left right) {now : Instant}
    (prompt : left.clock ≤ now + settings.refreshTokenRetention) (hash : String) :
    right.tokens.find? (selectsActive hash now) = left.tokens.find? (selectsActive hash now) := by
  cases found : left.tokens.find? (selectsActive hash now) with
  | none =>
      refine Table.find?_eq_none.mpr ?_
      intro row member
      rcases shadows.spent row member with kept | spent
      · exact Table.find?_eq_none.mp found row kept
      · exact spent.not_selected prompt
  | some row =>
      rcases Table.mem_of_find? found with ⟨member, chosen⟩
      refine Table.find?_of_unique (shadows.rows row member) chosen ?_
      intro other otherMem otherChosen
      exact eq_of_tokenHash otherMem (shadows.rows row member)
        ((selectsActive_iff.mp otherChosen).1.trans (selectsActive_iff.mp chosen).1.symm)

omit [PyUnicode] [Crypto] in
/-- Both runs move one execution, to the same place. -/
theorem moved (shadows : Shadows settings left right) {leftUsers rightUsers : Users}
    (users : rightUsers = leftUsers) (pid : Nat) {leftProc rightProc : Proc}
    (same : rightProc = leftProc) (other : leftProc.unpurged = leftProc)
    (noLogout : ∀ call pc, leftProc ≠ .logout call pc) :
    Shadows settings { left with users := leftUsers, procs := left.move pid leftProc }
      { right with users := rightUsers, procs := right.move pid rightProc } :=
  { shadows with
    users := users
    procs := by
      intro mover
      simp only [move_eq]
      split
      · rw [same, other]
      · exact shadows.procs mover
    noLogout := by
      intro mover call pc present
      simp only [move_eq] at present
      split at present
      · exact noLogout call pc present
      · exact shadows.noLogout mover call pc present
    cutoff := by
      intro mover cutoff present
      simp only [move_eq] at present
      split at present
      · rw [present] at other
        cases other
      · exact shadows.cutoff mover cutoff present
    selected := by
      intro mover ids present
      simp only [move_eq] at present
      split at present
      · rw [present] at other
        cases other
      · exact shadows.selected mover ids present }

omit [PyUnicode] [Crypto] in
/-- Both runs revoke the same row. -/
theorem revoked (shadows : Shadows settings left right) (id : UUID) (now : Instant) :
    Shadows settings { left with tokens := setRevokedAt left.tokens id (some now) }
      { right with tokens := setRevokedAt right.tokens id (some now) } :=
  { shadows with
    rows := by
      intro row member
      rcases mem_setRevokedAt.mp member with ⟨stored, storedMem, rfl⟩
      exact mem_setRevokedAt.mpr ⟨stored, shadows.rows stored storedMem, rfl⟩
    spent := by
      intro row member
      rcases mem_setRevokedAt.mp member with ⟨stored, storedMem, rfl⟩
      rcases shadows.spent stored storedMem with kept | spent
      · exact .inl (mem_setRevokedAt.mpr ⟨stored, kept, rfl⟩)
      · exact .inr (spent.withRevokedAt id)
    rowIds := by
      intro row member
      rcases mem_setRevokedAt.mp member with ⟨stored, storedMem, rfl⟩
      rw [withRevokedAt_id]
      exact shadows.rowIds stored storedMem
    selected := by
      intro pid ids present chosen member
      rcases shadows.selected pid ids present chosen member with ⟨known, spent⟩
      refine ⟨known, ?_⟩
      intro row rowMem same
      rcases mem_setRevokedAt.mp rowMem with ⟨stored, storedMem, rfl⟩
      rw [withRevokedAt_id] at same
      exact (spent stored storedMem same).withRevokedAt id }

omit [PyUnicode] [Crypto] in
/-- Both runs store the same row. -/
theorem stored (shadows : Shadows settings left right) {row : RefreshToken}
    {leftTokens rightTokens : RefreshTokens}
    (leftRows : leftTokens.rows = left.tokens.rows ++ [row])
    (rightRows : rightTokens.rows = right.tokens.rows ++ [row]) (fresh : row.id ∉ left.ids) :
    Shadows settings { left with tokens := leftTokens, ids := row.id :: left.ids }
      { right with tokens := rightTokens, ids := row.id :: right.ids } :=
  { shadows with
    ids := congrArg (List.cons row.id) shadows.ids
    rows := by
      intro stored member
      simp only [leftRows, rightRows, List.mem_append] at member ⊢
      exact member.imp_left (shadows.rows stored)
    spent := by
      intro stored member
      simp only [leftRows, rightRows, List.mem_append] at member ⊢
      rcases member with old | new
      · exact (shadows.spent stored old).imp_left .inl
      · exact .inl (.inr new)
    rowIds := by
      intro stored member
      simp only [rightRows, List.mem_append] at member
      rcases member with old | new
      · exact List.mem_cons_of_mem _ (shadows.rowIds stored old)
      · rw [List.mem_singleton.mp new]
        exact List.mem_cons_self
    selected := by
      intro pid ids present chosen member
      rcases shadows.selected pid ids present chosen member with ⟨known, spent⟩
      refine ⟨List.mem_cons_of_mem _ known, ?_⟩
      intro stored storedMem same
      simp only [rightRows, List.mem_append] at storedMem
      rcases storedMem with old | new
      · exact spent stored old same
      · rw [List.mem_singleton.mp new] at same
        rw [same] at fresh
        exact absurd known fresh }

omit [PyUnicode] [Crypto] in
theorem tick (shadows : Shadows settings left right) {clock : Instant}
    (forward : left.clock ≤ clock) :
    Shadows settings { left with clock } { right with clock } :=
  { shadows with
    clock := rfl
    spent := fun row member =>
      (shadows.spent row member).imp_right fun spent => spent.later forward
    cutoff := fun pid cutoff present =>
      Int.le_trans (shadows.cutoff pid cutoff present) forward
    selected := fun pid ids present id chosen =>
      (shadows.selected pid ids present id chosen).imp_right fun spent row member same =>
        (spent row member same).later forward }

/-- A login does the same in both runs. -/
theorem advanceLogin (shadows : Shadows settings left right) {pid : Nat} {call : LoginCall}
    {pc : LoginPc} (stepped : left.advanceLogin pid call pc = some next) :
    ∃ next', right.advanceLogin pid call pc = some next' ∧ Shadows settings next next' := by
  cases pc with
  | getByEmail =>
      cases stepped
      exact ⟨_, rfl, shadows.moved shadows.users pid (by rw [shadows.users])
        rfl (by simp)⟩
  | readClock user =>
      cases stepped
      exact ⟨_, rfl, shadows.moved shadows.users pid (by rw [shadows.clock]) rfl (by simp)⟩
  | recordLogin user now =>
      have alike : UserRepository.recordLogin right.users user.id now right.clock =
          UserRepository.recordLogin left.users user.id now left.clock := by
        rw [shadows.users, shadows.clock]
      simp only [State.advanceLogin, alike] at stepped ⊢
      split at stepped
      next raised refused =>
        cases stepped
        exact ⟨_, rfl, shadows.moved shadows.users pid rfl rfl (by simp)⟩
      next users recorded =>
        cases stepped
        exact ⟨_, rfl, shadows.moved rfl pid rfl rfl (by simp)⟩
  | issue pc => cases stepped

/-- A prompt refresh does the same in both runs. -/
theorem advanceRefresh (shadows : Shadows settings left right) {pid : Nat} {call : RefreshCall}
    {pc : RefreshPc} (present : left.procs pid = .refresh call pc)
    (prompt : Prompt settings left (.advance pid))
    (stepped : left.advanceRefresh pid call pc = some next) :
    ∃ next', right.advanceRefresh pid call pc = some next' ∧ Shadows settings next next' := by
  cases pc with
  | readClock =>
      cases stepped
      exact ⟨_, rfl, shadows.moved shadows.users pid (by rw [shadows.clock]) rfl (by simp)⟩
  | revokeIfActive now =>
      simp only [Prompt, present, Proc.revoking, Option.all_some, decide_eq_true_eq] at prompt
      have alike := shadows.revokeIfActive_eq prompt (hashRefreshToken call.rawRefreshToken)
      simp only [State.advanceRefresh, RefreshTokenRepository.revokeIfActive, alike] at stepped ⊢
      cases found : left.tokens.find?
          (selectsActive (hashRefreshToken call.rawRefreshToken) now) with
      | none =>
          simp only [found] at stepped ⊢
          cases stepped
          exact ⟨_, rfl, shadows.moved shadows.users pid rfl rfl (by simp)⟩
      | some row =>
          simp only [found] at stepped ⊢
          cases stepped
          exact ⟨_, rfl, (shadows.revoked row.id now).moved shadows.users pid rfl rfl (by simp)⟩
  | getById token =>
      cases stepped
      exact ⟨_, rfl, shadows.moved shadows.users pid (by rw [shadows.users]) rfl (by simp)⟩
  | issue pc => cases stepped

omit [PyUnicode] [Crypto] in
theorem generated (shadows : Shadows settings left right) (hash : String) :
    Shadows settings { left with hashes := hash :: left.hashes }
      { right with hashes := hash :: right.hashes } :=
  { shadows with hashes := congrArg (List.cons hash) shadows.hashes }

omit [PyUnicode] [Crypto] in
theorem issuing_eq (shadows : Shadows settings left right) (pid : Nat) :
    State.issuing (right.procs pid) = State.issuing (left.procs pid) := by
  rw [shadows.procs]
  cases left.procs pid <;> rfl

omit [PyUnicode] [Collation] [Crypto] in
/-- An execution in `_issue_refresh_token` goes on as a login or a refresh. -/
theorem resume_kept {proc : Proc} {client : Client} {pc : IssuePc} {resume : IssuePc → Proc}
    (reached : State.issuing proc = some (client, pc, resume)) (after : IssuePc) :
    (resume after).unpurged = resume after ∧ ∀ call pc, resume after ≠ .logout call pc := by
  rcases issuing_cases reached with ⟨call, _, _, rfl⟩ | ⟨call, _, _, rfl⟩
  · exact ⟨rfl, by simp⟩
  · exact ⟨rfl, by simp⟩

omit [PyUnicode] in
/-- Both runs generate the same token. -/
theorem generate (shadows : Shadows settings left right) {pid : Nat} {rawToken : String}
    (stepped : left.generate pid rawToken = some next) :
    ∃ next', right.generate pid rawToken = some next' ∧ Shadows settings next next' := by
  simp only [State.generate, shadows.issuing_eq pid] at stepped ⊢
  split at stepped
  next client user resume reached =>
    cases stepped
    rcases resume_kept reached (.create user rawToken left.clock) with ⟨other, noLogout⟩
    exact ⟨_, rfl, (shadows.generated _).moved shadows.users pid (by rw [shadows.clock])
      other noLogout⟩
  next => cases stepped

omit [PyUnicode] in
/-- Both runs store the same row, or both are refused. -/
theorem create (shadows : Shadows settings left right) (rotation : Rotation right) {pid : Nat}
    {id : UUID} (fresh : id ∉ left.ids) (stepped : left.create settings pid id = some next) :
    ∃ next', right.create settings pid id = some next' ∧ Shadows settings next next' := by
  have issuing := shadows.issuing_eq pid
  simp only [State.create, issuing] at stepped ⊢
  split at stepped
  next client user rawToken now resume reached =>
    have pending : (right.procs pid).pending = some (hashRefreshToken rawToken, user.id) := by
      rcases issuing_cases (issuing.trans reached) with
        ⟨call, present, _, _⟩ | ⟨call, present, _, _⟩
      · rw [present]
        rfl
      · rw [present]
        rfl
    have free : ∀ stored ∈ right.tokens.rows,
        stored.clash (newToken settings client user rawToken now id) = false := by
      intro stored member
      have newId : stored.id ≠ id := fun same => fresh (same ▸ shadows.rowIds stored member)
      have newHash := rotation.absent pending stored member
      simp [RefreshToken.clash, newToken, newId, newHash]
    obtain ⟨leftTokens, leftRows, leftCreated⟩ := create_of_free left.users
      fun stored member => free stored (shadows.rows stored member)
    rcases create_of_free right.users free with ⟨rightTokens, rightRows, rightCreated⟩
    rw [leftCreated] at stepped
    rw [rightCreated, shadows.users]
    cases refused : refusal left.users (newToken settings client user rawToken now id) with
    | some raised =>
        simp only [refused] at stepped ⊢
        cases stepped
        rcases resume_kept reached (.raised raised) with ⟨other, noLogout⟩
        exact ⟨_, rfl, shadows.moved rfl pid rfl other noLogout⟩
    | none =>
        simp only [refused] at stepped ⊢
        cases stepped
        obtain ⟨other, noLogout⟩ := resume_kept reached
          (.returned user (authTokens settings user rawToken left.clock))
        exact ⟨_, rfl, (shadows.stored leftRows rightRows fresh).moved rfl pid
          (by rw [shadows.clock]) other noLogout⟩
  next => cases stepped

/-- A label that is not a purge leads to related states. -/
theorem kept (shadows : Shadows settings left right) (rotation : Rotation right) {label : Label}
    (purging : Purging settings left label) (keeps : notPurge label = true)
    (stepped : step settings left label = some next) :
    ∃ next', step settings right label = some next' ∧ Shadows settings next next' := by
  rcases purging with ⟨_, freshIds, prompt, noLogout⟩
  cases label with
  | tick clock =>
      simp only [step, shadows.clock] at stepped ⊢
      split at stepped
      next forward =>
        cases stepped
        rw [if_pos forward]
        exact ⟨_, rfl, shadows.tick forward⟩
      next => cases stepped
  | users users =>
      cases stepped
      exact ⟨_, rfl, { shadows with users := rfl }⟩
  | call pid request =>
      simp only [step] at stepped
      split at stepped
      next idle =>
        cases stepped
        simp only [step, shadows.same idle rfl]
        refine ⟨_, rfl, shadows.moved shadows.users pid rfl ?_ ?_⟩
        · cases request with
          | purge => cases keeps
          | login | refresh | logout => rfl
        · cases request with
          | logout call => cases noLogout
          | login | refresh | purge => simp [Request.start]
      next => cases stepped
  | advance pid =>
      simp only [step] at stepped
      split at stepped
      next call pc present =>
        simp only [step, shadows.same present rfl]
        exact shadows.advanceLogin stepped
      next call pc present =>
        simp only [step, shadows.same present rfl]
        exact shadows.advanceRefresh present prompt stepped
      next call pc present => exact absurd present (shadows.noLogout pid call pc)
      next => cases stepped
      next => cases stepped
  | generate pid rawToken => exact shadows.generate stepped
  | create pid id => exact shadows.create rotation freshIds stepped
  | purge pid => cases keeps

omit [PyUnicode] [Crypto] in
/-- A purge moves on in the one run only. -/
theorem purged (shadows : Shadows settings left right) {pid : Nat} {pc : PurgePc}
    (idle : right.procs pid = .idle)
    (cutoff : ∀ cutoff, pc = .select cutoff →
      cutoff + settings.refreshTokenRetention ≤ left.clock)
    (selected : ∀ ids, pc = .delete ids → ∀ id ∈ ids, id ∈ left.ids ∧
      ∀ row ∈ right.tokens.rows, row.id = id → Spent settings left.clock row) :
    Shadows settings { left with procs := left.move pid (.purge pc) } right :=
  { shadows with
    procs := by
      intro mover
      simp only [move_eq]
      split
      next same => rw [same, idle]; rfl
      next => exact shadows.procs mover
    noLogout := by
      intro mover call pc present
      simp only [move_eq] at present
      split at present
      · cases present
      · exact shadows.noLogout mover call pc present
    cutoff := by
      intro mover instant present
      simp only [move_eq] at present
      split at present
      · cases present
        exact cutoff instant rfl
      · exact shadows.cutoff mover instant present
    selected := by
      intro mover ids present
      simp only [move_eq] at present
      split at present
      · cases present
        exact selected ids rfl
      · exact shadows.selected mover ids present }

omit [PyUnicode] [Crypto] in
/-- Deleting spent rows. -/
theorem deleted (shadows : Shadows settings left right) {ids : List UUID}
    (spent : ∀ id ∈ ids, ∀ row ∈ right.tokens.rows, row.id = id → Spent settings left.clock row) :
    Shadows settings { left with tokens := deleteByIds left.tokens ids } right :=
  { shadows with
    rows := fun row member => shadows.rows row (mem_deleteByIds.mp member).1
    spent := by
      intro row member
      rcases shadows.spent row member with kept | already
      · by_cases chosen : row.id ∈ ids
        · exact .inr (spent row.id chosen row member rfl)
        · exact .inl (mem_deleteByIds.mpr ⟨kept, chosen⟩)
      · exact .inr already }

omit [PyUnicode] [Crypto] in
/-- The ids that a purge selects are those of spent rows. -/
theorem selects_spent (shadows : Shadows settings left right) {cutoff : Instant}
    (past : cutoff + settings.refreshTokenRetention ≤ left.clock) :
    ∀ id ∈ selectPurgeable left.tokens cutoff, id ∈ left.ids ∧
      ∀ row ∈ right.tokens.rows, row.id = id → Spent settings left.clock row := by
  intro id chosen
  rcases mem_selectPurgeable.mp chosen with ⟨row, member, purgeable, rfl⟩
  have shadow := shadows.rows row member
  refine ⟨shadows.rowIds row shadow, ?_⟩
  intro other otherMem same
  rw [eq_of_id otherMem shadow same]
  exact spent_of_purgeable purgeable past

/-- A purge changes nothing that the other run can tell. -/
theorem dropped (shadows : Shadows settings left right) {label : Label}
    (drops : notPurge label = false) (stepped : step settings left label = some next) :
    Shadows settings next right := by
  cases label with
  | call pid request =>
      cases request with
      | purge =>
          simp only [step] at stepped
          split at stepped
          next idle =>
            cases stepped
            exact shadows.purged (shadows.same idle rfl) (by simp) (by simp)
          next => cases stepped
      | login | refresh | logout => cases drops
  | purge pid =>
      simp only [step] at stepped
      split at stepped
      next pc present =>
        have idle : right.procs pid = .idle := by
          rw [shadows.procs, present]
          rfl
        cases pc with
        | readClock =>
            cases stepped
            refine shadows.purged idle ?_ (by simp)
            intro cutoff same
            cases same
            exact Int.le_of_eq (Int.sub_add_cancel _ _)
        | select cutoff =>
            have past := shadows.cutoff pid cutoff present
            simp only [State.advancePurge] at stepped
            split at stepped
            next none =>
              cases stepped
              exact shadows.purged idle (by simp) (by simp)
            next id ids some =>
              cases stepped
              refine shadows.purged idle (by simp) ?_
              intro chosen same
              cases same
              rw [← some]
              exact shadows.selects_spent past
        | delete ids =>
            cases stepped
            have spent := shadows.selected pid ids present
            exact (shadows.deleted fun id chosen => (spent id chosen).2).purged idle
              (by simp) (by simp)
        | returned count => cases stepped
      next => cases stepped
  | tick | users | advance | generate | create => cases drops

omit [PyUnicode] in
theorem freshTokens (shadows : Shadows settings left right) {label : Label}
    (fresh : FreshTokens left label) : FreshTokens right label := by
  cases label with
  | generate pid rawToken =>
      change hashRefreshToken rawToken ∉ right.hashes
      rw [shadows.hashes]
      exact fresh
  | tick | users | call | advance | create | purge => trivial

omit [PyUnicode] [Crypto] in
theorem init (clock : Instant) (users : Users) (tokens : RefreshTokens) :
    Shadows settings (State.init clock users tokens) (State.init clock users tokens) where
  clock := rfl
  users := rfl
  hashes := rfl
  ids := rfl
  procs := fun _ => rfl
  noLogout := by simp [State.init]
  rows := fun _ member => member
  spent := fun _ member => .inl member
  rowIds := fun _ member => List.mem_map_of_mem member
  cutoff := by simp [State.init]
  selected := by simp [State.init]

end Shadows

/-- Leaving the purges out of a run gives a run. -/
theorem runs_unpurged {clock : Instant} {users : Users} {tokens : RefreshTokens}
    {labels : List Label} {last : State}
    (run : Machine.Runs (step settings) (Purging settings) (State.init clock users tokens)
      labels last) :
    ∃ other, Machine.Runs (step settings) Machine.Any (State.init clock users tokens)
      (labels.filter notPurge) other ∧ Shadows settings last other := by
  obtain ⟨other, run', shadows, _⟩ := run.erase notPurge
    (fun {left right label next} (held : Shadows settings left right ∧ Rotation right)
        purging keeps stepped => by
      rcases held.1.kept held.2 purging keeps stepped with ⟨next', stepped', shadows⟩
      exact ⟨next', stepped', shadows,
        step_rotation held.2 (held.1.freshTokens purging.1) (step_transition stepped')⟩)
    (fun held _ drops stepped => ⟨held.1.dropped drops stepped, held.2⟩)
    ⟨Shadows.init clock users tokens, rotation_init clock users tokens⟩
  exact ⟨other, run', shadows⟩

/-- Purging is invisible to authentication.  The run without its purges ends with every
login and refresh at the same place; and a purge deletes only rows that are revoked or
expired by then and that no prompt refresh can use any more. -/
theorem purge_invisible {clock : Instant} {users : Users} {tokens : RefreshTokens}
    {labels : List Label} {last : State} (positive : 0 < settings.refreshTokenRetention)
    (run : Machine.Runs (step settings) (Purging settings) (State.init clock users tokens)
      labels last) :
    (∃ other, Machine.Runs (step settings) Machine.Any (State.init clock users tokens)
        (labels.filter notPurge) other ∧
      ∀ pid, other.procs pid = (last.procs pid).unpurged) ∧
    ∀ pid next, step settings last (.purge pid) = some next →
      ∀ row ∈ last.tokens.rows, row ∉ next.tokens.rows →
        (row.revokedAt ≠ none ∨ row.expiresAt ≤ last.clock) ∧
        ∀ hash now, last.clock ≤ now + settings.refreshTokenRetention →
          selectsActive hash now row = false := by
  rcases runs_unpurged run with ⟨other, run', shadows⟩
  refine ⟨⟨other, run', shadows.procs⟩, ?_⟩
  intro pid next stepped row member gone
  have spent : Spent settings last.clock row := by
    cases step_transition stepped with
    | moved => exact absurd member gone
    | deleted pid ids present =>
        have chosen : row.id ∈ ids := by
          by_contra kept
          exact gone (mem_deleteByIds.mpr ⟨member, kept⟩)
        exact (shadows.selected pid ids present row.id chosen).2 row (shadows.rows row member) rfl
  refine ⟨?_, fun hash now prompt => spent.not_selected prompt⟩
  rcases spent with revoked | expired
  · exact .inl revoked
  · exact .inr (Int.le_of_lt (Int.lt_trans (Int.lt_add_of_pos_right _ positive) expired))

end Simulation

namespace Sample

attribute [local instance] unicode collation crypto

/-- A token that expired forty days ago. -/
def expiredToken : RefreshToken where
  id := 10
  userId := admin.id
  tokenHash := "186da0ca1f1047c6aa108a6a362fc4c35676f3fb79b1d5e2160ab6845f1150af"
  issuedAt := clock - 4060800000000
  expiresAt := clock - 3456000000000
  revokedAt := none
  userAgent := none
  ipAddress := none

def startExpired : State := State.init clock (.singleton admin) (.singleton expiredToken)

/-- A purge that selects before a refresh and deletes in the middle of it. -/
def purgeDuringRefresh : List Label :=
  login ++ [.call 3 .purge, .purge 3, .purge 3] ++ exchange ++ [.purge 3] ++ store

theorem purge_invisible_refresh :
    ∃ last, Machine.execIf (step settings) (Purging settings) startExpired purgeDuringRefresh =
        some last ∧
      ∃ other, Machine.Runs (step settings) Machine.Any startExpired
          (purgeDuringRefresh.filter notPurge) other ∧
        ∀ pid, other.procs pid = (last.procs pid).unpurged := by
  obtain ⟨last, executed⟩ := Option.isSome_iff_exists.mp (by decide :
    (Machine.execIf (step settings) (Purging settings) startExpired purgeDuringRefresh).isSome)
  exact ⟨last, executed, (purge_invisible (by decide) (Machine.Runs.of_execIf executed)).1⟩

end Sample

end ChTech.Auth
