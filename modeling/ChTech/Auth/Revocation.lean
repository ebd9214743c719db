import ChTech.Auth.Sessions

/-!
# The time of revocation

`revoke_if_active` writes `revoked_at` of a row it has locked while it is null.  `Logout`
writes the `revoked_at` of a copy it has read earlier: harmless when the row was revoked
already, since the copy then carries the same time, but not when the row has been revoked
since.  These stale saves are the only writes that move a recorded time.
-/

namespace ChTech.Auth

open Foundation RefreshTokenRepository

section Times

variable [PyUnicode] [Collation] [Crypto]

/-- Generated row ids are fresh. -/
def FreshIds : State → Label → Prop
  | state, .create _ id => id ∉ state.ids
  | _, _ => True

instance (state : State) : (label : Label) → Decidable (FreshIds state label)
  | .create _ id => inferInstanceAs (Decidable (id ∉ state.ids))
  | .tick _ | .users _ | .call _ _ | .advance _ | .generate _ _ | .purge _ => .isTrue trivial

/-- A logout that read the row unrevoked is about to save it, and the row has been revoked
since, at another time. -/
def StaleSave (state : State) (label : Label) : Prop :=
  ∃ pid call token now, label = .advance pid ∧ state.procs pid = .logout call (.save token now) ∧
    token.revokedAt = none ∧ ∃ row ∈ state.tokens.rows, row.id = token.id ∧
      ∃ revokedAt, row.revokedAt = some revokedAt ∧ revokedAt ≠ now

/-- The step changes no recorded `revoked_at`. -/
def KeepsRevokedAt (settings : Settings) (state : State) (label : Label) : Prop :=
  ∀ next, step settings state label = some next →
    ∀ row ∈ state.tokens.rows, ∀ revokedAt, row.revokedAt = some revokedAt →
      ∀ after ∈ next.tokens.rows, after.id = row.id → after.revokedAt = some revokedAt

/-- The copy of the row that a logout has read. -/
def Proc.copy : Proc → Option RefreshToken
  | .logout _ (.readClock token) | .logout _ (.save token _) => some token
  | _ => none

/-- Copies read as revoked still agree with their row. -/
structure Copies (state : State) : Prop where
  rowIds : ∀ row ∈ state.tokens.rows, row.id ∈ state.ids
  copyIds : ∀ {pid token}, (state.procs pid).copy = some token → token.id ∈ state.ids
  revoked : ∀ {pid token revokedAt}, (state.procs pid).copy = some token →
    token.revokedAt = some revokedAt →
    ∀ row ∈ state.tokens.rows, row.id = token.id → row.revokedAt = some revokedAt

variable {settings : Settings} {state next : State} {label : Label}

theorem Local.copy_eq {before after : Proc} (own : Local settings state before after)
    {token : RefreshToken} (seen : after.copy = some token) :
    before.copy = some token ∨ token ∈ state.tokens.rows := by
  cases own with
  | call request => cases request <;> cases seen
  | checkOwner call =>
      rcases @checkOwner_cases _ state.tokens call with
        ⟨raised, result⟩ | ⟨found, member, _, result⟩
      · rw [result] at seen
        cases seen
      · rw [result] at seen
        cases seen
        exact .inr member
  | logoutClock call token => exact .inl seen
  | _ => cases seen

/-- A logout copies a row it has read. -/
theorem Transition.copy (transition : Transition settings state label next) {pid : Nat}
    {token : RefreshToken} (seen : (next.procs pid).copy = some token) :
    (state.procs pid).copy = some token ∨
      token ∈ state.tokens.rows ∧ next.tokens = state.tokens := by
  cases transition with
  | tick | users => exact .inl seen
  | moved label mover proc users _ own =>
      rcases observed_move seen with ⟨rfl, mine⟩ | kept
      · rcases own.copy_eq mine with before | member
        · exact .inl before
        · exact .inr ⟨member, rfl⟩
      · exact .inl kept
  | generatedLogin | generatedRefresh | createdLogin | createdRefresh | revoked | saved | deleted =>
      rcases observed_move seen with ⟨_, mine⟩ | kept
      · cases mine
      · exact .inl kept

theorem Transition.ids (transition : Transition settings state label next) {id : UUID}
    (known : id ∈ state.ids) : id ∈ next.ids := by
  cases transition with
  | createdLogin | createdRefresh => exact List.mem_cons_of_mem _ known
  | _ => exact known

/-- Without a stale save, a row after a step is new or keeps its recorded time. -/
theorem Copies.rows (inv : Copies state) (fresh : FreshIds state label)
    (current : ¬StaleSave state label) (transition : Transition settings state label next)
    {row : RefreshToken} (member : row ∈ next.tokens.rows) :
    (∃ stored ∈ state.tokens.rows, stored.id = row.id ∧
      ∀ revokedAt, stored.revokedAt = some revokedAt → row.revokedAt = some revokedAt) ∨
    row.id ∉ state.ids ∧ row.id ∈ next.ids := by
  have kept : row ∈ state.tokens.rows → ∃ stored ∈ state.tokens.rows, stored.id = row.id ∧
      ∀ revokedAt, stored.revokedAt = some revokedAt → row.revokedAt = some revokedAt :=
    fun stored => ⟨row, stored, rfl, fun _ same => same⟩
  cases transition with
  | createdLogin pid id call user rawToken now tokens present stored
  | createdRefresh pid id call user rawToken now tokens present stored =>
      rw [create_eq_ok stored] at member
      rcases List.mem_append.mp member with old | new
      · exact .inl (kept old)
      · rw [List.mem_singleton.mp new]
        exact .inr ⟨fresh, List.mem_cons_self⟩
  | revoked pid call now before present beforeMem selected =>
      rcases mem_setRevokedAt.mp member with ⟨stored, storedMem, rfl⟩
      refine .inl ⟨stored, storedMem, (withRevokedAt_id _ _ _).symm, ?_⟩
      intro revokedAt recorded
      have unrevoked := (selectsActive_iff.mp selected).2.1
      rw [withRevokedAt_revokedAt, if_neg]
      · exact recorded
      · intro same
        rw [eq_of_id storedMem beforeMem same, unrevoked] at recorded
        cases recorded
  | saved pid call token now present =>
      rcases mem_setRevokedAt.mp member with ⟨stored, storedMem, rfl⟩
      refine .inl ⟨stored, storedMem, (withRevokedAt_id _ _ _).symm, ?_⟩
      intro revokedAt recorded
      rw [withRevokedAt_revokedAt]
      split
      next same =>
        cases read : token.revokedAt with
        | none =>
            rw [RefreshToken.revoke_of_active read]
            by_contra moved
            refine current ⟨pid, call, token, now, rfl, present, read, stored, storedMem, same,
              revokedAt, recorded, ?_⟩
            intro same
            subst same
            exact moved rfl
        | some first =>
            have copy : (state.procs pid).copy = some token := by
              rw [present]
              rfl
            rw [RefreshToken.revoke_of_revoked read, read,
              ← inv.revoked copy read stored storedMem same]
            exact recorded
      next => exact recorded
  | deleted pid ids => exact .inl (kept (mem_deleteByIds.mp member).1)
  | tick | users | moved | generatedLogin | generatedRefresh => exact .inl (kept member)

theorem Copies.step (inv : Copies state) (fresh : FreshIds state label)
    (current : ¬StaleSave state label) (transition : Transition settings state label next) :
    Copies next where
  rowIds := by
    intro row member
    rcases inv.rows fresh current transition member with ⟨stored, storedMem, same, _⟩ | ⟨_, known⟩
    · rw [← same]
      exact transition.ids (inv.rowIds stored storedMem)
    · exact known
  copyIds := by
    intro pid token seen
    rcases transition.copy seen with before | ⟨member, _⟩
    · exact transition.ids (inv.copyIds before)
    · exact transition.ids (inv.rowIds token member)
  revoked := by
    intro pid token revokedAt seen read row member same
    rcases transition.copy seen with before | ⟨copied, unchanged⟩
    · rcases inv.rows fresh current transition member with
        ⟨stored, storedMem, sameId, keeps⟩ | ⟨new, _⟩
      · exact keeps revokedAt (inv.revoked before read stored storedMem (sameId.trans same))
      · rw [same] at new
        exact absurd (inv.copyIds before) new
    · rw [unchanged] at member
      rw [eq_of_id member copied same]
      exact read

/-- A step that is not a stale save keeps every recorded time. -/
theorem Copies.keepsRevokedAt (inv : Copies state) (fresh : FreshIds state label)
    (current : ¬StaleSave state label) : KeepsRevokedAt settings state label := by
  intro next stepped row member revokedAt recorded after afterMem same
  rcases inv.rows fresh current (step_transition stepped) afterMem with
    ⟨stored, storedMem, sameId, keeps⟩ | ⟨new, _⟩
  · apply keeps
    rw [eq_of_id storedMem member (sameId.trans same)]
    exact recorded
  · rw [same] at new
    exact absurd (inv.rowIds row member) new

/-- A stale save moves the recorded time. -/
theorem not_staleSave_of_keepsRevokedAt (keeps : KeepsRevokedAt settings state label) :
    ¬StaleSave state label := by
  rintro ⟨pid, call, token, now, rfl, present, read, row, member, same, revokedAt, recorded, moved⟩
  have found : ∃ stored, (state.tokens.find? fun other => other.id == token.id) = some stored := by
    cases missing : state.tokens.find? fun other => other.id == token.id with
    | none =>
        have absent := Table.find?_eq_none.mp missing row member
        simp [same] at absent
    | some stored => exact ⟨stored, rfl⟩
  rcases found with ⟨stored, found⟩
  have stepped : Auth.step settings state (.advance pid) = some { state with
      tokens := setRevokedAt state.tokens token.id (token.revoke now).revokedAt
      procs := state.move pid (.logout call .returned) } := by
    simp [Auth.step, present, State.advanceLogout, save, found]
  have after := keeps _ stepped row member revokedAt recorded
    (withRevokedAt token.id (token.revoke now).revokedAt row)
    (mem_setRevokedAt.mpr ⟨row, member, rfl⟩) (withRevokedAt_id _ _ _)
  rw [withRevokedAt_revokedAt, if_pos same, RefreshToken.revoke_of_active read] at after
  exact moved (Option.some.inj after).symm

omit [PyUnicode] [Crypto] in
theorem copies_init (clock : Instant) (users : Users) (tokens : RefreshTokens) :
    Copies (State.init clock users tokens) where
  rowIds := fun _ member => List.mem_map_of_mem member
  copyIds := by simp [State.init, Proc.copy]
  revoked := by simp [State.init, Proc.copy]

/-- The runs in which no step changes a recorded `revoked_at` are the runs without a stale
save. -/
theorem revoked_at_written_once {clock : Instant} {users : Users} {tokens : RefreshTokens}
    {labels : List Label} {last : State} :
    Machine.Runs (step settings)
        (fun state label => FreshIds state label ∧ KeepsRevokedAt settings state label)
        (State.init clock users tokens) labels last ↔
      Machine.Runs (step settings)
        (fun state label => FreshIds state label ∧ ¬StaleSave state label)
        (State.init clock users tokens) labels last := by
  constructor
  · exact fun run => run.mono fun state label met =>
      ⟨met.1, not_staleSave_of_keepsRevokedAt met.2⟩
  · exact fun run => run.strengthen Copies
      (fun inv met stepped => inv.step met.1 met.2 (step_transition stepped))
      (fun inv met => ⟨met.1, inv.keepsRevokedAt met.1 met.2⟩)
      (copies_init clock users tokens)

end Times

namespace Sample

attribute [local instance] unicode collation crypto

/-- A logout reads the row, a refresh revokes it, and a second later the logout saves. -/
def lateLogout : List Label :=
  login ++ [.call 2 (.logout ⟨firstToken, admin.id⟩), .advance 2] ++ exchange ++
    [.tick (clock + 1000000), .advance 2]

theorem revoked_at_moves :
    ¬ ∀ (state : State) (label : Label),
      Machine.Reaches (step settings) FreshIds start state →
      KeepsRevokedAt settings state label := by
  intro claim
  obtain ⟨state, executed⟩ := Option.isSome_iff_exists.mp
    (by decide : (Machine.execIf (step settings) FreshIds start lateLogout).isSome)
  have rows : state.tokens.rows = [
      { newToken settings client adminUser firstToken clock 11 with revokedAt := some clock }] :=
    Machine.read_of_map (fun state => state.tokens.rows) executed rfl
  have saving : state.procs 2 = .logout ⟨firstToken, admin.id⟩
      (.save (newToken settings client adminUser firstToken clock 11) (clock + 1000000)) :=
    Machine.read_of_map (fun state => state.procs 2) executed rfl
  refine not_staleSave_of_keepsRevokedAt
    (claim state (.advance 2) ⟨_, Machine.Runs.of_execIf executed⟩)
    ⟨2, _, _, _, rfl, saving, rfl,
      { newToken settings client adminUser firstToken clock 11 with revokedAt := some clock },
      by simp [rows], rfl, clock, rfl, ?_⟩
  decide

end Sample

end ChTech.Auth
