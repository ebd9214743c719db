import ChTech.Auth.Observations

/-!
# Rotation

A generated token is stored at most once, and once a row is revoked it stays revoked.
Hence a token that a refresh has revoked, or that a logout has closed, can never be
exchanged again, whatever else is going on.
-/

namespace ChTech.Auth

open Foundation RefreshTokenRepository

variable [PyUnicode] [Collation] [Crypto]

/-- Generated raw tokens are fresh, and so are their hashes. -/
def FreshTokens : State → Label → Prop
  | state, .generate _ rawToken => hashRefreshToken rawToken ∉ state.hashes
  | _, _ => True

instance (state : State) : (label : Label) → Decidable (FreshTokens state label)
  | .generate _ rawToken => inferInstanceAs (Decidable (hashRefreshToken rawToken ∉ state.hashes))
  | .tick _ | .users _ | .call _ _ | .advance _ | .create _ _ | .purge _ => .isTrue trivial

/-- No token with this hash is about to be stored, now or later. -/
def Settled (state : State) (hash : String) : Prop :=
  hash ∈ state.hashes ∧
    ∀ pid userId, (state.procs pid).pending ≠ some (hash, userId)

/-- No token with this hash can ever be exchanged. -/
def Dead (state : State) (hash : String) : Prop :=
  Settled state hash ∧
    ∀ row ∈ state.tokens.rows, row.tokenHash = hash → row.revokedAt ≠ none

variable {settings : Settings} {state next : State} {label : Label}

theorem Settled.step {hash : String} (settled : Settled state hash)
    (fresh : FreshTokens state label) (transition : Transition settings state label next) :
    Settled next hash := by
  constructor
  · exact transition.hashes settled.1
  · intro pid userId seen
    rcases transition.pending seen with before | ⟨rawToken, rfl, rfl, _⟩
    · exact settled.2 pid userId before
    · exact fresh settled.1

/-- Rows of a settled hash were there before the step. -/
theorem Settled.rows {hash : String} (settled : Settled state hash)
    (transition : Transition settings state label next) {row : RefreshToken}
    (member : row ∈ next.tokens.rows) (hashed : row.tokenHash = hash) :
    ∃ stored ∈ state.tokens.rows, Follows stored row := by
  rcases transition.rows member with kept | ⟨pid, storing, _⟩
  · exact kept
  · rw [hashed] at storing
    exact absurd storing (settled.2 pid row.userId)

theorem Dead.step {hash : String} (dead : Dead state hash)
    (fresh : FreshTokens state label) (transition : Transition settings state label next) :
    Dead next hash := by
  constructor
  · exact dead.1.step fresh transition
  · intro row member hashed
    rcases dead.1.rows transition member hashed with ⟨stored, storedMem, follows⟩
    exact follows.revoked (dead.2 stored storedMem (follows.tokenHash ▸ hashed))

/-- Rows and executions agree on who owns which token. -/
structure Rotation (state : State) : Prop where
  stored : ∀ row ∈ state.tokens.rows, row.tokenHash ∈ state.hashes
  generated : ∀ {pid hash userId}, (state.procs pid).pending = some (hash, userId) →
    hash ∈ state.hashes
  absent : ∀ {pid hash userId}, (state.procs pid).pending = some (hash, userId) →
    ∀ row ∈ state.tokens.rows, row.tokenHash ≠ hash
  pendingOnce : ∀ {pid other hash userId otherId},
    (state.procs pid).pending = some (hash, userId) →
    (state.procs other).pending = some (hash, otherId) → pid = other
  issued : ∀ {pid hash userId}, (state.procs pid).issued = some (hash, userId) →
    Settled state hash
  issuedRows : ∀ {pid hash userId}, (state.procs pid).issued = some (hash, userId) →
    ∀ row ∈ state.tokens.rows, row.tokenHash = hash → row.userId = userId
  exchanged : ∀ {pid hash userId}, (state.procs pid).exchanging = some (hash, userId) →
    Dead state hash
  exchangedOnce : ∀ {pid other hash userId otherId},
    (state.procs pid).exchanging = some (hash, userId) →
    (state.procs other).exchanging = some (hash, otherId) → pid = other
  exchangedUser : ∀ {pid other hash userId otherId},
    (state.procs pid).issued = some (hash, userId) →
    (state.procs other).exchanging = some (hash, otherId) → otherId = userId
  closing : ∀ {pid hash id}, (state.procs pid).closing = some (hash, id) →
    Settled state hash ∧ ∀ row ∈ state.tokens.rows, row.tokenHash = hash → row.id = id
  closed : ∀ {pid hash}, (state.procs pid).closed = some hash → Dead state hash

namespace Rotation

omit [PyUnicode] in
/-- The hash of a stored row is settled. -/
theorem settled (inv : Rotation state) {row : RefreshToken} (member : row ∈ state.tokens.rows) :
    Settled state row.tokenHash :=
  ⟨inv.stored row member, fun _ _ storing => inv.absent storing row member rfl⟩

/-- A hash is settled once the execution that was about to store it has moved on. -/
theorem settled_of_moved (inv : Rotation state) (transition : Transition settings state label next)
    (fresh : FreshTokens state label) {pid : Nat} {hash : String} {userId : UUID}
    (storing : (state.procs pid).pending = some (hash, userId))
    (moved : (next.procs pid).pending = none) : Settled next hash := by
  refine ⟨transition.hashes (inv.generated storing), ?_⟩
  intro other otherId seen
  rcases transition.pending seen with before | ⟨rawToken, rfl, rfl, _⟩
  · cases inv.pendingOnce storing before
    rw [moved] at seen
    cases seen
  · exact fresh (inv.generated storing)

/-- A revoked row is the only one with its hash. -/
theorem dead_of_revoked (inv : Rotation state) (transition : Transition settings state label next)
    (fresh : FreshTokens state label) {row : RefreshToken} {revokedAt : Option Instant}
    (member : row ∈ state.tokens.rows) (set : revokedAt ≠ none)
    (written : next.tokens = setRevokedAt state.tokens row.id revokedAt) :
    Dead next row.tokenHash := by
  refine ⟨(inv.settled member).step fresh transition, ?_⟩
  intro after afterMem hashed
  rw [written] at afterMem
  rcases mem_setRevokedAt.mp afterMem with ⟨before, beforeMem, rfl⟩
  rw [withRevokedAt_tokenHash] at hashed
  rw [eq_of_tokenHash beforeMem member hashed, withRevokedAt_revokedAt, if_pos rfl]
  exact set

end Rotation

theorem step_rotation (inv : Rotation state) (fresh : FreshTokens state label)
    (transition : Transition settings state label next) : Rotation next where
  stored := by
    intro row member
    rcases transition.rows member with ⟨stored, storedMem, follows⟩ | ⟨pid, storing, _⟩
    · rw [follows.tokenHash]
      exact transition.hashes (inv.stored stored storedMem)
    · exact transition.hashes (inv.generated storing)
  generated := by
    intro pid hash userId seen
    rcases transition.pending seen with before | ⟨_, _, _, generated, _⟩
    · exact transition.hashes (inv.generated before)
    · exact generated
  absent := by
    intro pid hash userId seen row member hashed
    rcases transition.pending seen with before | ⟨rawToken, rfl, rfl, _, same, _⟩
    · rcases transition.rows member with ⟨stored, storedMem, follows⟩ | ⟨other, storing, moved⟩
      · exact inv.absent before stored storedMem (follows.tokenHash ▸ hashed)
      · rw [hashed] at storing
        cases inv.pendingOnce before storing
        rw [moved] at seen
        cases seen
    · rw [same] at member
      exact fresh (hashed ▸ inv.stored row member)
  pendingOnce := by
    intro pid other hash userId otherId seen otherSeen
    rcases transition.pending seen with before | ⟨rawToken, rfl, rfl, _, _, only⟩
    · rcases transition.pending otherSeen with otherBefore | ⟨rawToken, rfl, rfl, _⟩
      · exact inv.pendingOnce before otherBefore
      · exact absurd (inv.generated before) fresh
    · by_contra different
      rw [only other (Ne.symm different)] at otherSeen
      exact fresh (inv.generated otherSeen)
  issued := by
    intro pid hash userId seen
    rcases transition.issued seen with before | ⟨storing, moved⟩
    · exact (inv.issued before).step fresh transition
    · exact inv.settled_of_moved transition fresh storing moved
  issuedRows := by
    intro pid hash userId seen row member hashed
    rcases transition.issued seen with before | ⟨storing, moved⟩
    · rcases (inv.issued before).rows transition member hashed with ⟨stored, storedMem, follows⟩
      rw [follows.userId]
      exact inv.issuedRows before stored storedMem (follows.tokenHash ▸ hashed)
    · rcases transition.rows member with ⟨stored, storedMem, follows⟩ | ⟨other, stored, _⟩
      · exact absurd (follows.tokenHash ▸ hashed) (inv.absent storing stored storedMem)
      · rw [hashed] at stored
        cases inv.pendingOnce storing stored
        rw [storing] at stored
        cases stored
        rfl
  exchanged := by
    intro pid hash userId seen
    rcases transition.exchanging seen with before | ⟨row, member, now, rfl, _, _, written, _⟩
    · exact (inv.exchanged before).step fresh transition
    · exact inv.dead_of_revoked transition fresh member (by simp) written
  exchangedOnce := by
    intro pid other hash userId otherId seen otherSeen
    rcases transition.exchanging seen with before | ⟨row, member, _, hashed, _, unrevoked, _, only⟩
    · rcases transition.exchanging otherSeen with
        otherBefore | ⟨row, member, _, hashed, _, unrevoked, _⟩
      · exact inv.exchangedOnce before otherBefore
      · exact absurd unrevoked ((inv.exchanged before).2 row member hashed)
    · by_contra different
      rw [only other (Ne.symm different)] at otherSeen
      exact (inv.exchanged otherSeen).2 row member hashed unrevoked
  exchangedUser := by
    intro pid other hash userId otherId seen exchanging
    rcases transition.exchanging exchanging with
      before | ⟨row, member, _, hashed, owner, unrevoked, _, _⟩
    · rcases transition.issued seen with issued | ⟨storing, _⟩
      · exact inv.exchangedUser issued before
      · exact absurd storing ((inv.exchanged before).1.2 pid userId)
    · rcases transition.issued seen with issued | ⟨storing, _⟩
      · rw [← owner]
        exact inv.issuedRows issued row member hashed
      · exact absurd hashed (inv.absent storing row member)
  closing := by
    intro pid hash id seen
    rcases transition.closing seen with before | ⟨row, member, rfl, rfl⟩
    · refine ⟨(inv.closing before).1.step fresh transition, ?_⟩
      intro row member hashed
      obtain ⟨stored, storedMem, follows⟩ :=
        (inv.closing before).1.rows transition member hashed
      rw [follows.id]
      exact (inv.closing before).2 stored storedMem (follows.tokenHash ▸ hashed)
    · refine ⟨?_, fun other otherMem hashed => by rw [eq_of_tokenHash otherMem member hashed]⟩
      rcases transition.rows member with ⟨stored, storedMem, follows⟩ | ⟨other, storing, moved⟩
      · rw [follows.tokenHash]
        exact (inv.settled storedMem).step fresh transition
      · exact inv.settled_of_moved transition fresh storing moved
  closed := by
    intro pid hash seen
    rcases transition.closed seen with before | ⟨id, revokedAt, closing, set, written⟩
    · exact (inv.closed before).step fresh transition
    · refine ⟨(inv.closing closing).1.step fresh transition, ?_⟩
      intro row member hashed
      rw [written] at member
      rcases mem_setRevokedAt.mp member with ⟨stored, storedMem, rfl⟩
      rw [withRevokedAt_tokenHash] at hashed
      rw [withRevokedAt_revokedAt, if_pos ((inv.closing closing).2 stored storedMem hashed)]
      exact set

omit [PyUnicode] in
theorem rotation_init (clock : Instant) (users : Users) (tokens : RefreshTokens) :
    Rotation (State.init clock users tokens) := by
  constructor
  all_goals first
    | exact fun row member => List.mem_map_of_mem member
    | exact fun {pid} => by simp [State.init, Proc.pending, Proc.issued, Proc.exchanging,
        Proc.closing, Proc.closed]

/-- Every reachable state satisfies the rotation invariant. -/
theorem reachable_rotation {clock : Instant} {users : Users} {tokens : RefreshTokens}
    (run : Machine.Reaches (step settings) FreshTokens (State.init clock users tokens) state) :
    Rotation state :=
  run.invariant Rotation
    (fun inv fresh stepped => step_rotation inv fresh (step_transition stepped))
    (rotation_init clock users tokens)

end ChTech.Auth
