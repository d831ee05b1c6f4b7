import OnAir.Runs
import OnAir.Table

/-!
Refresh tokens, and the requests that exchange them for new sessions.

A refresh reads the row of its token, looks at `revoked` in what it has read, revokes the row
and creates the next session, each in a transaction of its own, so that other requests take
their turns in between. The column of a row holds the digest of the token, or in rows of an
older version the token itself; a refresh that finds such a row writes the digest.
-/

namespace OnAir.RefreshTokens

open OnAir.Table Runs

/-- A row of `user_sessions`; times are whole seconds. -/
structure Session where
  userId : ℤ
  refreshToken : String
  expiresAt : ℤ
  revoked : Bool
  deriving DecidableEq, Repr

/-- Where a refresh stands, and what it has read. -/
inductive Phase
  | seek
  | seekPlain
  | upgrade (sessionId userId : ℤ) (revoked : Bool)
  | check (sessionId userId : ℤ) (revoked : Bool)
  | revoke (sessionId userId : ℤ)
  | create (userId : ℤ)
  | answered (ok : Bool)
  deriving DecidableEq, Repr

structure Request where
  token : String
  phase : Phase
  deriving DecidableEq, Repr

structure Store where
  /-- whether a user is active -/
  users : Table Bool
  sessions : Table Session
  /-- the largest id handed out so far, as `AUTOINCREMENT` keeps it -/
  sequence : ℤ
  requests : List Request
  /-- the tokens issued or presented so far -/
  issued : List String
  /-- the tokens a refresh has created a session for, the last one first -/
  exchanges : List String

def start (users : Table Bool) : Store := ⟨users, ∅, 0, [], [], []⟩

inductive Event
  /-- a refresh whose token decodes as a refresh token -/
  | present (token : String)
  /-- the next statement of a refresh, and the token it would issue -/
  | advance (i : ℕ) (nextToken : String) (expiresAt : ℤ)
  /-- a refresh that ends with an exception -/
  | drop (i : ℕ)
  /-- the first statement of a login -/
  | cleanupExpired (now : ℤ)
  | login (userId : ℤ) (token : String) (expiresAt : ℤ)
  | logout (userId : ℤ)
  | editUsers (users : Table Bool)
  /-- a session of an older version -/
  | adopt (userId : ℤ) (token : String) (expiresAt : ℤ)

section Steps

variable (valid : String → Bool) (digest : String → String)

/-- `SELECT * FROM user_sessions WHERE refresh_token=?`. -/
def findColumn (column : String) (s : Store) : Option (ℤ × Session) :=
  (rows s.sessions).find? fun r => r.2.refreshToken = column

/-- `INSERT INTO user_sessions`; `none` when the column is taken. -/
def insertSession (userId : ℤ) (column : String) (expiresAt : ℤ) (s : Store) : Option Store :=
  if (findColumn column s).isSome then none
  else
    let id := max (s.sequence + 1) (nextId s.sessions)
    some { s with
      sessions := s.sessions.insert id ⟨userId, column, expiresAt, false⟩
      sequence := id }

def setPhase (i : ℕ) (p : Phase) (s : Store) : Store :=
  { s with requests := s.requests.modify i fun q => { q with phase := p } }

/-- The row that `get_session_by_token` upgrades, unless the digest is taken. -/
def upgradeSession (id : ℤ) (token : String) (s : Store) : Store :=
  if (findColumn (digest token) s).isSome then s
  else { s with sessions := s.sessions.modify id fun r => { r with refreshToken := digest token } }

def revokeSession (id : ℤ) (s : Store) : Store :=
  { s with sessions := s.sessions.modify id fun r => { r with revoked := true } }

def advance (s : Store) (i : ℕ) (nextToken : String) (expiresAt : ℤ) : Option Store :=
  s.requests[i]?.bind fun q =>
    match q.phase with
    | .seek =>
      match findColumn (digest q.token) s with
      | some (id, r) => some (setPhase i (.check id r.userId r.revoked) s)
      | none => some (setPhase i .seekPlain s)
    | .seekPlain =>
      match findColumn q.token s with
      | some (id, r) => some (setPhase i (.upgrade id r.userId r.revoked) s)
      | none => some (setPhase i (.answered false) s)
    | .upgrade id userId revoked =>
      some (setPhase i (.check id userId revoked) (upgradeSession digest id q.token s))
    | .check id userId revoked =>
      some (setPhase i (if revoked || s.users[userId]? ≠ some true then .answered false
        else .revoke id userId) s)
    | .revoke id userId => some (setPhase i (.create userId) (revokeSession id s))
    | .create userId =>
      -- `secrets.token_hex` makes a token that was not there before
      if nextToken ∈ s.issued then none
      else match insertSession userId (digest nextToken) expiresAt s with
        | none => some (setPhase i (.answered false) s)
        | some s' => some (setPhase i (.answered true)
            { s' with
              issued := nextToken :: s.issued
              exchanges := q.token :: s.exchanges })
    | .answered _ => none

def step (s : Store) : Event → Option Store
  | .present token =>
    if valid token then
      some { s with
        requests := s.requests ++ [⟨token, .seek⟩]
        issued := token :: s.issued }
    else some s
  | .advance i nextToken expiresAt => advance digest s i nextToken expiresAt
  | .drop i => some (setPhase i (.answered false) s)
  | .cleanupExpired now =>
    some { s with sessions := s.sessions.filter fun _ r => now < r.expiresAt }
  | .login userId token expiresAt =>
    if token ∈ s.issued then none
    else (insertSession userId (digest token) expiresAt s).map fun s' =>
      { s' with issued := token :: s.issued }
  | .logout userId =>
    some { s with sessions := s.sessions.map fun _ r =>
      if r.userId = userId then { r with revoked := true } else r }
  | .editUsers users => some { s with users := users }
  | .adopt userId token expiresAt =>
    if token ∈ s.issued || !valid token then none
    else (insertSession userId token expiresAt s).map fun s' =>
      { s' with issued := token :: s.issued }

/-- What a refresh would find as the row of its token. -/
def found (s : Store) (q : Request) : Option (ℤ × Session) :=
  match q.phase with
  | .seek => findColumn (digest q.token) s
  | .seekPlain => findColumn q.token s
  | _ => none

/-- A refresh that has found its session and not revoked it yet. -/
def Request.holds (q : Request) : Bool :=
  match q.phase with
  | .upgrade _ _ revoked | .check _ _ revoked => !revoked
  | .revoke _ _ => true
  | _ => false

/-- No refresh finds its session while another one with the same token holds it. -/
def OneAtATime (s : Store) : Event → Prop
  | .advance i _ _ => ∀ q ∈ s.requests[i]?, (found digest s q).any (fun r => !r.2.revoked) = true →
    ∀ j < s.requests.length, ∀ q' ∈ s.requests[j]?, q'.token = q.token → j ≠ i →
      q'.holds = false
  | _ => True

instance (s : Store) (e : Event) : Decidable (OneAtATime digest s e) := by
  cases e <;> unfold OneAtATime <;> infer_instance

end Steps

/-! ### The rows of a token -/

/-- A row in which `get_session_by_token` finds the token. -/
def IsOf (digest : String → String) (token : String) (r : Session) : Prop :=
  r.refreshToken = digest token ∨ r.refreshToken = token

/-- A refresh that may still create a session. -/
def Request.live (q : Request) : Bool :=
  q.holds || match q.phase with
    | .create _ => true
    | _ => false

/-- The row a refresh works on. -/
def Request.row (q : Request) : Option ℤ :=
  match q.phase with
  | .upgrade id _ _ | .check id _ _ | .revoke id _ => some id
  | _ => none

def Request.creates (q : Request) : Bool :=
  match q.phase with
  | .create _ => true
  | _ => false

/-- Digests are different for different tokens, and no digest is a token. -/
structure Digests (valid : String → Bool) (digest : String → String) : Prop where
  injective : Function.Injective digest
  shape : ∀ t u, valid t = true → digest u ≠ t

structure Kept (valid : String → Bool) (digest : String → String) (s : Store) : Prop where
  tokens : ∀ q ∈ s.requests, valid q.token = true
  known : ∀ q ∈ s.requests, q.token ∈ s.issued
  covered : ∀ t, valid t = true → ∀ (k : ℤ) (r : Session), s.sessions[k]? = some r →
    IsOf digest t r → t ∈ s.issued
  oneRow : ∀ t, valid t = true → ∀ (j k : ℤ) (r r' : Session), s.sessions[j]? = some r →
    s.sessions[k]? = some r' → IsOf digest t r → IsOf digest t r' → j = k
  ids : ∀ (k : ℤ) (r : Session), s.sessions[k]? = some r → k ≤ s.sequence
  /-- the row a refresh works on is that of its token, for ids are not handed out again -/
  mine : ∀ q ∈ s.requests, ∀ id ∈ q.row, id ≤ s.sequence ∧
    ∀ r, s.sessions[id]? = some r → IsOf digest q.token r
  /-- a refresh works on the only row its token has -/
  held : ∀ q ∈ s.requests, ∀ id ∈ q.row, ∀ (k : ℤ) (r : Session), s.sessions[k]? = some r →
    IsOf digest q.token r → k = id
  /-- once a token is about to be exchanged, its row is revoked -/
  spent : ∀ t, (t ∈ s.exchanges ∨ ∃ q ∈ s.requests, q.token = t ∧ q.creates = true) →
    ∀ (k : ℤ) (r : Session), s.sessions[k]? = some r → IsOf digest t r → r.revoked = true
  alone : ∀ (i j : ℕ) (q q' : Request), s.requests[i]? = some q → s.requests[j]? = some q' →
    q.token = q'.token → q.live = true → q'.live = true → i = j
  unspent : ∀ q ∈ s.requests, q.live = true → q.token ∉ s.exchanges
  exchanged : ∀ t ∈ s.exchanges, valid t = true ∧ t ∈ s.issued
  once : s.exchanges.Nodup

variable {valid : String → Bool} {digest : String → String} {s s' : Store} {t : String}

lemma kept_start (users : Table Bool) : Kept valid digest (start users) where
  tokens _ h := by cases h
  known _ h := by cases h
  covered _ _ _ _ h := by simp [start] at h
  oneRow _ _ _ _ _ _ h := by simp [start] at h
  ids _ _ h := by simp [start] at h
  mine _ h := by cases h
  held _ h := by cases h
  spent _ _ _ _ h := by simp [start] at h
  alone _ _ _ _ h := by simp [start] at h
  unspent _ h := by cases h
  exchanged _ h := by cases h
  once := List.nodup_nil

lemma findColumn_some {column : String} {p : ℤ × Session} (h : findColumn column s = some p) :
    s.sessions[p.1]? = some p.2 ∧ p.2.refreshToken = column :=
  ⟨mem_rows.mp (List.mem_of_find?_eq_some h), by simpa using List.find?_some h⟩

/-! ### Changes of the table -/

/-- Rows are rewritten, revoked or deleted, and each one stays that of its token. -/
structure Shrinks (valid : String → Bool) (digest : String → String) (s s' : Store) : Prop where
  rows : ∀ (k : ℤ) (r' : Session), s'.sessions[k]? = some r' →
    ∃ r, s.sessions[k]? = some r ∧ (∀ t, valid t = true → (IsOf digest t r' ↔ IsOf digest t r)) ∧
      (r.revoked = true → r'.revoked = true)
  sequence : s'.sequence = s.sequence
  requests : s'.requests = s.requests
  issued : s'.issued = s.issued
  exchanges : s'.exchanges = s.exchanges

lemma kept_shrinks (h : Kept valid digest s) (hs : Shrinks valid digest s s') :
    Kept valid digest s' where
  tokens := by rw [hs.requests]; exact h.tokens
  known := by rw [hs.requests, hs.issued]; exact h.known
  covered t ht k r' hr' hof := by
    obtain ⟨r, hr, hiff, -⟩ := hs.rows k r' hr'
    rw [hs.issued]
    exact h.covered t ht k r hr ((hiff t ht).mp hof)
  oneRow t ht j k r r' hr hr' hof hof' := by
    obtain ⟨q, hq, hiff, -⟩ := hs.rows j r hr
    obtain ⟨q', hq', hiff', -⟩ := hs.rows k r' hr'
    exact h.oneRow t ht j k q q' hq hq' ((hiff t ht).mp hof) ((hiff' t ht).mp hof')
  ids k r' hr' := by
    obtain ⟨r, hr, -, -⟩ := hs.rows k r' hr'
    rw [hs.sequence]
    exact h.ids k r hr
  mine q hq id hid := by
    rw [hs.requests] at hq
    obtain ⟨hle, hrow⟩ := h.mine q hq id hid
    refine ⟨hs.sequence ▸ hle, fun r' hr' => ?_⟩
    obtain ⟨r, hr, hiff, -⟩ := hs.rows id r' hr'
    exact (hiff _ (h.tokens q hq)).mpr (hrow r hr)
  held q hq id hid k r' hr' hof := by
    rw [hs.requests] at hq
    obtain ⟨r, hr, hiff, -⟩ := hs.rows k r' hr'
    exact h.held q hq id hid k r hr ((hiff _ (h.tokens q hq)).mp hof)
  spent t ht k r' hr' hof := by
    rw [hs.requests, hs.exchanges] at ht
    have hvalid : valid t = true := by
      rcases ht with ht | ⟨q, hq, rfl, -⟩
      · exact (h.exchanged t ht).1
      · exact h.tokens q hq
    obtain ⟨r, hr, hiff, hrev⟩ := hs.rows k r' hr'
    exact hrev (h.spent t ht k r hr ((hiff t hvalid).mp hof))
  alone := by rw [hs.requests]; exact h.alone
  unspent := by rw [hs.requests, hs.exchanges]; exact h.unspent
  exchanged := by rw [hs.exchanges, hs.issued]; exact h.exchanged
  once := by rw [hs.exchanges]; exact h.once

lemma isOf_iff (hd : Digests valid digest) {u : String} (ht : valid t = true)
    (hu : valid u = true) {r : Session} (hr : IsOf digest u r) : IsOf digest t r ↔ t = u := by
  refine ⟨fun h => ?_, fun h => h ▸ hr⟩
  rcases h with h | h <;> rcases hr with hr | hr
  · exact hd.injective (h.symm.trans hr)
  · exact absurd (h.symm.trans hr) (hd.shape u t hu)
  · exact absurd (hr.symm.trans h) (hd.shape t u ht)
  · exact h.symm.trans hr

lemma shrinks_upgrade (hd : Digests valid digest) (h : Kept valid digest s) {q : Request}
    (hq : q ∈ s.requests) {id : ℤ} (hid : id ∈ q.row) :
    Shrinks valid digest s (upgradeSession digest id q.token s) := by
  unfold upgradeSession
  split
  · exact ⟨fun k r hr => ⟨r, hr, fun _ _ => Iff.rfl, fun hrev => hrev⟩, rfl, rfl, rfl, rfl⟩
  · refine ⟨fun k r' hr' => ?_, rfl, rfl, rfl, rfl⟩
    rw [lookup_modify] at hr'
    split at hr'
    · next hk =>
        subst hk
        obtain ⟨r, hr, rfl⟩ := Option.map_eq_some_iff.mp hr'
        have hold := (h.mine q hq k hid).2 r hr
        refine ⟨r, hr, fun t ht => ?_, fun hrev => hrev⟩
        rw [isOf_iff hd ht (h.tokens q hq) hold, isOf_iff hd ht (h.tokens q hq) (.inl rfl)]
    · exact ⟨r', hr', fun _ _ => Iff.rfl, fun hrev => hrev⟩

lemma shrinks_revoke (id : ℤ) : Shrinks valid digest s (revokeSession id s) := by
  refine ⟨fun k r' hr' => ?_, rfl, rfl, rfl, rfl⟩
  unfold revokeSession at hr'
  rw [lookup_modify] at hr'
  split at hr'
  · obtain ⟨r, hr, rfl⟩ := Option.map_eq_some_iff.mp hr'
    exact ⟨r, hr, fun _ _ => Iff.rfl, fun _ => rfl⟩
  · exact ⟨r', hr', fun _ _ => Iff.rfl, fun hrev => hrev⟩

/-! ### Changes of a request -/

/-- What a refresh must know of the row it goes on with. -/
def Works (digest : String → String) (s : Store) (q : Request) : Prop :=
  ∀ id ∈ q.row, (id ≤ s.sequence ∧ ∀ r, s.sessions[id]? = some r → IsOf digest q.token r) ∧
    ∀ (k : ℤ) (r : Session), s.sessions[k]? = some r → IsOf digest q.token r → k = id

/-- A refresh may be live: no other one of its token is, and the token is not spent. -/
def Free (s : Store) (i : ℕ) (q : Request) : Prop :=
  (∀ j q', s.requests[j]? = some q' → q'.token = q.token → q'.live = true → j = i) ∧
    q.token ∉ s.exchanges

lemma works_of_kept (h : Kept valid digest s) {q : Request} (hq : q ∈ s.requests) :
    Works digest s q := fun id hid => ⟨h.mine q hq id hid, h.held q hq id hid⟩

lemma free_of_live (h : Kept valid digest s) {i : ℕ} {q : Request} (hq : s.requests[i]? = some q)
    (hl : q.live = true) : Free s i q :=
  ⟨fun j q' hj htoken hl' => h.alone j i q' q hj hq htoken hl' hl,
    h.unspent q (List.mem_of_getElem? hq) hl⟩

lemma kept_setPhase (h : Kept valid digest s) {i : ℕ} {q : Request} (hq : s.requests[i]? = some q)
    {p : Phase} (hworks : Works digest s ⟨q.token, p⟩)
    (hcreates : (⟨q.token, p⟩ : Request).creates = true → ∀ (k : ℤ) (r : Session),
      s.sessions[k]? = some r → IsOf digest q.token r → r.revoked = true)
    (hfree : (⟨q.token, p⟩ : Request).live = true → Free s i q) :
    Kept valid digest (setPhase i p s) := by
  have hmem : q ∈ s.requests := List.mem_of_getElem? hq
  have hget : ∀ j q', (setPhase i p s).requests[j]? = some q' →
      (j = i ∧ q' = ⟨q.token, p⟩) ∨ (j ≠ i ∧ s.requests[j]? = some q') := by
    intro j q' hj
    unfold setPhase at hj
    rw [List.getElem?_modify] at hj
    by_cases hji : i = j
    · subst hji
      rw [hq] at hj
      left
      exact ⟨rfl, by simpa [eq_comm] using hj⟩
    · right
      refine ⟨Ne.symm hji, ?_⟩
      obtain ⟨x, hx, rfl⟩ := Option.map_eq_some_iff.mp hj
      simpa [hji] using hx
  have hin : ∀ q' ∈ (setPhase i p s).requests, q' = ⟨q.token, p⟩ ∨ q' ∈ s.requests := by
    intro q' hq'
    obtain ⟨j, hj⟩ := List.mem_iff_getElem?.mp hq'
    rcases hget j q' hj with ⟨-, rfl⟩ | ⟨-, hold⟩
    · exact .inl rfl
    · exact .inr (List.mem_of_getElem? hold)
  refine ⟨?_, ?_, h.covered, h.oneRow, h.ids, ?_, ?_, ?_, ?_, ?_, h.exchanged, h.once⟩
  · intro q' hq'
    rcases hin q' hq' with rfl | hold
    · exact h.tokens q hmem
    · exact h.tokens q' hold
  · intro q' hq'
    rcases hin q' hq' with rfl | hold
    · exact h.known q hmem
    · exact h.known q' hold
  · intro q' hq' id hid
    rcases hin q' hq' with rfl | hold
    · exact (hworks id hid).1
    · exact h.mine q' hold id hid
  · intro q' hq' id hid
    rcases hin q' hq' with rfl | hold
    · exact (hworks id hid).2
    · exact h.held q' hold id hid
  · rintro t (ht | ⟨q', hq', rfl, hc⟩)
    · exact h.spent t (.inl ht)
    · rcases hin q' hq' with rfl | hold
      · exact hcreates hc
      · exact h.spent _ (.inr ⟨q', hold, rfl, hc⟩)
  · intro j j' r r' hr hr' htoken hl hl'
    rcases hget j r hr with ⟨rfl, rfl⟩ | ⟨hj, hold⟩ <;>
      rcases hget j' r' hr' with ⟨rfl, rfl⟩ | ⟨hj', hold'⟩
    · rfl
    · exact ((hfree hl).1 j' r' hold' htoken.symm hl').symm
    · exact (hfree hl').1 j r hold htoken hl
    · exact h.alone _ _ r r' hold hold' htoken hl hl'
  · intro q' hq' hl
    rcases hin q' hq' with rfl | hold
    · exact (hfree hl).2
    · exact h.unspent q' hold hl

/-- A refresh that ends. -/
lemma kept_answered (h : Kept valid digest s) (i : ℕ) (ok : Bool) :
    Kept valid digest (setPhase i (.answered ok) s) := by
  cases hq : s.requests[i]? with
  | none =>
    have hsame : setPhase i (.answered ok) s = s := by
      unfold setPhase
      rw [List.modify_eq_self (List.getElem?_eq_none_iff.mp hq)]
    rw [hsame]
    exact h
  | some q => exact kept_setPhase h hq nofun nofun nofun

/-- A refresh that has found a row of its token. -/
lemma works_of_found (h : Kept valid digest s) {q : Request} (hq : q ∈ s.requests) {id : ℤ}
    {r : Session} (hr : s.sessions[id]? = some r) (hof : IsOf digest q.token r) (x : ℤ) (b : Bool) :
    Works digest s ⟨q.token, .check id x b⟩ ∧ Works digest s ⟨q.token, .upgrade id x b⟩ := by
  have hid : (id ≤ s.sequence ∧ ∀ r, s.sessions[id]? = some r → IsOf digest q.token r) ∧
      ∀ (k : ℤ) (r : Session), s.sessions[k]? = some r → IsOf digest q.token r → k = id := by
    refine ⟨⟨h.ids id r hr, fun r' hr' => ?_⟩, fun k r' hr' hof' => ?_⟩
    · obtain rfl := Option.some.inj (hr.symm.trans hr')
      exact hof
    · exact h.oneRow _ (h.tokens q hq) k id r' r hr' hr hof' hof
  constructor <;> rintro j hj <;> obtain rfl := Option.some.inj hj <;> exact hid

/-- An unrevoked row is that of a token nobody has exchanged or is about to create for; so the
refresh that finds it is free when no other one holds it. -/
lemma free_of_found (h : Kept valid digest s) {i : ℕ} {q : Request} {id : ℤ} {r : Session}
    (hr : s.sessions[id]? = some r) (hof : IsOf digest q.token r) (hrev : r.revoked = false)
    (hok : ∀ j < s.requests.length, ∀ q' ∈ s.requests[j]?, q'.token = q.token → j ≠ i →
      q'.holds = false) : Free s i q := by
  have hnot : ∀ t, IsOf digest t r →
      ¬ (t ∈ s.exchanges ∨ ∃ q ∈ s.requests, q.token = t ∧ q.creates = true) := by
    intro t hof hspent
    have := h.spent t hspent id r hr hof
    rw [hrev] at this
    cases this
  refine ⟨fun j q' hj htoken hl => ?_, fun hex => hnot q.token hof (.inl hex)⟩
  by_contra hne
  have hholds := hok j (List.getElem?_eq_some_iff.mp hj).1 q' hj htoken hne
  have hcreates : q'.creates = true := by
    unfold Request.live at hl
    rw [hholds, Bool.false_or] at hl
    exact hl
  exact hnot q.token hof (.inr ⟨q', List.mem_of_getElem? hj, htoken, hcreates⟩)

/-- A refresh that has found its row goes on to a phase that remembers it. -/
lemma kept_found (h : Kept valid digest s) {i : ℕ} {q : Request} (hq : s.requests[i]? = some q)
    {id : ℤ} {r : Session} (hr : s.sessions[id]? = some r) (hof : IsOf digest q.token r)
    (hok : r.revoked = false → ∀ j < s.requests.length, ∀ q' ∈ s.requests[j]?,
      q'.token = q.token → j ≠ i → q'.holds = false) {p : Phase}
    (hp : p = .check id r.userId r.revoked ∨ p = .upgrade id r.userId r.revoked) :
    Kept valid digest (setPhase i p s) := by
  have hmem := List.mem_of_getElem? hq
  have hworks := works_of_found h hmem hr hof r.userId r.revoked
  have hfree : ∀ b, b = r.revoked → (!b || false) = true → Free s i q := by
    rintro b rfl hb
    have hrev : r.revoked = false := by simpa using hb
    exact free_of_found h hr hof hrev (hok hrev)
  rcases hp with rfl | rfl
  · exact kept_setPhase h hq hworks.1 nofun (hfree _ rfl)
  · exact kept_setPhase h hq hworks.2 nofun (hfree _ rfl)

/-! ### New sessions -/

lemma insertSession_eq {userId expiresAt : ℤ} {column : String} {w : Store}
    (h : insertSession userId column expiresAt s = some w) :
    ∃ id, s.sequence < id ∧ s.sessions[id]? = none ∧
      w = { s with
        sessions := s.sessions.insert id ⟨userId, column, expiresAt, false⟩
        sequence := id } := by
  unfold insertSession at h
  split at h
  · cases h
  · obtain rfl := Option.some.inj h
    refine ⟨_, lt_of_lt_of_le (by omega) (le_max_left _ _), ?_, rfl⟩
    cases hr : s.sessions[max (s.sequence + 1) (nextId s.sessions)]? with
    | none => rfl
    | some r => exact absurd (lt_nextId hr) (not_lt.mpr (le_max_right _ _))

/-- A new token gets a row, which is that of no other token. -/
lemma kept_insertSession (h : Kept valid digest s) {userId expiresAt : ℤ} {column u : String}
    (hu : u ∉ s.issued)
    (hcolumn : ∀ t, valid t = true → column = digest t ∨ column = t → t = u) {w : Store}
    (hw : insertSession userId column expiresAt s = some w) :
    Kept valid digest { w with issued := u :: s.issued } := by
  obtain ⟨id, hid, hnone, rfl⟩ := insertSession_eq hw
  have hcase : ∀ (k : ℤ) (r : Session), (s.sessions.insert id
      ⟨userId, column, expiresAt, false⟩)[k]? = some r →
      (k = id ∧ r = ⟨userId, column, expiresAt, false⟩) ∨ s.sessions[k]? = some r := by
    intro k r hr
    rw [lookup_insert] at hr
    split at hr
    · next hk => exact .inl ⟨hk, (Option.some.inj hr).symm⟩
    · exact .inr hr
  have hnew : ∀ t, valid t = true → t ∈ s.issued →
      ¬ IsOf digest t ⟨userId, column, expiresAt, false⟩ := fun t ht hin hof =>
    hu (hcolumn t ht hof ▸ hin)
  refine ⟨h.tokens, fun q hq => List.mem_cons_of_mem _ (h.known q hq), ?_, ?_, ?_, ?_, ?_, ?_,
    h.alone, h.unspent, fun t ht => ?_, h.once⟩
  · intro t ht k r hr hof
    rcases hcase k r hr with ⟨-, rfl⟩ | hold
    · rw [hcolumn t ht hof]
      exact List.mem_cons_self
    · exact List.mem_cons_of_mem _ (h.covered t ht k r hold hof)
  · intro t ht j k r r' hr hr' hof hof'
    rcases hcase j r hr with ⟨rfl, rfl⟩ | hold <;> rcases hcase k r' hr' with ⟨rfl, rfl⟩ | hold'
    · rfl
    · exact absurd hof (hnew t ht (h.covered t ht k r' hold' hof'))
    · exact absurd hof' (hnew t ht (h.covered t ht j r hold hof))
    · exact h.oneRow t ht j k r r' hold hold' hof hof'
  · intro k r hr
    rcases hcase k r hr with ⟨rfl, -⟩ | hold
    · exact le_refl _
    · exact (h.ids k r hold).trans hid.le
  · intro q hq k hk
    obtain ⟨hle, hrow⟩ := h.mine q hq k hk
    refine ⟨hle.trans hid.le, fun r hr => ?_⟩
    rcases hcase k r hr with ⟨rfl, -⟩ | hold
    · exact absurd hle (not_le.mpr hid)
    · exact hrow r hold
  · intro q hq j hj k r hr hof
    rcases hcase k r hr with ⟨-, rfl⟩ | hold
    · exact absurd hof (hnew _ (h.tokens q hq) (h.known q hq))
    · exact h.held q hq j hj k r hold hof
  · intro t ht k r hr hof
    have hin : valid t = true ∧ t ∈ s.issued := by
      rcases ht with ht | ⟨q, hq, rfl, -⟩
      · exact h.exchanged t ht
      · exact ⟨h.tokens q hq, h.known q hq⟩
    rcases hcase k r hr with ⟨-, rfl⟩ | hold
    · exact absurd hof (hnew t hin.1 hin.2)
    · exact h.spent t ht k r hold hof
  · exact ⟨(h.exchanged t ht).1, List.mem_cons_of_mem _ (h.exchanged t ht).2⟩

/-- A token is exchanged, and no refresh of it is left that might do so again. -/
lemma kept_exchange (h : Kept valid digest s) (ht : valid t = true) (hin : t ∈ s.issued)
    (hlive : ∀ q ∈ s.requests, q.token = t → q.live = false) (hnew : t ∉ s.exchanges)
    (hrev : ∀ (k : ℤ) (r : Session), s.sessions[k]? = some r → IsOf digest t r →
      r.revoked = true) : Kept valid digest { s with exchanges := t :: s.exchanges } where
  tokens := h.tokens
  known := h.known
  covered := h.covered
  oneRow := h.oneRow
  ids := h.ids
  mine := h.mine
  held := h.held
  spent u hu k r hr hof := by
    rcases hu with hu | hu
    · rcases List.mem_cons.mp hu with rfl | hu
      · exact hrev k r hr hof
      · exact h.spent u (.inl hu) k r hr hof
    · exact h.spent u (.inr hu) k r hr hof
  alone := h.alone
  unspent q hq hl := by
    intro hmem
    rcases List.mem_cons.mp hmem with htoken | hmem
    · rw [hlive q hq htoken] at hl
      cases hl
    · exact h.unspent q hq hl hmem
  exchanged u hu := by
    rcases List.mem_cons.mp hu with rfl | hu
    · exact ⟨ht, hin⟩
    · exact h.exchanged u hu
  once := List.nodup_cons.mpr ⟨hnew, h.once⟩

/-! ### Steps and runs -/

lemma found_spec {q : Request} {p : ℤ × Session} (h : found digest s q = some p) :
    s.sessions[p.1]? = some p.2 ∧ IsOf digest q.token p.2 := by
  unfold found at h
  split at h
  · obtain ⟨hr, hc⟩ := findColumn_some h
    exact ⟨hr, .inl hc⟩
  · obtain ⟨hr, hc⟩ := findColumn_some h
    exact ⟨hr, .inr hc⟩
  · cases h

lemma kept_advance (hd : Digests valid digest) (h : Kept valid digest s) {i : ℕ}
    {nextToken : String} {expiresAt : ℤ}
    (hok : OneAtATime digest s (.advance i nextToken expiresAt))
    (hs : advance digest s i nextToken expiresAt = some s') : Kept valid digest s' := by
  obtain ⟨q, hq, hs⟩ := Option.bind_eq_some_iff.mp hs
  have hmem := List.mem_of_getElem? hq
  have hfound : ∀ {id r}, found digest s q = some (id, r) → r.revoked = false →
      ∀ j < s.requests.length, ∀ q' ∈ s.requests[j]?, q'.token = q.token → j ≠ i →
        q'.holds = false := fun hf hrev => hok q hq (by rw [hf]; simpa using hrev)
  cases hp : q.phase with
  | seek =>
    rw [hp] at hs
    dsimp only at hs
    split at hs
    · next id r hf =>
        obtain rfl := Option.some.inj hs
        have hf' : found digest s q = some (id, r) := by rw [found, hp]; exact hf
        obtain ⟨hr, hof⟩ := found_spec hf'
        exact kept_found h hq hr hof (hfound hf') (.inl rfl)
    · obtain rfl := Option.some.inj hs
      exact kept_setPhase h hq nofun nofun nofun
  | seekPlain =>
    rw [hp] at hs
    dsimp only at hs
    split at hs
    · next id r hf =>
        obtain rfl := Option.some.inj hs
        have hf' : found digest s q = some (id, r) := by rw [found, hp]; exact hf
        obtain ⟨hr, hof⟩ := found_spec hf'
        exact kept_found h hq hr hof (hfound hf') (.inr rfl)
    · obtain rfl := Option.some.inj hs
      exact kept_answered h i false
  | upgrade id userId revoked =>
    rw [hp] at hs
    obtain rfl := Option.some.inj hs
    have hid : id ∈ q.row := by rw [Request.row, hp]; rfl
    have hup := shrinks_upgrade hd h hmem hid
    have hkept := kept_shrinks h hup
    have hq' : (upgradeSession digest id q.token s).requests[i]? = some q := by
      rw [hup.requests]
      exact hq
    refine kept_setPhase hkept hq' (fun j hj => ?_) nofun fun hl => ?_
    · obtain rfl := Option.some.inj hj
      exact works_of_kept hkept (List.mem_of_getElem? hq') id hid
    · refine free_of_live hkept hq' ?_
      simpa [Request.live, Request.holds, hp] using hl
  | check id userId revoked =>
    rw [hp] at hs
    obtain rfl := Option.some.inj hs
    split
    · exact kept_answered h i false
    · next hgo =>
        have hrev : revoked = false := by
          by_contra hne
          simp [hne] at hgo
        have hid : id ∈ q.row := by rw [Request.row, hp]; rfl
        refine kept_setPhase h hq (fun j hj => ?_) nofun fun _ => ?_
        · obtain rfl := Option.some.inj hj
          exact works_of_kept h hmem id hid
        · exact free_of_live h hq (by simp [Request.live, Request.holds, hp, hrev])
  | revoke id userId =>
    rw [hp] at hs
    obtain rfl := Option.some.inj hs
    have hid : id ∈ q.row := by rw [Request.row, hp]; rfl
    have hkept : Kept valid digest (revokeSession id s) := kept_shrinks h (shrinks_revoke id)
    refine kept_setPhase hkept hq nofun (fun _ k r hr hof => ?_) fun _ => ?_
    · obtain rfl := hkept.held q hmem id hid k r hr hof
      unfold revokeSession at hr
      rw [lookup_modify, if_pos rfl] at hr
      obtain ⟨r', -, rfl⟩ := Option.map_eq_some_iff.mp hr
      rfl
    · exact free_of_live hkept hq (by simp [Request.live, Request.holds, hp])
  | create userId =>
    rw [hp] at hs
    dsimp only at hs
    split at hs
    · cases hs
    · next hfresh =>
        split at hs
        · obtain rfl := Option.some.inj hs
          exact kept_answered h i false
        · next w hw =>
            obtain rfl := Option.some.inj hs
            have hl : q.live = true := by simp [Request.live, Request.holds, hp]
            have hc : q.creates = true := by rw [Request.creates, hp]
            have hcolumn : ∀ t, valid t = true → digest nextToken = digest t ∨
                digest nextToken = t → t = nextToken := by
              rintro t ht (he | he)
              · exact (hd.injective he).symm
              · exact absurd he (hd.shape t nextToken ht)
            have hins := kept_insertSession h hfresh hcolumn hw
            have hsame : w.requests = s.requests ∧ w.exchanges = s.exchanges := by
              obtain ⟨id, -, -, rfl⟩ := insertSession_eq hw
              exact ⟨rfl, rfl⟩
            have hqw : w.requests[i]? = some q := by rw [hsame.1]; exact hq
            have hmemw := List.mem_of_getElem? hqw
            have hex := kept_exchange (kept_answered hins i true) (hins.tokens q hmemw)
              (hins.known q hmemw) ?_ (hins.unspent q hmemw hl)
              (hins.spent _ (.inr ⟨q, hmemw, rfl, hc⟩))
            · rw [← hsame.2]
              exact hex
            · intro q' hq' htoken
              obtain ⟨j, hj⟩ := List.mem_iff_getElem?.mp hq'
              unfold setPhase at hj
              rw [List.getElem?_modify] at hj
              obtain ⟨x, hx, rfl⟩ := Option.map_eq_some_iff.mp hj
              by_cases hij : i = j
              · simp [hij, Request.live, Request.holds]
              · simp only [hij, if_false] at htoken ⊢
                by_contra hne
                exact hij (hins.alone i j q x hqw hx htoken.symm hl (by simpa using hne))
  | answered ok =>
    rw [hp] at hs
    cases hs

lemma kept_present (h : Kept valid digest s) (ht : valid t = true) :
    Kept valid digest { s with
      requests := s.requests ++ [⟨t, .seek⟩]
      issued := t :: s.issued } := by
  have hin : ∀ q ∈ s.requests ++ [⟨t, .seek⟩], q = ⟨t, .seek⟩ ∨ q ∈ s.requests := by
    intro q hq
    rcases List.mem_append.mp hq with hq | hq
    · exact .inr hq
    · exact .inl (List.mem_singleton.mp hq)
  have hget : ∀ (i : ℕ) (q : Request), (s.requests ++ [⟨t, .seek⟩])[i]? = some q →
      q.live = true → s.requests[i]? = some q := by
    intro i q hq hl
    rcases Nat.lt_or_ge i s.requests.length with hi | hi
    · rwa [List.getElem?_append_left hi] at hq
    · rw [List.getElem?_append_right hi] at hq
      obtain rfl := List.mem_singleton.mp (List.mem_of_getElem? hq)
      cases hl
  refine ⟨?_, ?_, ?_, h.oneRow, h.ids, ?_, ?_, ?_, ?_, ?_, ?_, h.once⟩
  · intro q hq
    rcases hin q hq with rfl | hold
    · exact ht
    · exact h.tokens q hold
  · intro q hq
    rcases hin q hq with rfl | hold
    · exact List.mem_cons_self
    · exact List.mem_cons_of_mem _ (h.known q hold)
  · exact fun u hu k r hr hof => List.mem_cons_of_mem _ (h.covered u hu k r hr hof)
  · intro q hq
    rcases hin q hq with rfl | hold
    · nofun
    · exact h.mine q hold
  · intro q hq
    rcases hin q hq with rfl | hold
    · nofun
    · exact h.held q hold
  · rintro u (hu | ⟨q, hq, rfl, hc⟩)
    · exact h.spent u (.inl hu)
    · rcases hin q hq with rfl | hold
      · cases hc
      · exact h.spent _ (.inr ⟨q, hold, rfl, hc⟩)
  · intro i j q q' hq hq' htoken hl hl'
    exact h.alone i j q q' (hget i q hq hl) (hget j q' hq' hl') htoken hl hl'
  · intro q hq hl
    rcases hin q hq with rfl | hold
    · cases hl
    · exact h.unspent q hold hl
  · exact fun u hu => ⟨(h.exchanged u hu).1, List.mem_cons_of_mem _ (h.exchanged u hu).2⟩

lemma kept_step (hd : Digests valid digest) {e : Event} (h : Kept valid digest s)
    (hok : OneAtATime digest s e) (hs : step valid digest s e = some s') :
    Kept valid digest s' := by
  cases e with
  | present token =>
    rw [step] at hs
    split at hs
    · next ht =>
        obtain rfl := Option.some.inj hs
        exact kept_present h ht
    · obtain rfl := Option.some.inj hs
      exact h
  | advance i nextToken expiresAt => exact kept_advance hd h hok hs
  | drop i =>
    obtain rfl := Option.some.inj hs
    exact kept_answered h i false
  | cleanupExpired now =>
    obtain rfl := Option.some.inj hs
    refine kept_shrinks h ⟨fun k r' hr' => ?_, rfl, rfl, rfl, rfl⟩
    rw [Std.ExtTreeMap.getElem?_filter'] at hr'
    exact ⟨r', (Option.filter_eq_some_iff.mp hr').1, fun _ _ => Iff.rfl, fun hrev => hrev⟩
  | login userId token expiresAt =>
    rw [step] at hs
    split at hs
    · cases hs
    · next hfresh =>
        obtain ⟨w, hw, rfl⟩ := Option.map_eq_some_iff.mp hs
        have hsame : w.issued = s.issued := by
          obtain ⟨id, -, -, rfl⟩ := insertSession_eq hw
          rfl
        refine kept_insertSession h hfresh ?_ hw
        rintro t ht (he | he)
        · exact (hd.injective he).symm
        · exact absurd he (hd.shape t token ht)
  | logout userId =>
    obtain rfl := Option.some.inj hs
    refine kept_shrinks h ⟨fun k r' hr' => ?_, rfl, rfl, rfl, rfl⟩
    rw [Std.ExtTreeMap.getElem?_map] at hr'
    obtain ⟨r, hr, rfl⟩ := Option.map_eq_some_iff.mp hr'
    refine ⟨r, hr, fun t _ => ?_, fun hrev => ?_⟩ <;> split
    · exact Iff.rfl
    · exact Iff.rfl
    · rfl
    · exact hrev
  | editUsers users =>
    obtain rfl := Option.some.inj hs
    exact { h with }
  | adopt userId token expiresAt =>
    rw [step] at hs
    split at hs
    · cases hs
    · next hfresh =>
        have hfresh' : token ∉ s.issued ∧ valid token = true := by simpa using hfresh
        obtain ⟨w, hw, rfl⟩ := Option.map_eq_some_iff.mp hs
        refine kept_insertSession h hfresh'.1 ?_ hw
        rintro t ht (he | he)
        · exact absurd he.symm (hd.shape token t hfresh'.2)
        · exact he.symm

/-- **Refresh tokens are single use.** In every run in which no refresh finds its session while
another one with the same token holds it, each token is exchanged for at most one session. -/
theorem exchanged_once (hd : Digests valid digest) {users : Table Bool} {es : List Event}
    (h : exec (step valid digest) (start users) es = some s)
    (hok : Meets (step valid digest) (OneAtATime digest) (start users) es) (t : String) :
    s.exchanges.count t ≤ 1 :=
  List.nodup_iff_count_le_one.mp
    (inv_of_exec (fun _ _ _ hk hok hs => kept_step hd hk hok hs) (kept_start users) hok h).once t

/-! ### Two refreshes of one token -/

/-- A digest that shows in its text that it is one. -/
def marked (t : String) : String := "sha256:" ++ t

def isJwt (t : String) : Bool := t.toList.head? = some 'j'

lemma digests_marked : Digests isJwt marked where
  injective t u h := by
    have hlist := congrArg String.toList h
    simp only [marked, String.toList_append, List.append_cancel_left_eq] at hlist
    exact String.toList_injective hlist
  shape t u ht h := by
    subst h
    simp [isJwt, marked] at ht

/-- A user who logs in, and a refresh with the token that comes to its end. -/
def oneRefresh : List Event :=
  [.cleanupExpired 5, .login 1 "j0" 100, .present "j0", .advance 0 "" 0, .advance 0 "" 0,
    .advance 0 "" 0, .advance 0 "j1" 200]

/-- Another refresh with the same token, all the way. -/
theorem exchanged_once_oneRefresh :
    ∃ s, exec (step isJwt marked) (start ((∅ : Table Bool).insert 1 true))
        (oneRefresh ++ [.present "j0", .advance 1 "" 0, .advance 1 "" 0]) = some s ∧
      "j0" ∈ s.exchanges ∧ s.exchanges.count "j0" ≤ 1 := by
  have hrun : ((exec (step isJwt marked) (start ((∅ : Table Bool).insert 1 true))
      (oneRefresh ++ [.present "j0", .advance 1 "" 0, .advance 1 "" 0])).any fun s =>
      decide ("j0" ∈ s.exchanges)) = true := by
    decide +kernel
  obtain ⟨s, hs, hmem⟩ := (Option.any_eq_true ..).mp hrun
  exact ⟨s, hs, of_decide_eq_true hmem,
    exchanged_once digests_marked hs (by decide +kernel) "j0"⟩

/-- **A token exchanged twice.** Two refreshes find the session of one token before either of
them revokes it, and both create a session. -/
theorem exchanged_twice :
    ∃ s, exec (step isJwt marked) (start ((∅ : Table Bool).insert 1 true))
        [.login 1 "j0" 100, .present "j0", .present "j0", .advance 0 "" 0, .advance 1 "" 0,
          .advance 0 "" 0, .advance 0 "" 0, .advance 0 "j1" 200, .advance 1 "" 0,
          .advance 1 "" 0, .advance 1 "j2" 200] = some s ∧
      s.exchanges.count "j0" = 2 := by
  have hrun : ((exec (step isJwt marked) (start ((∅ : Table Bool).insert 1 true))
      [.login 1 "j0" 100, .present "j0", .present "j0", .advance 0 "" 0, .advance 1 "" 0,
        .advance 0 "" 0, .advance 0 "" 0, .advance 0 "j1" 200, .advance 1 "" 0,
        .advance 1 "" 0, .advance 1 "j2" 200]).any fun s =>
      decide (s.exchanges.count "j0" = 2)) = true := by
    decide +kernel
  obtain ⟨s, hs, hcount⟩ := (Option.any_eq_true ..).mp hrun
  exact ⟨s, hs, of_decide_eq_true hcount⟩

end OnAir.RefreshTokens
