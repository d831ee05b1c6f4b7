import Mathlib.Data.List.Infix
import Mathlib.Tactic.Linarith
import OnAir.PythonText
import OnAir.Runs
import OnAir.Table

/-!
The count of failed logins, and what it does to an account.

Failures are counted under the name a login gives, without the blanks around it; a name finds
the account that has exactly this name. Times are seconds. A login reads the clock when it asks
for the count and when it writes to it, and the password is looked at in between.
-/

namespace OnAir.LoginThrottle

open PythonText Runs OnAir.Table

/-! ### The count -/

/-- `BruteForceProtection.failed_attempts`; a name without an entry has no failures. -/
abbrev Attempts := String → List ℚ

/-- `timedelta(minutes=5)`. -/
def window : ℚ := 300

def maxFailures : ℕ := 5

/-- `_prune`. -/
def prune (identifier : String) (now : ℚ) (a : Attempts) : Attempts :=
  Function.update a identifier ((a identifier).filter (now - window ≤ ·))

/-- `check_allowed`. -/
def checkAllowed (identifier : String) (now : ℚ) (a : Attempts) : Bool × Attempts :=
  (decide ((prune identifier now a identifier).length < maxFailures), prune identifier now a)

lemma checkAllowed_snd (identifier : String) (now : ℚ) (a : Attempts) :
    (checkAllowed identifier now a).2 = prune identifier now a := rfl

lemma checkAllowed_fst {identifier : String} {now : ℚ} {a : Attempts} :
    (checkAllowed identifier now a).1 = true ↔
      (prune identifier now a identifier).length < maxFailures := by
  simp only [checkAllowed, decide_eq_true_eq]

/-- `record_failure`, with the times of its two looks at the clock. -/
def recordFailure (identifier : String) (pruned now : ℚ) (a : Attempts) : Attempts :=
  Function.update a identifier (prune identifier pruned a identifier ++ [now])

/-- `record_success`. -/
def recordSuccess (identifier : String) (a : Attempts) : Attempts :=
  Function.update a identifier []

/-! ### Accounts and logins -/

structure User where
  username : String
  passwordHash : String
  isActive : Bool
  deriving DecidableEq, Repr

/-- A login, and what the world does to it. -/
structure Request where
  username : String
  password : String
  checkedAt : ℚ
  /-- the database can be opened and cleaned up -/
  opened : Bool
  evaluatedAt : ℚ
  prunedAt : ℚ
  recordedAt : ℚ
  /-- the tokens are made and the session is stored -/
  stored : Bool
  deriving DecidableEq, Repr

/-- The moments of a request in their order, none of them before `clock`. -/
def Request.Timed (r : Request) (clock : ℚ) : Prop :=
  clock ≤ r.checkedAt ∧ r.checkedAt ≤ r.evaluatedAt ∧ r.evaluatedAt ≤ r.prunedAt ∧
    r.prunedAt ≤ r.recordedAt

instance (r : Request) (clock : ℚ) : Decidable (r.Timed clock) :=
  inferInstanceAs (Decidable (_ ∧ _ ∧ _ ∧ _))

/-- A login that came to an account and was judged there. -/
structure Evaluation where
  userId : ℤ
  time : ℚ
  success : Bool
  deriving DecidableEq, Repr

inductive Answer
  | tokens
  | invalidCredentials
  /-- an exception of the database or of the password library -/
  | error
  deriving DecidableEq, Repr

structure State where
  users : Table User
  attempts : Attempts
  clock : ℚ
  /-- the judged logins, the last one first -/
  log : List Evaluation

def start (users : Table User) (clock : ℚ) : State := ⟨users, fun _ => [], clock, []⟩

/-- `SELECT * FROM users WHERE username=?`. -/
def getUserByUsername (username : String) (users : Table User) : Option (ℤ × User) :=
  (rows users).find? fun u => u.2.username = username

section Login

variable (verify : String → String → Option Bool)

/-- `login`; `verify` may raise, as it does on a hash it does not know. -/
def login (r : Request) (s : State) : Answer × State :=
  let username := trim r.username
  let check := checkAllowed username r.checkedAt s.attempts
  let failed := recordFailure username r.prunedAt r.recordedAt check.2
  if !check.1 then (.invalidCredentials, { s with attempts := check.2 })
  else if !r.opened then (.error, { s with attempts := check.2 })
  else match getUserByUsername username s.users with
    | none => (.invalidCredentials, { s with attempts := failed })
    | some (id, user) =>
      if !user.isActive then
        (.invalidCredentials,
          { s with attempts := failed, log := ⟨id, r.evaluatedAt, false⟩ :: s.log })
      else match verify r.password user.passwordHash with
        | none => (.error, { s with attempts := check.2 })
        | some false =>
          (.invalidCredentials,
            { s with attempts := failed, log := ⟨id, r.evaluatedAt, false⟩ :: s.log })
        | some true =>
          let log := ⟨id, r.evaluatedAt, true⟩ :: s.log
          if r.stored then
            (.tokens, { s with attempts := recordSuccess username check.2, log := log })
          else (.error, { s with attempts := check.2, log := log })

inductive Event
  | login (r : Request)
  /-- a new account under a free id; the name is unique -/
  | createUser (id : ℤ) (u : User)
  | setActive (id : ℤ) (isActive : Bool)
  | setPasswordHash (id : ℤ) (passwordHash : String)

def step (s : State) : Event → Option State
  | .login r => if r.Timed s.clock then some { (login verify r s).2 with clock := r.recordedAt }
      else none
  | .createUser id u =>
    if s.users[id]? = none ∧ getUserByUsername u.username s.users = none then
      some { s with users := s.users.insert id u }
    else none
  | .setActive id isActive =>
    some { s with users := s.users.modify id fun u => { u with isActive := isActive } }
  | .setPasswordHash id passwordHash =>
    some { s with users := s.users.modify id fun u => { u with passwordHash := passwordHash } }

end Login

/-! ### Counting -/

/-- How many of the times lie at or after `t`. -/
def since (t : ℚ) (l : List ℚ) : ℕ := l.countP fun x => t ≤ x

lemma since_append (t : ℚ) (l m : List ℚ) : since t (l ++ m) = since t l + since t m :=
  List.countP_append

/-- What a look at the count takes out is too old to be counted later. -/
lemma since_prune {identifier name : String} {now t : ℚ} (a : Attempts) (h : now - window ≤ t) :
    since t (prune identifier now a name) = since t (a name) := by
  by_cases hn : name = identifier
  · subst hn
    simp only [since, prune, Function.update_self, List.countP_filter]
    refine List.countP_congr fun x _ => ?_
    simp only [Bool.and_eq_true, decide_eq_true_eq, and_iff_left_iff_imp]
    exact fun hx => le_trans h hx
  · simp [prune, hn]

/-- The times of the account's failures after its last success. -/
def recent (id : ℤ) (log : List Evaluation) : List ℚ :=
  ((log.filter (·.userId = id)).takeWhile fun e => !e.success).map (·.time)

/-- How many failures of the account a stretch of the log has in the window from `w` on. -/
def failuresIn (id : ℤ) (w : ℚ) (l : List Evaluation) : ℕ :=
  l.countP fun e => e.userId = id ∧ e.success = false ∧ w ≤ e.time ∧ e.time ≤ w + window

/-- No success of the account. -/
def Fruitless (id : ℤ) (l : List Evaluation) : Prop := ∀ e ∈ l, e.userId = id → e.success = false

instance (id : ℤ) (l : List Evaluation) : Decidable (Fruitless id l) :=
  inferInstanceAs (Decidable (∀ e ∈ l, _))

lemma recent_cons (id : ℤ) (e : Evaluation) (log : List Evaluation) :
    recent id (e :: log) = if e.userId ≠ id then recent id log
      else if e.success then [] else e.time :: recent id log := by
  by_cases hid : e.userId = id
  · cases hs : e.success <;> simp [recent, hid, hs]
  · simp [recent, hid]

lemma failuresIn_cons_other {id : ℤ} {e : Evaluation} (h : e.userId ≠ id) (w : ℚ)
    (l : List Evaluation) : failuresIn id w (e :: l) = failuresIn id w l := by
  simp [failuresIn, h]

/-- The failures of a fruitless stretch that reaches to the present are recent ones. -/
lemma failuresIn_le_since {id : ℤ} (w : ℚ) {mid log : List Evaluation} (h : mid <+: log)
    (hmid : Fruitless id mid) : failuresIn id w mid ≤ since w (recent id log) := by
  induction log generalizing mid with
  | nil => simp [List.prefix_nil.mp h, failuresIn]
  | cons e log ih =>
    obtain rfl | ⟨t, rfl, ht⟩ := List.prefix_cons_iff.mp h
    · simp [failuresIn]
    have hrest := ih ht fun x hx => hmid x (List.mem_cons_of_mem _ hx)
    by_cases hid : e.userId = id
    · have hfail : e.success = false := hmid e List.mem_cons_self hid
      rw [recent_cons, if_neg (not_not.mpr hid), hfail, if_neg Bool.false_ne_true]
      simp only [failuresIn, since, List.countP_cons] at hrest ⊢
      refine Nat.add_le_add hrest ?_
      by_cases hw : w ≤ e.time
      · rw [if_pos (decide_eq_true hw)]
        split <;> omega
      · simp [hw]
    · rw [failuresIn_cons_other hid, recent_cons, if_pos hid]
      exact hrest

/-! ### What a login does -/

/-- What may come of a login: nothing is judged, or an account fails or succeeds. -/
inductive Outcome (r : Request) (s t : State) : Prop
  | unjudged (hlog : t.log = s.log)
      (ha : t.attempts = prune (trim r.username) r.checkedAt s.attempts)
  | unknown (hlog : t.log = s.log)
      (ha : t.attempts = recordFailure (trim r.username) r.prunedAt r.recordedAt
        (prune (trim r.username) r.checkedAt s.attempts))
  | failure (id : ℤ) (u : User) (hid : s.users[id]? = some u) (hname : u.username = trim r.username)
      (hroom : (prune (trim r.username) r.checkedAt s.attempts (trim r.username)).length <
        maxFailures)
      (hlog : t.log = ⟨id, r.evaluatedAt, false⟩ :: s.log)
      (ha : t.attempts = recordFailure (trim r.username) r.prunedAt r.recordedAt
        (prune (trim r.username) r.checkedAt s.attempts))
  | success (id : ℤ) (u : User) (hid : s.users[id]? = some u) (hname : u.username = trim r.username)
      (hlog : t.log = ⟨id, r.evaluatedAt, true⟩ :: s.log)
      (ha : t.attempts = recordSuccess (trim r.username)
          (prune (trim r.username) r.checkedAt s.attempts) ∨
        t.attempts = prune (trim r.username) r.checkedAt s.attempts)

variable {verify : String → String → Option Bool} {r : Request} {s t : State}

lemma login_users (r : Request) (s : State) : (login verify r s).2.users = s.users := by
  unfold login
  dsimp only
  repeat' split
  all_goals rfl

lemma login_outcome (r : Request) (s : State) : Outcome r s (login verify r s).2 := by
  unfold login
  simp only [checkAllowed_snd]
  by_cases hroom : (checkAllowed (trim r.username) r.checkedAt s.attempts).1 = true
  swap
  · simp only [hroom, Bool.not_false, if_true]
    refine .unjudged rfl ?_
    dsimp only
  simp only [hroom, Bool.not_true, if_false, Bool.false_eq_true]
  have hlen := checkAllowed_fst.mp hroom
  by_cases hopened : r.opened = true
  swap
  · simp only [hopened, Bool.not_false, if_true]
    refine .unjudged rfl ?_
    dsimp only
  simp only [hopened, Bool.not_true, if_false, Bool.false_eq_true]
  cases hfind : getUserByUsername (trim r.username) s.users with
  | none =>
    refine .unknown rfl ?_
    dsimp only
  | some found =>
    obtain ⟨id, user⟩ := found
    have hid : s.users[id]? = some user := mem_rows.mp (List.mem_of_find?_eq_some hfind)
    have hname : user.username = trim r.username := by
      simpa using List.find?_some hfind
    by_cases hactive : user.isActive = true
    swap
    · simp only [hactive, Bool.not_false, if_true]
      refine .failure id user hid hname hlen rfl ?_
      dsimp only
    · simp only [hactive, Bool.not_true, if_false, Bool.false_eq_true]
      cases verify r.password user.passwordHash with
      | none =>
        refine .unjudged rfl ?_
        dsimp only
      | some correct =>
        cases correct with
        | false =>
          refine .failure id user hid hname hlen rfl ?_
          dsimp only
        | true =>
          by_cases hstored : r.stored = true
          · simp only [hstored, if_true]
            refine .success id user hid hname rfl ?_
            left
            dsimp only
          · simp only [hstored, if_false, Bool.false_eq_true]
            refine .success id user hid hname rfl ?_
            right
            dsimp only

/-! ### The invariant -/

/-- Accounts have different names. -/
def UniqueNames (users : Table User) : Prop :=
  ∀ (id : ℤ) (u : User) (id' : ℤ) (u' : User), users[id]? = some u → users[id']? = some u' →
    u.username = u'.username → id = id'

structure Counted (s : State) : Prop where
  unique : UniqueNames s.users
  known : ∀ e ∈ s.log, s.users[e.userId]?.isSome
  /-- recent failures that are not too old are in the count -/
  counted : ∀ id u, s.users[id]? = some u → ∀ t, s.clock - window ≤ t →
    since t (recent id s.log) ≤ since t (s.attempts u.username)
  bounded : ∀ id w mid, mid <:+: s.log → Fruitless id mid → failuresIn id w mid ≤ maxFailures

lemma counted_start {users : Table User} (h : UniqueNames users) (clock : ℚ) :
    Counted (start users clock) where
  unique := h
  known e he := by simp [start] at he
  counted id u _ t _ := by simp [start, recent, since]
  bounded id w mid hmid _ := by simp [List.infix_nil.mp hmid, failuresIn]

lemma since_recordFailure {identifier name : String} {pruned now t : ℚ} (a : Attempts)
    (h : pruned - window ≤ t) :
    since t (recordFailure identifier pruned now a name) =
      since t (a name) + if name = identifier ∧ t ≤ now then 1 else 0 := by
  by_cases hn : name = identifier
  · subst hn
    have hold : since t (prune name pruned a name) = since t (a name) := since_prune a h
    rw [recordFailure, Function.update_self, since_append, hold]
    simp [since, List.countP_cons]
  · simp [recordFailure, hn]

lemma Fruitless.tail {id : ℤ} {e : Evaluation} {l : List Evaluation} (h : Fruitless id (e :: l)) :
    Fruitless id l := fun x hx => h x (List.mem_cons_of_mem _ hx)

/-- The stretches of a log that one more entry has grown. -/
lemma bounded_cons {id : ℤ} {e : Evaluation} {log : List Evaluation} {w : ℚ}
    (hold : ∀ mid, mid <:+: log → Fruitless id mid → failuresIn id w mid ≤ maxFailures)
    (hnew : e.userId = id → e.success = false → w ≤ e.time → e.time ≤ w + window →
      since w (recent id log) < maxFailures)
    {mid : List Evaluation} (hmid : mid <:+: e :: log) (hf : Fruitless id mid) :
    failuresIn id w mid ≤ maxFailures := by
  rcases List.infix_cons_iff.mp hmid with hpre | hin
  swap
  · exact hold mid hin hf
  obtain rfl | ⟨l, rfl, hl⟩ := List.prefix_cons_iff.mp hpre
  · exact Nat.zero_le _
  have hrest := hold l hl.isInfix hf.tail
  by_cases hcount : e.userId = id ∧ e.success = false ∧ w ≤ e.time ∧ e.time ≤ w + window
  · have hroom := hnew hcount.1 hcount.2.1 hcount.2.2.1 hcount.2.2.2
    have hle := failuresIn_le_since w hl hf.tail
    simp only [failuresIn, List.countP_cons, hcount, and_self, decide_true, if_true] at hle ⊢
    omega
  · simp only [failuresIn, List.countP_cons, hcount, decide_false, Bool.false_eq_true, if_false]
    exact hrest

section Judged

variable (h : Counted s) (ht : r.Timed s.clock) (hout : Outcome r s t)
include h hout

lemma known_outcome : ∀ e ∈ t.log, s.users[e.userId]?.isSome := by
  cases hout with
  | unjudged hlog _ =>
    rw [hlog]
    exact h.known
  | unknown hlog _ =>
    rw [hlog]
    exact h.known
  | failure id u hid _ _ hlog _ =>
    rw [hlog, List.forall_mem_cons]
    exact ⟨by simp [hid], h.known⟩
  | success id u hid _ hlog _ =>
    rw [hlog, List.forall_mem_cons]
    exact ⟨by simp [hid], h.known⟩

include ht

lemma counted_outcome {id : ℤ} {u : User} (hu : s.users[id]? = some u) {w : ℚ}
    (hw : r.recordedAt - window ≤ w) :
    since w (recent id t.log) ≤ since w (t.attempts u.username) := by
  obtain ⟨hc, he, hp, hr⟩ := ht
  have hbefore : since w (recent id s.log) ≤
      since w (prune (trim r.username) r.checkedAt s.attempts u.username) := by
    rw [since_prune _ (by linarith)]
    exact h.counted id u hu w (by linarith)
  cases hout with
  | unjudged hlog ha =>
    rw [hlog, ha]
    exact hbefore
  | unknown hlog ha =>
    rw [hlog, ha, since_recordFailure _ (by linarith)]
    exact hbefore.trans (Nat.le_add_right ..)
  | failure id' u' hid hname _ hlog ha =>
    rw [hlog, ha, since_recordFailure _ (by linarith), recent_cons]
    by_cases hsame : id' = id
    · subst hsame
      obtain rfl : u = u' := Option.some.inj (hu.symm.trans hid)
      have hone : (if w ≤ r.evaluatedAt then 1 else 0) ≤
          if u.username = trim r.username ∧ w ≤ r.recordedAt then 1 else 0 := by
        by_cases hwe : w ≤ r.evaluatedAt
        · rw [if_pos hwe, if_pos ⟨hname, by linarith⟩]
        · rw [if_neg hwe]
          exact Nat.zero_le _
      simp only [ne_eq, not_true, if_false, Bool.false_eq_true, since, List.countP_cons,
        decide_eq_true_eq] at hbefore ⊢
      omega
    · rw [if_pos hsame]
      exact hbefore.trans (Nat.le_add_right ..)
  | success id' u' hid hname hlog ha =>
    rw [hlog, recent_cons]
    by_cases hsame : id' = id
    · simp [hsame, since]
    · rw [if_pos hsame]
      have hother : u.username ≠ trim r.username := fun hn =>
        hsame (h.unique _ _ _ _ hid hu (hname.trans hn.symm))
      rcases ha with ha | ha <;> rw [ha]
      · rw [recordSuccess, Function.update_of_ne hother]
        exact hbefore
      · exact hbefore

lemma bounded_outcome {id : ℤ} {w : ℚ} {mid : List Evaluation} (hmid : mid <:+: t.log)
    (hf : Fruitless id mid) : failuresIn id w mid ≤ maxFailures := by
  obtain ⟨hc, he, -, -⟩ := ht
  cases hout with
  | unjudged hlog _ =>
    rw [hlog] at hmid
    exact h.bounded id w mid hmid hf
  | unknown hlog _ =>
    rw [hlog] at hmid
    exact h.bounded id w mid hmid hf
  | failure id' u' hid hname hroom hlog _ =>
    rw [hlog] at hmid
    refine bounded_cons (h.bounded id w) ?_ hmid hf
    -- the account was let through: fewer than the bound were counted at the check
    intro hsame _ hw1 hw2
    dsimp only at hsame hw1 hw2
    subst hsame
    have hcount := h.counted _ _ hid w (by linarith)
    have hpruned : since w (prune (trim r.username) r.checkedAt s.attempts (trim r.username)) =
        since w (s.attempts (trim r.username)) := since_prune _ (by linarith)
    rw [hname, ← hpruned] at hcount
    exact (hcount.trans (List.countP_le_length ..)).trans_lt hroom
  | success id' u' _ _ hlog _ =>
    rw [hlog] at hmid
    exact bounded_cons (h.bounded id w) (fun _ hs => Bool.noConfusion hs) hmid hf

end Judged

lemma counted_login (h : Counted s) (ht : r.Timed s.clock) :
    Counted { (login verify r s).2 with clock := r.recordedAt } := by
  have hout : Outcome r s (login verify r s).2 := login_outcome r s
  refine ⟨?_, ?_, ?_, ?_⟩ <;> dsimp only
  · rw [login_users]
    exact h.unique
  · rw [login_users]
    exact known_outcome h hout
  · rw [login_users]
    exact fun id u hu w hw => counted_outcome h ht hout hu hw
  · exact fun id w mid => bounded_outcome h ht hout

lemma counted_createUser {id : ℤ} {u : User} (h : Counted s) (hfree : s.users[id]? = none)
    (hname : getUserByUsername u.username s.users = none) :
    Counted { s with users := s.users.insert id u } := by
  have hnew : ∀ (id' : ℤ) (u' : User), s.users[id']? = some u' → u'.username ≠ u.username :=
    fun id' u' hu' => by
      simpa using List.find?_eq_none.mp hname (id', u') (mem_rows.mpr hu')
  have hunseen : recent id s.log = [] := by
    have : s.log.filter (·.userId = id) = [] := by
      refine List.filter_eq_nil_iff.mpr fun e he heq => ?_
      have hknown := h.known e he
      rw [of_decide_eq_true heq, hfree] at hknown
      exact Bool.noConfusion hknown
    rw [recent, this]
    rfl
  refine ⟨fun id₁ u₁ id₂ u₂ h₁ h₂ hsame => ?_, fun e he => ?_, fun id' u' hu' w hw => ?_,
    h.bounded⟩
  · dsimp only at h₁ h₂
    rw [lookup_insert] at h₁ h₂
    split at h₁ <;> split at h₂
    · simp_all
    · obtain rfl := Option.some.inj h₁
      exact absurd hsame.symm (hnew _ _ h₂)
    · obtain rfl := Option.some.inj h₂
      exact absurd hsame (hnew _ _ h₁)
    · exact h.unique _ _ _ _ h₁ h₂ hsame
  · dsimp only
    rw [lookup_insert]
    split
    · rfl
    · exact h.known e he
  · dsimp only at hu' ⊢
    rw [lookup_insert] at hu'
    split at hu'
    · simp_all [since]
    · exact h.counted _ _ hu' w hw

/-- A change of a row that leaves its name. -/
lemma counted_modify {id : ℤ} {f : User → User} (h : Counted s)
    (hf : ∀ u, (f u).username = u.username) : Counted { s with users := s.users.modify id f } := by
  have hback : ∀ (id' : ℤ) (u' : User), (s.users.modify id f)[id']? = some u' →
      ∃ u, s.users[id']? = some u ∧ u.username = u'.username := by
    intro id' u' hu'
    rw [lookup_modify] at hu'
    split at hu'
    · obtain ⟨u, hu, rfl⟩ := Option.map_eq_some_iff.mp hu'
      exact ⟨u, hu, (hf u).symm⟩
    · exact ⟨u', hu', rfl⟩
  refine ⟨fun id₁ u₁ id₂ u₂ h₁ h₂ hsame => ?_, fun e he => ?_, fun id' u' hu' w hw => ?_,
    h.bounded⟩
  · obtain ⟨v₁, hv₁, hn₁⟩ := hback _ _ h₁
    obtain ⟨v₂, hv₂, hn₂⟩ := hback _ _ h₂
    exact h.unique _ _ _ _ hv₁ hv₂ (by rw [hn₁, hn₂, hsame])
  · dsimp only
    rw [lookup_modify]
    split <;> simp [h.known e he]
  · obtain ⟨v, hv, hn⟩ := hback _ _ hu'
    rw [← hn]
    exact h.counted _ _ hv w hw

lemma counted_step {e : Event} (h : Counted s) (hs : step verify s e = some t) : Counted t := by
  cases e with
  | login r =>
    obtain ⟨ht, heq⟩ := Option.ite_none_right_eq_some.mp hs
    rw [← Option.some.inj heq]
    exact counted_login h ht
  | createUser id u =>
    obtain ⟨⟨hfree, hname⟩, heq⟩ := Option.ite_none_right_eq_some.mp hs
    rw [← Option.some.inj heq]
    exact counted_createUser h hfree hname
  | setActive id isActive =>
    obtain rfl := Option.some.inj hs
    exact counted_modify h fun _ => rfl
  | setPasswordHash id passwordHash =>
    obtain rfl := Option.some.inj hs
    exact counted_modify h fun _ => rfl

/-- **Login throttling.** Whatever requests come, in whatever spelling of the names, and whatever
happens to the accounts in between: of the logins of one account between two of its successes,
at most five in any five minutes are judged and fail. -/
theorem logins_throttled {users : Table User} {clock : ℚ} {es : List Event}
    (hnames : UniqueNames users) (h : exec (step verify) (start users clock) es = some s)
    (id : ℤ) (w : ℚ) (stretch : List Evaluation) (hstretch : stretch <:+: s.log)
    (hfruitless : Fruitless id stretch) : failuresIn id w stretch ≤ maxFailures :=
  (inv_of_exec_all (fun _ _ _ hP hs => counted_step hP hs) (counted_start hnames clock)
    h).bounded id w stretch hstretch hfruitless

/-! ### An account, its password and other words -/

def plain (password passwordHash : String) : Option Bool := some (password = passwordHash)

def oneUser : Table User := (∅ : Table User).insert 1 ⟨"dj", "vinyl", true⟩

lemma uniqueNames_oneUser : UniqueNames oneUser := by
  intro id u id' u' h h' _
  simp only [oneUser, lookup_insert, lookup_empty] at h h'
  split at h <;> split at h' <;> simp_all

/-- A login at the second `now`. -/
def attempt (username password : String) (now : ℚ) : Event :=
  .login ⟨username, password, now, true, now, now, now, true⟩

/-- Five wrong words and a sixth one that is not looked at. -/
theorem logins_throttled_sixth :
    ∃ s, exec (step plain) (start oneUser 0)
        [attempt "dj" "a" 1, attempt " dj" "b" 2, attempt "dj " "c" 3, attempt "dj" "d" 4,
          attempt "dj" "e" 5, attempt "dj" "f" 6] = some s ∧
      s.log.length = 5 ∧ failuresIn 1 1 s.log ≤ maxFailures := by
  have hrun : ((exec (step plain) (start oneUser 0)
      [attempt "dj" "a" 1, attempt " dj" "b" 2, attempt "dj " "c" 3, attempt "dj" "d" 4,
        attempt "dj" "e" 5, attempt "dj" "f" 6]).any fun s =>
      decide (s.log.length = 5 ∧ Fruitless 1 s.log)) = true := by
    decide +kernel
  obtain ⟨s, hs, hlog⟩ := (Option.any_eq_true ..).mp hrun
  have hlog := of_decide_eq_true hlog
  exact ⟨s, hs, hlog.1,
    logins_throttled uniqueNames_oneUser hs 1 1 s.log (List.infix_refl _) hlog.2⟩

/-- **Nine failures in a few seconds.** A success in between clears the count. -/
theorem nine_failures :
    ∃ s, exec (step plain) (start oneUser 0)
        [attempt "dj" "a" 1, attempt "dj" "b" 2, attempt "dj" "c" 3, attempt "dj" "d" 4,
          attempt "dj" "vinyl" 5, attempt "dj" "e" 6, attempt "dj" "f" 7, attempt "dj" "g" 8,
          attempt "dj" "h" 9, attempt "dj" "i" 10] = some s ∧
      failuresIn 1 1 s.log = 9 := by
  have hrun : ((exec (step plain) (start oneUser 0)
      [attempt "dj" "a" 1, attempt "dj" "b" 2, attempt "dj" "c" 3, attempt "dj" "d" 4,
        attempt "dj" "vinyl" 5, attempt "dj" "e" 6, attempt "dj" "f" 7, attempt "dj" "g" 8,
        attempt "dj" "h" 9, attempt "dj" "i" 10]).any fun s =>
      decide (failuresIn 1 1 s.log = 9)) = true := by
    decide +kernel
  obtain ⟨s, hs, hcount⟩ := (Option.any_eq_true ..).mp hrun
  exact ⟨s, hs, of_decide_eq_true hcount⟩

end OnAir.LoginThrottle
