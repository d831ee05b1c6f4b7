import OnAir.GuestCalls

/-!
What the guest room keeps when its calls overlap.

An invite is marked when its session is written, the room is counted before a guest is admitted, and
the status of a session is read before its controls are set. Each of these holds of the tables that
were read; the conditions below say that it holds still of those that are written.
-/

namespace OnAir.GuestTurns

open OnAir.Database GuestCalls GuestRoomService ReplicationApplier Runs OnAir.Table

variable {sha : String → String} {tm : TimeText} {now : ℤ} {d d' : Data} {p : Pending}
  {next : Option Pending} {g : ℤ}

/-! ### What a statement does to a session -/

/-- A host has sent the guest away. -/
def Dismissed (x : GuestSession) : Prop := x.status = .rejected ∨ x.status = .kicked

instance (x : GuestSession) : Decidable (Dismissed x) := by
  unfold Dismissed
  infer_instance

/-- The row of the session `g` before and after a statement; a new one gets the id `new`. -/
inductive RowStep (p : Pending) (new g : ℤ) : Option GuestSession → Option GuestSession → Prop
  | absent : RowStep p new g none none
  | joins {i : ℤ} {invite : GuestInvite} {name token : String} {y : GuestSession} (hg : g = new)
      (hp : p = .insertSession i invite name token) (hi : y.inviteId = i)
      (hy : y.status = .lobby) (hair : y.isOnAir = false) : RowStep p new g none (some y)
  | stays {x y : GuestSession} (hi : y.inviteId = x.inviteId) (hs : y.studioId = x.studioId)
      (hy : y.status = x.status) (hair : y.isOnAir = true → x.isOnAir = true) :
      RowStep p new g (some x) (some y)
  | isAdmitted {x y : GuestSession} (hp : p = .markAdmitted g) (hi : y.inviteId = x.inviteId)
      (hs : y.studioId = x.studioId) (hy : y.status = .admitted) (hair : y.isOnAir = false) :
      RowStep p new g (some x) (some y)
  | isDismissed {x y : GuestSession} {action : String} (hp : p = .markDismissed g action)
      (hi : y.inviteId = x.inviteId) (hs : y.studioId = x.studioId) (hy : Dismissed y)
      (hair : y.isOnAir = false) : RowStep p new g (some x) (some y)
  | goesOnAir {x y : GuestSession} {m : Option Bool} {q : Option ℚ}
      (hp : p = .setAudio g m (some true) q) (hi : y.inviteId = x.inviteId)
      (hs : y.studioId = x.studioId) (hy : y.status = x.status) (hair : y.isOnAir = true) :
      RowStep p new g (some x) (some y)

lemma rowStep_refl (p : Pending) (new g : ℤ) (o : Option GuestSession) :
    RowStep p new g o o := by
  cases o with
  | none => exact .absent
  | some x => exact .stays rfl rfl rfl id

/-- `UPDATE guest_sessions SET … WHERE id=?`. -/
lemma rowStep_update {k new : ℤ} {f : GuestSession → GuestSession}
    (hf : ∀ x, g = k → RowStep p new g (some x) (some (f x))) :
    RowStep p new g d.guestSessions[g]? (updateSession d k f).guestSessions[g]? := by
  rw [updateSession, lookup_modify]
  split_ifs with hg
  · cases d.guestSessions[g]? with
    | none => exact .absent
    | some x => exact hf x hg
  · exact rowStep_refl p new g _

theorem rowStep_of_proceed (h : proceed sha tm now p d = .ok (d', next)) (g : ℤ) :
    RowStep p (newId d.guestSessions) g d.guestSessions[g]? d'.guestSessions[g]? := by
  revert h
  fun_cases proceed sha tm now p d <;> intro h <;> cases h
  case case4 i invite name token id session hfits =>
    rw [lookup_insert]
    split_ifs with hg
    · rw [hg, lookup_newId]
      exact .joins rfl rfl rfl rfl rfl
    · exact rowStep_refl _ _ g _
  case case6 | case17 => exact rowStep_update fun x _ => .stays rfl rfl rfl id
  case case13 =>
    refine rowStep_update fun x hg => ?_
    subst hg
    exact .isAdmitted rfl rfl rfl rfl rfl
  case case14 action =>
    refine rowStep_update fun x hg => ?_
    subst hg
    refine .isDismissed rfl rfl rfl ?_ rfl
    unfold Dismissed
    dsimp only
    split_ifs <;> simp
  case case15 muted onAir gain =>
    refine rowStep_update fun x hg => ?_
    subst hg
    match onAir with
    | none => exact .stays rfl rfl rfl id
    | some false => exact .stays rfl rfl rfl fun h => by simp [audioControls] at h
    | some true => exact .goesOnAir rfl rfl rfl rfl rfl
  case case16 st =>
    rw [Std.ExtTreeMap.getElem?_map]
    cases d.guestSessions[g]? with
    | none => exact .absent
    | some x =>
      rw [Option.map_some, takeOffAir]
      split_ifs
      · exact .stays rfl rfl rfl fun h => by simp at h
      · exact rowStep_refl _ _ g _
  all_goals exact rowStep_refl _ _ g _

/-- What a step of the room does to a session. -/
theorem rowStep_of_step {s s' : State} {a : Act} (h : step sha tm s a = some s') (g : ℤ) :
    (s'.data.guestSessions[g]? = s.data.guestSessions[g]?) ∨
      ∃ p ∈ s.calls, a.event = .turn p ∧
        RowStep p (newId s.data.guestSessions) g s.data.guestSessions[g]?
          s'.data.guestSessions[g]? := by
  revert h
  fun_cases step sha tm s a <;> intro h <;> cases h
  case case3 p he hmem d' next hp => exact .inr ⟨p, hmem, he, rowStep_of_proceed hp g⟩
  all_goals exact .inl rfl

/-- An `UPDATE` of one session, executed. -/
lemma updated_of_step {s s' : State} {a : Act} {k : ℤ} {f : GuestSession → GuestSession}
    {x : GuestSession} (h : step sha tm s a = some s') (he : a.event = .turn p)
    (hp : proceed sha tm a.now p s.data = .ok (updateSession s.data k f, none))
    (hx : s.data.guestSessions[k]? = some x) : s'.data.guestSessions[k]? = some (f x) := by
  simp only [step, he] at h
  split_ifs at h
  rw [hp] at h
  cases h
  rw [updateSession, lookup_modify, if_pos rfl, hx]
  rfl

/-! ### Who is on air -/

section OnAir

variable {s s' s₀ : State} {a : Act}

def OnlyAdmitted (d : Data) : Prop :=
  ∀ (g : ℤ) (x : GuestSession), d.guestSessions[g]? = some x → x.isOnAir = true →
    x.status = .admitted

/-- From `d` to `d'` nobody who was sent away came back. -/
def StaysOut (d d' : Data) : Prop :=
  ∀ (g : ℤ) (x y : GuestSession), d.guestSessions[g]? = some x → Dismissed x →
    d'.guestSessions[g]? = some y → y.status ≠ .admitted ∧ y.isOnAir = false

/-- The status that a call has read is one that still lets it write. -/
def StatusStands (s : State) (a : Act) : Prop :=
  match a.event with
  | .turn (.markAdmitted g) => ∀ x ∈ s.data.guestSessions[g]?, ¬ Dismissed x
  | .turn (.setAudio g _ (some true) _) => ∀ x ∈ s.data.guestSessions[g]?, x.status = .admitted
  | _ => True

instance (s : State) (a : Act) : Decidable (StatusStands s a) := by
  unfold StatusStands
  split <;> infer_instance

lemma Dismissed.of_status {x y : GuestSession} (h : y.status = x.status) (hd : Dismissed x) :
    Dismissed y := by
  unfold Dismissed
  rwa [h]

lemma Dismissed.not_admitted {x : GuestSession} (h : Dismissed x) : x.status ≠ .admitted := by
  rcases h with h | h <;> simp [h]

lemma onlyAdmitted_step (ho : OnlyAdmitted s.data) (hk : StatusStands s a)
    (h : step sha tm s a = some s') : OnlyAdmitted s'.data := by
  intro g y hy hair
  rcases rowStep_of_step h g with hsame | ⟨p, -, he, hrow⟩
  · exact ho g y (hsame ▸ hy) hair
  rw [hy] at hrow
  generalize hx : s.data.guestSessions[g]? = o at hrow
  cases hrow with
  | joins _ _ _ _ hoff => simp [hoff] at hair
  | stays _ _ hst hon => exact hst.trans (ho g _ hx (hon hair))
  | isAdmitted _ _ _ hst _ => exact hst
  | isDismissed _ _ _ _ hoff => simp [hoff] at hair
  | goesOnAir hp _ _ hst _ =>
    subst hp
    simp only [StatusStands, he] at hk
    exact hst.trans (hk _ hx)

/-- A session that was dismissed stays so. -/
lemma dismissed_step (hk : StatusStands s a) (h : step sha tm s a = some s') {g : ℤ}
    (hx : ∃ x, s.data.guestSessions[g]? = some x ∧ Dismissed x) :
    ∃ y, s'.data.guestSessions[g]? = some y ∧ Dismissed y := by
  obtain ⟨x, hx, hd⟩ := hx
  rcases rowStep_of_step h g with hsame | ⟨p, -, he, hrow⟩
  · exact ⟨x, hsame ▸ hx, hd⟩
  rw [hx] at hrow
  generalize hy : s'.data.guestSessions[g]? = o at hrow
  cases hrow with
  | stays _ _ hst _ | goesOnAir _ _ _ hst _ => exact ⟨_, rfl, hd.of_status hst⟩
  | isDismissed _ _ _ hd' _ => exact ⟨_, rfl, hd'⟩
  | isAdmitted hp _ _ _ _ =>
    subst hp
    simp only [StatusStands, he] at hk
    exact absurd hd (hk x hx)

lemma staysOut_of_dismissed (ho : OnlyAdmitted d')
    (h : ∀ g : ℤ, (∃ x, d.guestSessions[g]? = some x ∧ Dismissed x) →
      ∃ y, d'.guestSessions[g]? = some y ∧ Dismissed y) : StaysOut d d' := by
  intro g x y hx hd hy
  obtain ⟨z, hz, hout⟩ := h g ⟨x, hx, hd⟩
  obtain rfl : y = z := Option.some.inj (hy.symm.trans hz)
  refine ⟨hout.not_admitted, ?_⟩
  cases hair : y.isOnAir with
  | false => rfl
  | true => exact absurd (ho g y hy hair) hout.not_admitted

/-- **Guests on air.** In a run in which the status that a call has read still stands when it
admits a guest or takes one on air, only admitted guests are on air at any time, and nobody who
was rejected or kicked at some time is admitted or on air later. -/
theorem on_air_guests_admitted (sha : String → String) (tm : TimeText) (d : Data)
    (acts acts' : List Act) (s s' : State) (ho : OnlyAdmitted d)
    (hm : Meets (step sha tm) StatusStands ⟨d, []⟩ (acts ++ acts'))
    (he : exec (step sha tm) ⟨d, []⟩ acts = some s) (he' : exec (step sha tm) s acts' = some s') :
    OnlyAdmitted s'.data ∧ StaysOut s.data s'.data := by
  obtain ⟨hfirst, hrest⟩ := meets_append.mp hm
  have hs : OnlyAdmitted s.data := inv_of_exec (P := fun s => OnlyAdmitted s.data)
    (fun _ _ _ ho hk h => onlyAdmitted_step ho hk h) ho hfirst he
  have hs' : OnlyAdmitted s'.data := inv_of_exec (P := fun s => OnlyAdmitted s.data)
    (fun _ _ _ ho hk h => onlyAdmitted_step ho hk h) hs (hrest s he) he'
  exact ⟨hs', staysOut_of_dismissed hs' fun g hx => inv_of_exec
    (P := fun s => ∃ x, s.data.guestSessions[g]? = some x ∧ Dismissed x)
    (fun _ _ _ hx hk h => dismissed_step hk h hx) hx (hrest s he) he'⟩

/-- What one step has to keep. -/
def KeepsRoom (sha : String → String) (tm : TimeText) (s : State) (a : Act) : Prop :=
  ∀ s' ∈ step sha tm s a, OnlyAdmitted s'.data ∧ StaysOut s.data s'.data

/-- The condition leaves out no run that keeps the guests on air to the admitted ones. -/
theorem statusStands_iff {acts : List Act} (ho : OnlyAdmitted s.data)
    (he : exec (step sha tm) s acts = some s') :
    Meets (step sha tm) StatusStands s acts ↔ Meets (step sha tm) (KeepsRoom sha tm) s acts := by
  refine meets_congr_of_inv (P := fun s => OnlyAdmitted s.data)
    (fun _ _ _ ho hk h => onlyAdmitted_step ho hk h) ?_ ho he
  intro s a s' ho h
  constructor
  · intro hk t ht
    obtain rfl : s' = t := Option.some.inj (h.symm.trans ht)
    have ho' := onlyAdmitted_step ho hk h
    exact ⟨ho', staysOut_of_dismissed ho' fun g hx => dismissed_step hk h hx⟩
  · intro hk
    obtain ⟨ho', hout⟩ := hk s' h
    unfold StatusStands
    split
    case h_1 g hev =>
      intro x hx hd
      have hy := updated_of_step h hev rfl hx
      exact (hout g x _ hx hd hy).1 rfl
    case h_2 g m q hev =>
      intro x hx
      have hy := updated_of_step h hev rfl hx
      have hst := ho' g _ hy rfl
      exact hst
    case h_3 => trivial

end OnAir

/-! ### How many are admitted -/

section Capacity

variable {s s' : State} {a : Act} {studioId : ℤ}

/-- The sessions that `admittedCount` counts. -/
def admittedIds (d : Data) (studioId : ℤ) : List ℤ :=
  ((rows d.guestSessions).filter fun r =>
    r.2.studioId = studioId && r.2.status = .admitted).map Prod.fst

lemma length_admittedIds (d : Data) (studioId : ℤ) :
    (admittedIds d studioId).length = admittedCount d studioId := by
  simp [admittedIds, admittedCount]

lemma mem_admittedIds : g ∈ admittedIds d studioId ↔
    ∃ x, d.guestSessions[g]? = some x ∧ x.studioId = studioId ∧ x.status = .admitted := by
  simp [admittedIds, mem_rows]

lemma nodup_admittedIds (d : Data) (studioId : ℤ) : (admittedIds d studioId).Nodup := by
  have h := (rows_sorted d.guestSessions).filter fun r : ℤ × GuestSession =>
    r.2.studioId = studioId && r.2.status = .admitted
  exact List.pairwise_map.mpr (h.imp fun hlt => hlt.ne)

lemma admittedCount_le (h : ∀ g ∈ admittedIds d' studioId, g ∈ admittedIds d studioId) :
    admittedCount d' studioId ≤ admittedCount d studioId := by
  rw [← length_admittedIds, ← length_admittedIds]
  exact ((nodup_admittedIds d' studioId).subperm h).length_le

/-- One more session is admitted. -/
lemma admittedCount_succ (hg : g ∉ admittedIds d studioId)
    (h : ∀ k, k ∈ admittedIds d' studioId ↔ k = g ∨ k ∈ admittedIds d studioId) :
    admittedCount d' studioId = admittedCount d studioId + 1 := by
  have hperm : (admittedIds d' studioId).Perm (g :: admittedIds d studioId) :=
    (List.perm_ext_iff_of_nodup (nodup_admittedIds d' studioId)
      (List.nodup_cons.mpr ⟨hg, nodup_admittedIds d studioId⟩)).mpr fun k => by simp [h k]
  rw [← length_admittedIds, ← length_admittedIds, hperm.length_eq, List.length_cons]

/-- No studio has admitted more guests than it may. -/
def Within (d : Data) : Prop := ∀ studioId : ℤ, admittedCount d studioId ≤ maxAdmittedGuests

/-- The room that `admit` has counted is not full when the guest is admitted. -/
def RoomStands (s : State) (a : Act) : Prop :=
  match a.event with
  | .turn (.markAdmitted g) => ∀ x ∈ s.data.guestSessions[g]?,
      x.status = .admitted ∨ admittedCount s.data x.studioId < maxAdmittedGuests
  | _ => True

instance (s : State) (a : Act) : Decidable (RoomStands s a) := by
  unfold RoomStands
  split <;> infer_instance

/-- Only `admit` admits. -/
lemma admitted_of_step (h : step sha tm s a = some s') {g : ℤ}
    (hg : g ∈ admittedIds s'.data studioId) :
    g ∈ admittedIds s.data studioId ∨ a.event = .turn (.markAdmitted g) := by
  obtain ⟨y, hy, hst, hadm⟩ := mem_admittedIds.mp hg
  rcases rowStep_of_step h g with hsame | ⟨p, -, he, hrow⟩
  · exact .inl (mem_admittedIds.mpr ⟨y, hsame ▸ hy, hst, hadm⟩)
  rw [hy] at hrow
  generalize hx : s.data.guestSessions[g]? = o at hrow
  cases hrow with
  | joins _ _ _ hlobby _ => simp [hlobby] at hadm
  | stays _ hs hsame _ | goesOnAir _ _ hs hsame _ =>
    exact .inl (mem_admittedIds.mpr ⟨_, hx, hs ▸ hst, hsame ▸ hadm⟩)
  | isAdmitted hp _ _ _ _ => exact .inr (hp ▸ he)
  | isDismissed _ _ _ hd _ => exact absurd hadm hd.not_admitted

lemma within_of_other (hw : Within s.data) (h : step sha tm s a = some s')
    (hne : ∀ g, a.event ≠ .turn (.markAdmitted g)) : Within s'.data := fun studioId =>
  (admittedCount_le fun _ hg => (admitted_of_step h hg).resolve_right (hne _)).trans (hw studioId)

/-- The guest is admitted, whatever became of the session since it was read. -/
lemma data_of_markAdmitted (h : step sha tm s a = some s')
    (he : a.event = .turn (.markAdmitted g)) :
    ∃ f : GuestSession → GuestSession,
      (∀ x, (f x).studioId = x.studioId ∧ (f x).status = .admitted) ∧
        s'.data = updateSession s.data g f := by
  simp only [step, he] at h
  split_ifs at h
  cases h
  refine ⟨_, ?_, rfl⟩
  exact fun x => ⟨rfl, rfl⟩

lemma lookup_updateSession (d : Data) (g k : ℤ) (f : GuestSession → GuestSession) :
    (updateSession d g f).guestSessions[k]? =
      if k = g then d.guestSessions[k]?.map f else d.guestSessions[k]? :=
  lookup_modify _ g k f

/-- The sessions that are admitted once `g` is. -/
lemma mem_admittedIds_update {f : GuestSession → GuestSession} {x : GuestSession}
    (hf : ∀ x, (f x).studioId = x.studioId ∧ (f x).status = .admitted)
    (hx : d.guestSessions[g]? = some x) (k : ℤ) :
    k ∈ admittedIds (updateSession d g f) studioId ↔
      k = g ∧ x.studioId = studioId ∨ k ∈ admittedIds d studioId := by
  rw [mem_admittedIds, mem_admittedIds, lookup_updateSession]
  by_cases hk : k = g
  · subst hk
    rw [if_pos rfl, hx]
    simp [hf]
    tauto
  · simp [hk]

theorem within_step_iff (hw : Within s.data) (h : step sha tm s a = some s') :
    RoomStands s a ↔ Within s'.data := by
  unfold RoomStands
  split
  case h_2 hne =>
    exact iff_of_true trivial (within_of_other hw h fun g he => hne g he)
  case h_1 g he =>
    obtain ⟨f, hf, hd⟩ := data_of_markAdmitted h he
    cases hx : s.data.guestSessions[g]? with
    | none =>
      refine iff_of_true (by simp) fun st =>
        le_trans (admittedCount_le fun k hk => ?_) (hw st)
      rw [hd, mem_admittedIds, lookup_updateSession] at hk
      by_cases hkg : k = g
      · subst hkg
        simp [hx] at hk
      · simpa [mem_admittedIds, hkg] using hk
    | some x =>
      simp only [Option.mem_def, Option.some.injEq, forall_eq']
      have hmem : ∀ st k, k ∈ admittedIds (updateSession s.data g f) st ↔
          k = g ∧ x.studioId = st ∨ k ∈ admittedIds s.data st :=
        fun st => mem_admittedIds_update hf hx
      by_cases hadm : x.status = .admitted
      · refine iff_of_true (.inl hadm) fun st =>
          le_trans (admittedCount_le fun k hk => ?_) (hw st)
        rw [hd, hmem] at hk
        rcases hk with ⟨rfl, hst⟩ | hk
        · exact mem_admittedIds.mpr ⟨x, hx, hst, hadm⟩
        · exact hk
      · have hnew : g ∉ admittedIds s.data x.studioId := by
          rw [mem_admittedIds]
          rintro ⟨y, hy, -, hadm'⟩
          exact hadm (Option.some.inj (hx.symm.trans hy) ▸ hadm')
        have hcount : admittedCount s'.data x.studioId = admittedCount s.data x.studioId + 1 :=
          admittedCount_succ hnew fun k => by rw [hd, hmem]; simp
        rw [or_iff_right hadm]
        constructor
        · intro hlt st
          by_cases hst : x.studioId = st
          · rw [← hst, hcount]
            exact hlt
          · refine le_trans (admittedCount_le fun k hk => ?_) (hw st)
            rw [hd, hmem] at hk
            exact hk.resolve_left fun h => hst h.2
        · intro hw'
          have := hw' x.studioId
          omega

/-- **Capacity.** Among calls that overlap in any way, no studio ever has more admitted guests than
it may if and only if the room that `admit` has counted is never full when it admits. -/
theorem capacity_kept_iff (sha : String → String) (tm : TimeText) (d : Data) (acts : List Act)
    (s : State) (hw : Within d) (he : exec (step sha tm) ⟨d, []⟩ acts = some s) :
    Meets (step sha tm) (fun s a => ∀ s' ∈ step sha tm s a, Within s'.data) ⟨d, []⟩ acts ↔
      Meets (step sha tm) RoomStands ⟨d, []⟩ acts := by
  refine (meets_congr_of_inv (P := fun s => Within s.data) ?_ ?_ hw he).symm
  · exact fun s a s' hw hk h => (within_step_iff hw h).mp hk
  · intro s a s' hw h
    rw [within_step_iff hw h]
    simp [h]

end Capacity

/-! ### Who came with an invite -/

section Invites

variable {s s' : State} {a : Act} {i k : ℤ} {r : GuestInvite}

/-- The session `g` was written for the invite `i`. -/
def CameWith (d : Data) (i g : ℤ) : Prop := ∃ x, d.guestSessions[g]? = some x ∧ x.inviteId = i

/-- Each invite has brought one guest at most, and is marked when it has. -/
structure Linked (d : Data) : Prop where
  once : ∀ i g g', CameWith d i g → CameWith d i g' → g = g'
  marked : ∀ i g, CameWith d i g → ∃ r, d.guestInvites[i]? = some r ∧ r.redeemedAt.isSome = true

/-- The invite that `redeem` has found is not redeemed when the session is written. -/
def InviteStands (s : State) (a : Act) : Prop :=
  match a.event with
  | .turn (.insertSession i _ _ _) => ∀ r ∈ s.data.guestInvites[i]?, r.redeemedAt = none
  | _ => True

instance (s : State) (a : Act) : Decidable (InviteStands s a) := by
  unfold InviteStands
  split <;> infer_instance

/-- An invite keeps its expiry, and its marks. -/
structure KeepsInvite (r r' : GuestInvite) : Prop where
  expiresAt : r'.expiresAt = r.expiresAt
  revokedAt : r.revokedAt.isSome = true → r'.revokedAt.isSome = true
  redeemedAt : r.redeemedAt.isSome = true → r'.redeemedAt.isSome = true

lemma KeepsInvite.refl (r : GuestInvite) : KeepsInvite r r := ⟨rfl, id, id⟩

lemma invite_of_modify {t : Table GuestInvite} {f : GuestInvite → GuestInvite}
    (hf : ∀ r, KeepsInvite r (f r)) (hr : t[k]? = some r) :
    ∃ r', (t.modify i f)[k]? = some r' ∧ KeepsInvite r r' := by
  rw [lookup_modify, hr]
  split_ifs
  · exact ⟨f r, rfl, hf r⟩
  · exact ⟨r, rfl, .refl r⟩

lemma invite_of_proceed (h : proceed sha tm now p d = .ok (d', next))
    (hr : d.guestInvites[k]? = some r) :
    ∃ r', d'.guestInvites[k]? = some r' ∧ KeepsInvite r r' := by
  revert h
  fun_cases proceed sha tm now p d <;> intro h <;> cases h
  case case1 =>
    refine ⟨r, ?_, .refl r⟩
    rw [lookup_insert, if_neg, hr]
    rintro rfl
    rw [lookup_newId] at hr
    cases hr
  case case3 => exact invite_of_modify (fun r => ⟨rfl, fun _ => rfl, id⟩) hr
  case case4 => exact invite_of_modify (fun r => ⟨rfl, id, fun _ => rfl⟩) hr
  all_goals exact ⟨r, hr, .refl r⟩

lemma invite_of_step (h : step sha tm s a = some s') (hr : s.data.guestInvites[k]? = some r) :
    ∃ r', s'.data.guestInvites[k]? = some r' ∧ KeepsInvite r r' := by
  revert h
  fun_cases step sha tm s a <;> intro h <;> cases h
  case case3 hp => exact invite_of_proceed hp hr
  all_goals exact ⟨r, hr, .refl r⟩

/-- A guest who comes with an invite has a new session, and the invite is marked. -/
lemma cameWith_of_step (h : step sha tm s a = some s') {g : ℤ} (hg : CameWith s'.data i g) :
    CameWith s.data i g ∨ ∃ invite name token,
      .insertSession i invite name token ∈ s.calls ∧
        a.event = .turn (.insertSession i invite name token) ∧ g = newId s.data.guestSessions := by
  obtain ⟨y, hy, hi⟩ := hg
  rcases rowStep_of_step h g with hsame | ⟨p, hmem, he, hrow⟩
  · exact .inl ⟨y, hsame ▸ hy, hi⟩
  rw [hy] at hrow
  generalize hx : s.data.guestSessions[g]? = o at hrow
  cases hrow with
  | joins hnew hp hi' _ _ =>
    subst hp
    obtain rfl : _ = i := hi'.symm.trans hi
    exact .inr ⟨_, _, _, hmem, he, hnew⟩
  | stays hi' _ _ _ | isAdmitted _ hi' _ _ _ | isDismissed _ hi' _ _ _ | goesOnAir _ hi' _ _ _ =>
    exact .inl ⟨_, hx, hi'.symm.trans hi⟩

lemma marked_of_insert {invite : GuestInvite} {name token : String}
    (h : step sha tm s a = some s') (he : a.event = .turn (.insertSession i invite name token))
    (hg : CameWith s'.data i (newId s.data.guestSessions)) :
    ∃ r, s'.data.guestInvites[i]? = some r ∧ r.redeemedAt.isSome = true := by
  simp only [step, he] at h
  split_ifs at h
  simp only [proceed] at h
  split_ifs at h with hfits
  · cases h
    have hin : i ∈ s.data.guestInvites := by
      simp only [sessionFits, Bool.and_eq_true] at hfits
      exact Std.ExtTreeMap.contains_iff_mem.mp hfits.1
    obtain ⟨r, hr⟩ := Option.isSome_iff_exists.mp
      ((Std.ExtTreeMap.mem_iff_isSome_getElem? (t := s.data.guestInvites)).mp hin)
    exact ⟨_, by rw [lookup_modify, if_pos rfl, hr]; rfl, rfl⟩
  · cases h
    obtain ⟨x, hx, -⟩ := hg
    rw [lookup_newId] at hx
    cases hx

theorem linked_step (hl : Linked s.data) (hk : InviteStands s a) (h : step sha tm s a = some s') :
    Linked s'.data := by
  -- an invite that brings a guest now has brought none before
  have hfirst : ∀ {j g invite name token}, CameWith s.data j g →
      a.event ≠ .turn (.insertSession j invite name token) := by
    intro j g invite name token hg he
    obtain ⟨r, hr, hmark⟩ := hl.marked j g hg
    simp only [InviteStands, he] at hk
    rw [hk r hr] at hmark
    cases hmark
  constructor
  case once =>
    intro j g g' hg hg'
    rcases cameWith_of_step h hg with hold | ⟨_, _, _, -, he, rfl⟩ <;>
      rcases cameWith_of_step h hg' with hold' | ⟨_, _, _, -, he', rfl⟩
    · exact hl.once j g g' hold hold'
    · exact absurd he' (hfirst hold)
    · exact absurd he (hfirst hold')
    · rfl
  case marked =>
    intro j g hg
    rcases cameWith_of_step h hg with hold | ⟨_, _, _, -, he, rfl⟩
    · obtain ⟨r, hr, hmark⟩ := hl.marked j g hold
      obtain ⟨r', hr', hkeep⟩ := invite_of_step h hr
      exact ⟨r', hr', hkeep.redeemedAt hmark⟩
    · exact marked_of_insert h he hg

/-! ### Invites that are closed -/

/-- The invite was revoked, or has expired at every reading of the clock in `acts`. -/
def Closed (tm : TimeText) (r : GuestInvite) (acts : List Act) : Prop :=
  r.revokedAt.isSome = true ∨ ∃ e, tm.fromIso (r.expiresAt.replace "Z" "+00:00") = some e ∧
    ∀ a ∈ acts, e ≤ a.now

/-- No call in flight has found the invite open. -/
def Unclaimed (s : State) (i : ℤ) : Prop :=
  ∀ invite name token, .insertSession i invite name token ∉ s.calls

lemma begins_redeem {q : Request} {invite : GuestInvite} {name token : String}
    (h : begins sha tm now q d = .ok (.insertSession i invite name token)) :
    d.guestInvites[i]? = some invite ∧ invite.revokedAt = none ∧
      ∃ e, tm.fromIso (invite.expiresAt.replace "Z" "+00:00") = some e ∧ now < e := by
  revert h
  fun_cases begins sha tm now q d <;> intro h
  case case12 hfind hopen expires he hnow =>
    simp only [Except.ok.injEq, Pending.insertSession.injEq] at h
    obtain ⟨rfl, rfl, -, -⟩ := h
    simp only [Bool.or_eq_true, not_or, Option.isSome_iff_ne_none, not_not] at hopen
    exact ⟨mem_rows.mp (List.mem_of_find?_eq_some hfind), hopen.1, expires, he, by omega⟩
  case case25 sessionToken muted =>
    cases hs : authenticateSession sha sessionToken d <;> simp [hs, Except.map] at h
  all_goals cases h

lemma proceed_next {p' : Pending} (h : proceed sha tm now p d = .ok (d', some p'))
    {invite : GuestInvite} {name token : String} : p' ≠ .insertSession i invite name token := by
  revert h
  fun_cases proceed sha tm now p d <;> intro h <;> cases h <;> simp

/-- Nobody finds an invite open that is closed. -/
lemma unclaimed_step {acts : List Act} (hr : s.data.guestInvites[i]? = some r)
    (hc : Closed tm r (a :: acts)) (hu : Unclaimed s i) (h : step sha tm s a = some s') :
    Unclaimed s' i := by
  intro invite name token hmem
  revert h
  fun_cases step sha tm s a <;> intro h <;> cases h
  case case1 q p hp =>
    rcases List.mem_cons.mp hmem with rfl | hmem
    · obtain ⟨hr', hrev, e, he, hlt⟩ := begins_redeem hp
      obtain rfl : r = invite := Option.some.inj (hr.symm.trans hr')
      rcases hc with hrev' | ⟨e', he', hle⟩
      · simp [hrev] at hrev'
      · obtain rfl : e = e' := Option.some.inj (he.symm.trans he')
        have := hle a List.mem_cons_self
        omega
    · exact hu _ _ _ hmem
  case case3 p hev hp d next hpr =>
    rcases List.mem_append.mp hmem with hmem | hmem
    · cases next with
      | none => simp at hmem
      | some p' => exact proceed_next hpr (List.mem_singleton.mp hmem).symm
    · exact hu _ _ _ (List.mem_of_mem_erase hmem)
  case case4 => exact hu _ _ _ (List.mem_of_mem_erase hmem)
  all_goals exact hu _ _ _ hmem

lemma Closed.tail {r' : GuestInvite} {acts : List Act} (hc : Closed tm r (a :: acts))
    (hk : KeepsInvite r r') : Closed tm r' acts :=
  hc.imp hk.revokedAt fun ⟨e, he, hle⟩ =>
    ⟨e, by rw [hk.expiresAt]; exact he, fun b hb => hle b (List.mem_cons_of_mem _ hb)⟩

/-- A session stays with its invite. -/
lemma cameWith_kept (h : step sha tm s a = some s') {g : ℤ} (hg : CameWith s.data i g) :
    CameWith s'.data i g := by
  obtain ⟨x, hx, hi⟩ := hg
  rcases rowStep_of_step h g with hsame | ⟨p, -, -, hrow⟩
  · exact ⟨x, hsame.trans hx, hi⟩
  rw [hx] at hrow
  generalize hy : s'.data.guestSessions[g]? = o at hrow
  cases hrow with
  | stays hi' _ _ _ | isAdmitted _ hi' _ _ _ | isDismissed _ hi' _ _ _ | goesOnAir _ hi' _ _ _ =>
    exact ⟨_, hy, hi'.trans hi⟩

/-- A closed invite brings nobody. -/
lemma cameWith_of_closed {acts : List Act} (hr : s.data.guestInvites[i]? = some r)
    (hc : Closed tm r acts) (hu : Unclaimed s i)
    (he : exec (step sha tm) s acts = some s') (g : ℤ) :
    CameWith s'.data i g ↔ CameWith s.data i g := by
  induction acts generalizing s r with
  | nil =>
    obtain rfl : s = s' := by simpa using he
    exact Iff.rfl
  | cons a acts ih =>
    obtain ⟨t, ht, he⟩ := exec_cons_eq_some.mp he
    obtain ⟨r', hr', hkeep⟩ := invite_of_step ht hr
    rw [ih hr' (hc.tail hkeep) (unclaimed_step hr hc hu ht) he]
    refine ⟨fun hg => ?_, cameWith_kept ht⟩
    exact (cameWith_of_step ht hg).resolve_right fun ⟨_, _, _, hmem, _⟩ => hu _ _ _ hmem

/-- **One guest per invite.** Among calls that overlap in any way, where no invite is redeemed
between the two statements of `redeem` that read and that write it, each invite brings one guest at
most; and one that is revoked or expired brings nobody but by a call that had found it open. -/
theorem one_guest_per_invite (sha : String → String) (tm : TimeText) (d : Data)
    (acts acts' : List Act) (s s' : State) (hl : Linked d)
    (hm : Meets (step sha tm) InviteStands ⟨d, []⟩ (acts ++ acts'))
    (he : exec (step sha tm) ⟨d, []⟩ acts = some s) (he' : exec (step sha tm) s acts' = some s') :
    (∀ i g g', CameWith s'.data i g → CameWith s'.data i g' → g = g') ∧
      ∀ i r, s.data.guestInvites[i]? = some r → Closed tm r acts' → Unclaimed s i →
        ∀ g, CameWith s'.data i g ↔ CameWith s.data i g := by
  obtain ⟨hfirst, hrest⟩ := meets_append.mp hm
  have hs : Linked s.data := inv_of_exec (P := fun s => Linked s.data)
    (fun _ _ _ hl hk h => linked_step hl hk h) hl hfirst he
  have hs' : Linked s'.data := inv_of_exec (P := fun s => Linked s.data)
    (fun _ _ _ hl hk h => linked_step hl hk h) hs (hrest s he) he'
  exact ⟨hs'.once, fun i r hr hc hu g => cameWith_of_closed hr hc hu he' g⟩

end Invites

/-! ### A guest who is kicked meanwhile -/

/-- Time stamps that tell nothing apart but the expiry of an invite. -/
def clock : TimeText := ⟨fun _ => "", fun _ => some 7200000000, fun _ => ""⟩

/-- One studio, at station 1. -/
def studio : Data :=
  { Data.empty with
    stations := (∅ : Table Unit).insert 1 ()
    studios := (∅ : Table Studio).insert 1 ⟨1, true⟩ }

def atZero (es : List Event) : List Act := es.map fun e => ⟨0, e⟩

/-- The row of the invite with this token. -/
def invite (token : String) : GuestInvite := ⟨1, 1, token, 9, "", none, none, ""⟩

def invites (token : String) : List Event :=
  [.call (.createInvite token 1 9), .turn (.insertInvite 1 1 9 token "")]

/-- A guest redeems the invite `i`. -/
def joins (i : ℤ) (token : String) : List Event :=
  [.call (.redeem ("session " ++ token) token token),
    .turn (.insertSession i (invite token) token ("session " ++ token))]

def admits (g : ℤ) : List Event :=
  [.call (.admitGuest 1 g), .turn (.countAdmitted 1 g), .turn (.findRecording 1 g),
    .turn (.markAdmitted g)]

/-- A guest is on air, and is kicked. -/
def onAirThenKicked : List Act :=
  atZero (invites "a" ++ joins 1 "a" ++ admits 1 ++ [.call (.updateAudio 1 1 none (some true) none),
    .turn (.setAudio 1 none (some true) none), .call (.rejectOrKick 1 1 "kick"),
    .turn (.markDismissed 1 "kick")])

/-- The guest is kicked between the two statements of `update_audio`. -/
def kickedMeanwhile : List Act :=
  atZero (invites "a" ++ joins 1 "a" ++ admits 1 ++ [.call (.updateAudio 1 1 none (some true) none),
    .call (.rejectOrKick 1 1 "kick"), .turn (.markDismissed 1 "kick")])

def goesOnAir : List Act := atZero [.turn (.setAudio 1 none (some true) none)]

lemma onlyAdmitted_studio : OnlyAdmitted studio := by
  intro g x hx
  simp [studio, Data.empty] at hx

theorem on_air_guests_admitted_kicked :
    ∃ s, exec (step id clock) ⟨studio, []⟩ onAirThenKicked = some s ∧
      (∃ x ∈ s.data.guestSessions[(1 : ℤ)]?, Dismissed x) ∧
        OnlyAdmitted s.data ∧ StaysOut s.data s.data := by
  obtain ⟨s, he, hx⟩ : ∃ s ∈ exec (step id clock) ⟨studio, []⟩ onAirThenKicked,
      ∃ x ∈ s.data.guestSessions[(1 : ℤ)]?, Dismissed x := by
    decide +kernel
  exact ⟨s, he, hx, on_air_guests_admitted id clock studio onAirThenKicked [] s s
    onlyAdmitted_studio (by decide +kernel) he rfl⟩

theorem statusStands_iff_kicked :
    Meets (step id clock) (KeepsRoom id clock) ⟨studio, []⟩ onAirThenKicked := by
  obtain ⟨s, he⟩ := Option.isSome_iff_exists.mp
    (by decide +kernel : (exec (step id clock) ⟨studio, []⟩ onAirThenKicked).isSome = true)
  exact (statusStands_iff onlyAdmitted_studio he).mp (by decide +kernel)

/-- A guest who was kicked is on air. -/
theorem kicked_guest_on_air : ¬ ∀ (sha : String → String) (tm : TimeText) (d : Data)
    (acts acts' : List Act) (s s' : State), OnlyAdmitted d →
      exec (step sha tm) ⟨d, []⟩ acts = some s → exec (step sha tm) s acts' = some s' →
        OnlyAdmitted s'.data ∧ StaysOut s.data s'.data := by
  intro hall
  obtain ⟨s, he, s', he', y, hy, hst, hair⟩ :
      ∃ s ∈ exec (step id clock) ⟨studio, []⟩ kickedMeanwhile,
        ∃ s' ∈ exec (step id clock) s goesOnAir, ∃ y ∈ s'.data.guestSessions[(1 : ℤ)]?,
          y.status = .kicked ∧ y.isOnAir = true := by
    decide +kernel
  have ho := (hall id clock studio _ _ s s' onlyAdmitted_studio he he').1 1 y hy hair
  rw [hst] at ho
  cases ho

/-! ### Two holders of one link -/

/-- A guest redeems the invite, and another one tries. -/
def redeemedTwice : List Act :=
  atZero (invites "a" ++ joins 1 "a" ++ [.call (.redeem "other" "a" "Bo")])

/-- Both have found the invite open before either session is written. -/
def redeemedAtOnce : List Act :=
  atZero (invites "a" ++ [.call (.redeem "session" "a" "Ada"), .call (.redeem "other" "a" "Bo"),
    .turn (.insertSession 1 (invite "a") "Ada" "session"),
    .turn (.insertSession 1 (invite "a") "Bo" "other")])

lemma linked_studio : Linked studio where
  once i g g' h := by
    obtain ⟨x, hx, -⟩ := h
    simp [studio, Data.empty] at hx
  marked i g h := by
    obtain ⟨x, hx, -⟩ := h
    simp [studio, Data.empty] at hx

theorem one_guest_per_invite_once :
    ∃ s, exec (step id clock) ⟨studio, []⟩ redeemedTwice = some s ∧ CameWith s.data 1 1 ∧
      ∀ i g g', CameWith s.data i g → CameWith s.data i g' → g = g' := by
  obtain ⟨s, he, x, hx, hi⟩ : ∃ s ∈ exec (step id clock) ⟨studio, []⟩ redeemedTwice,
      ∃ x ∈ s.data.guestSessions[(1 : ℤ)]?, x.inviteId = 1 := by
    decide +kernel
  exact ⟨s, he, ⟨x, hx, hi⟩, (one_guest_per_invite id clock studio redeemedTwice [] s s
    linked_studio (by decide +kernel) he rfl).1⟩

/-- Two guests come with one invite. -/
theorem two_guests_one_invite : ¬ ∀ (sha : String → String) (tm : TimeText) (d : Data)
    (acts : List Act) (s : State), Linked d → exec (step sha tm) ⟨d, []⟩ acts = some s →
      ∀ i g g', CameWith s.data i g → CameWith s.data i g' → g = g' := by
  intro hall
  obtain ⟨s, he, ⟨x, hx, hi⟩, y, hy, hi'⟩ :
      ∃ s ∈ exec (step id clock) ⟨studio, []⟩ redeemedAtOnce,
        (∃ x ∈ s.data.guestSessions[(1 : ℤ)]?, x.inviteId = 1) ∧
          ∃ y ∈ s.data.guestSessions[(2 : ℤ)]?, y.inviteId = 1 := by
    decide +kernel
  have := hall id clock studio redeemedAtOnce s linked_studio he 1 1 2 ⟨x, hx, hi⟩ ⟨y, hy, hi'⟩
  omega

/-! ### Hosts who admit at the same time -/

def tokens : List String := ["a", "b", "c", "d", "e"]

/-- Five guests in the lobby. -/
def lobby : List Event :=
  ((tokens.map invites).flatten ++
    (tokens.mapIdx fun i token => joins (i + 1) token).flatten)

/-- Four of them are admitted, and the fifth is not. -/
def oneAfterAnother : List Act :=
  atZero (lobby ++ (([1, 2, 3, 4] : List ℤ).map admits).flatten ++ [.call (.admitGuest 1 5),
    .turn (.countAdmitted 1 5)])

/-- Each of five calls counts the room before any of them admits. -/
def fiveAtOnce : List Act :=
  atZero (lobby ++ (([1, 2, 3, 4, 5] : List ℤ).map fun g => (admits g).take 3).flatten ++
    ([1, 2, 3, 4, 5] : List ℤ).map fun g => .turn (.markAdmitted g))

lemma within_studio : Within studio := fun studioId => by
  have : admittedIds studio studioId = [] := List.eq_nil_iff_forall_not_mem.mpr fun g hg => by
    obtain ⟨x, hx, -⟩ := mem_admittedIds.mp hg
    simp [studio, Data.empty] at hx
  rw [← length_admittedIds, this]
  exact Nat.zero_le _

theorem capacity_kept_four :
    ∃ s, exec (step id clock) ⟨studio, []⟩ oneAfterAnother = some s ∧
      admittedCount s.data 1 = 4 ∧
        Meets (step id clock) (fun s a => ∀ s' ∈ step id clock s a, Within s'.data) ⟨studio, []⟩
          oneAfterAnother := by
  obtain ⟨s, he, hc⟩ : ∃ s ∈ exec (step id clock) ⟨studio, []⟩ oneAfterAnother,
      admittedCount s.data 1 = 4 := by
    decide +kernel
  exact ⟨s, he, hc, (capacity_kept_iff id clock studio oneAfterAnother s within_studio he).mpr
    (by decide +kernel)⟩

/-- Five guests are admitted to a room for four. -/
theorem five_admitted : ¬ ∀ (sha : String → String) (tm : TimeText) (d : Data) (acts : List Act)
    (s : State), Within d → exec (step sha tm) ⟨d, []⟩ acts = some s → Within s.data := by
  intro hall
  obtain ⟨s, he, hc⟩ : ∃ s ∈ exec (step id clock) ⟨studio, []⟩ fiveAtOnce,
      admittedCount s.data 1 = 5 := by
    decide +kernel
  have hw := hall id clock studio fiveAtOnce s within_studio he 1
  rw [hc] at hw
  exact absurd hw (by decide)

end OnAir.GuestTurns
