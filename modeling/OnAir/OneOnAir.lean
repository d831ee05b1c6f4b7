import OnAir.StudioService

/-!
At most one studio of a station is on air, and who is in it.

The user a studio remembers has a session in it, whatever the call; only a default studio that
no dj has joined is on air without a user. Whether a studio is active is asked nowhere, and a dj
who comes in again as a producer keeps the studio.
-/

namespace OnAir.OneOnAir

open Runs StudioService OnAir.Table

variable {s s' : Store} {a : Actor} {k j : ℤ} {r : Studio}

/-! ### Sessions -/

lemma hasSession_iff : hasSession s j k = true ↔ ∃ x ∈ s.sessions, x.studioId = j ∧ x.userId = k ∧
    isJoined x = true := by
  simp [hasSession, isSession, and_assoc]

lemma hasDjSession_iff : hasDjSession s j k = true ↔ ∃ x ∈ s.sessions, x.studioId = j ∧
    x.userId = k ∧ isJoined x = true ∧ x.role = .dj := by
  simp [hasDjSession, isSession, and_assoc]

/-- A session that was joined as a dj, where one is asked for. -/
def Joined (dj : Bool) (s : Store) (studioId userId : ℤ) : Prop :=
  ∃ x ∈ s.sessions, x.studioId = studioId ∧ x.userId = userId ∧ isJoined x = true ∧
    (dj = true → x.role = .dj)

lemma joined_false : Joined false s j k ↔ hasSession s j k = true := by
  rw [hasSession_iff]
  simp [Joined]

lemma joined_true : Joined true s j k ↔ hasDjSession s j k = true := by
  rw [hasDjSession_iff]
  simp [Joined]

lemma joined_upsertSession_self {dj : Bool} (role : SessionRole) (hrole : dj = true → role = .dj) :
    Joined dj (upsertSession j k role .active s) j k := by
  unfold upsertSession
  split
  · next hany =>
      obtain ⟨x, hx, hsame⟩ := List.any_eq_true.mp hany
      refine ⟨{ x with role := role, status := .active }, List.mem_map.mpr ⟨x, hx, ?_⟩, ?_⟩
      · rw [if_pos hsame]
      · have hids : x.studioId = j ∧ x.userId = k := by simpa [isSession] using hsame
        exact ⟨hids.1, hids.2, rfl, hrole⟩
  · exact ⟨⟨j, k, role, .active⟩, by simp, rfl, rfl, rfl, hrole⟩

lemma joined_upsertSession_other {dj : Bool} {j' k' : ℤ} (h : Joined dj s j' k')
    (hne : ¬ (j' = j ∧ k' = k)) (role : SessionRole) (status : SessionStatus) :
    Joined dj (upsertSession j k role status s) j' k' := by
  obtain ⟨x, hx, hj, hk, hrest⟩ := h
  have hother : isSession j k x = false := by
    by_contra hsame
    have hids : x.studioId = j ∧ x.userId = k := by simpa [isSession] using hsame
    exact hne ⟨hj.symm.trans hids.1, hk.symm.trans hids.2⟩
  unfold upsertSession
  split
  · exact ⟨x, List.mem_map.mpr ⟨x, hx, by rw [hother]; rfl⟩, hj, hk, hrest⟩
  · exact ⟨x, List.mem_append_left _ hx, hj, hk, hrest⟩

lemma joined_leaveSession_other {dj : Bool} {j' k' : ℤ} (h : Joined dj s j' k')
    (hne : ¬ (j' = j ∧ k' = k)) : Joined dj (leaveSession j k s) j' k' := by
  obtain ⟨x, hx, hj, hk, hrest⟩ := h
  have hother : isSession j k x = false := by
    by_contra hsame
    have hids : x.studioId = j ∧ x.userId = k := by simpa [isSession] using hsame
    exact hne ⟨hj.symm.trans hids.1, hk.symm.trans hids.2⟩
  exact ⟨x, List.mem_map.mpr ⟨x, hx, by rw [hother]; rfl⟩, hj, hk, hrest⟩

/-! ### The invariant -/

/-- At most one studio of a station is on air, and with no user only a default studio no dj has
joined; the user of a studio is in it, and where `dj` asks for it as a dj. -/
structure Kept (dj : Bool) (s : Store) : Prop where
  one : ∀ (j k : ℤ) (r r' : Studio), s.studios[j]? = some r → s.studios[k]? = some r' →
    r.isOnAir = true → r'.isOnAir = true → r.stationId = r'.stationId → j = k
  user : ∀ (j : ℤ) (r : Studio), s.studios[j]? = some r → r.isOnAir = true →
    r.currentUserId = none → j ∈ s.untouched
  inside : ∀ (j : ℤ) (r : Studio) (u : ℤ), s.studios[j]? = some r → r.currentUserId = some u →
    Joined dj s j u

lemma kept_empty (dj : Bool) : Kept dj empty where
  one _ _ _ _ h := by simp [empty] at h
  user _ _ h := by simp [empty] at h
  inside _ _ _ h := by simp [empty] at h

lemma mem_listByStation {st : ℤ} {p : ℤ × Studio} :
    p ∈ listByStation s st ↔ s.studios[p.1]? = some p.2 ∧ p.2.stationId = st := by
  unfold listByStation
  rw [Sql.mem_orderBy, List.mem_filter, mem_rows]
  simp

variable {dj : Bool}

/-- A new studio that is on air only where the station has no other. -/
lemma kept_create (h : Kept dj s) (r : Studio) (hr : r.currentUserId = none) (t : List ℤ)
    (ht : ∀ j ∈ s.untouched, j ∈ t) (honair : r.isOnAir = true → nextId s.studios ∈ t ∧
      ∀ (k : ℤ) (r' : Studio), s.studios[k]? = some r' → r'.stationId ≠ r.stationId) :
    Kept dj { (create r s).1 with untouched := t } := by
  have hcase : ∀ (k : ℤ) (r' : Studio), (s.studios.insert (nextId s.studios) r)[k]? = some r' →
      (k = nextId s.studios ∧ r' = r) ∨ s.studios[k]? = some r' := by
    intro k r' hk
    rw [lookup_insert] at hk
    split at hk
    · next he => exact .inl ⟨he, (Option.some.inj hk).symm⟩
    · exact .inr hk
  refine ⟨fun j k q q' hq hq' hon hon' hst => ?_, fun j q hq hon hnone => ?_,
    fun j q u hq hu => ?_⟩
  · rcases hcase j q hq with ⟨rfl, rfl⟩ | hold <;> rcases hcase k q' hq' with ⟨rfl, rfl⟩ | hold'
    · rfl
    · exact absurd hst.symm ((honair hon).2 k q' hold')
    · exact absurd hst ((honair hon').2 j q hold)
    · exact h.one j k q q' hold hold' hon hon' hst
  · rcases hcase j q hq with ⟨rfl, rfl⟩ | hold
    · exact (honair hon).1
    · exact ht j (h.user j q hold hon hnone)
  · rcases hcase j q hq with ⟨rfl, rfl⟩ | hold
    · rw [hr] at hu
      cases hu
    · exact h.inside j q u hold hu

/-- Studios change in what the invariant does not speak of. -/
lemma kept_update (h : Kept dj s) (f : Studio → Studio)
    (hf : ∀ r, (f r).stationId = r.stationId ∧ (f r).isOnAir = r.isOnAir ∧
      (f r).currentUserId = r.currentUserId) (j : ℤ) : Kept dj (update j f s) := by
  have hcase : ∀ (k : ℤ) (r' : Studio), (s.studios.modify j f)[k]? = some r' →
      ∃ r, s.studios[k]? = some r ∧ r'.stationId = r.stationId ∧ r'.isOnAir = r.isOnAir ∧
        r'.currentUserId = r.currentUserId := by
    intro k r' hk
    rw [lookup_modify] at hk
    split at hk
    · obtain ⟨r, hr, rfl⟩ := Option.map_eq_some_iff.mp hk
      exact ⟨r, hr, hf r⟩
    · exact ⟨r', hk, rfl, rfl, rfl⟩
  refine ⟨fun k k' q q' hq hq' hon hon' hst => ?_, fun k q hq hon hnone => ?_,
    fun k q u hq hu => ?_⟩
  · obtain ⟨x, hx, hxst, hxon, -⟩ := hcase k q hq
    obtain ⟨y, hy, hyst, hyon, -⟩ := hcase k' q' hq'
    exact h.one k k' x y hx hy (hxon ▸ hon) (hyon ▸ hon') (hxst.symm.trans (hst.trans hyst))
  · obtain ⟨x, hx, -, hxon, hxu⟩ := hcase k q hq
    exact h.user k x hx (hxon ▸ hon) (hxu ▸ hnone)
  · obtain ⟨x, hx, -, -, hxu⟩ := hcase k q hq
    exact h.inside k x u hx (hxu ▸ hu)

lemma kept_ensureDefault (h : Kept dj s) (st : ℤ) : Kept dj (ensureDefaultForStation st s) := by
  unfold ensureDefaultForStation
  split
  · next hempty =>
      refine kept_create h _ rfl _ (fun j hj => List.mem_cons_of_mem _ hj)
        fun _ => ⟨List.mem_cons_self, fun k r' hk hst => ?_⟩
      have hmem : (k, r') ∈ listByStation s st := mem_listByStation.mpr ⟨hk, hst⟩
      rw [List.isEmpty_iff.mp hempty] at hmem
      cases hmem
  · exact h

/-! ### Coming in -/

/-- A session is written, and is a dj session unless the studio is not the user's. -/
lemma kept_upsertSession (h : Kept dj s) (role : SessionRole)
    (hrole : ∀ r, s.studios[j]? = some r → r.currentUserId = some k → dj = true → role = .dj) :
    Kept dj (upsertSession j k role .active s) := by
  have hstudios : (upsertSession j k role .active s).studios = s.studios := by
    unfold upsertSession
    split <;> rfl
  have huntouched : (upsertSession j k role .active s).untouched = s.untouched := by
    unfold upsertSession
    split <;> rfl
  refine ⟨fun i i' q q' hq hq' => ?_, fun i q hq => ?_, fun i q u hq hu => ?_⟩
  · rw [hstudios] at hq hq'
    exact h.one i i' q q' hq hq'
  · rw [hstudios] at hq
    rw [huntouched]
    exact h.user i q hq
  · rw [hstudios] at hq
    by_cases hself : i = j ∧ u = k
    · obtain ⟨rfl, rfl⟩ := hself
      exact joined_upsertSession_self role (hrole q hq hu)
    · exact joined_upsertSession_other (h.inside i q u hq hu) hself role .active

lemma upsertSession_takeStudio (role : SessionRole) :
    upsertSession j k role .active (takeStudio a s j r) =
      takeStudio a (upsertSession j k role .active s) j r := by
  unfold takeStudio upsertSession setOnAir setCurrentUser StudioService.update listByStation
  dsimp only
  split <;> split <;> rfl

lemma kept_takeUser (h : Kept dj s) (hin : Joined dj s j k) :
    Kept dj (setCurrentUser j (some k) { s with untouched := s.untouched.erase j }) := by
  have hcase : ∀ (i : ℤ) (r' : Studio),
      (s.studios.modify j fun r => { r with currentUserId := some k })[i]? = some r' →
      ∃ r, s.studios[i]? = some r ∧ r'.stationId = r.stationId ∧ r'.isOnAir = r.isOnAir ∧
        r'.currentUserId = if i = j then some k else r.currentUserId := by
    intro i r' hi
    rw [lookup_modify] at hi
    split at hi
    · next he =>
        obtain ⟨r, hr, rfl⟩ := Option.map_eq_some_iff.mp hi
        exact ⟨r, hr, rfl, rfl, by rw [if_pos he]⟩
    · next he => exact ⟨r', hi, rfl, rfl, by rw [if_neg he]⟩
  refine ⟨fun i i' q q' hq hq' hon hon' hst => ?_, fun i q hq hon hnone => ?_,
    fun i q u hq hu => ?_⟩
  · obtain ⟨x, hx, hxst, hxon, -⟩ := hcase i q hq
    obtain ⟨y, hy, hyst, hyon, -⟩ := hcase i' q' hq'
    exact h.one i i' x y hx hy (hxon ▸ hon) (hyon ▸ hon') (hxst.symm.trans (hst.trans hyst))
  · obtain ⟨x, hx, -, hxon, hxu⟩ := hcase i q hq
    by_cases he : i = j
    · rw [if_pos he, hnone] at hxu
      cases hxu
    · rw [if_neg he] at hxu
      exact (List.mem_erase_of_ne he).mpr (h.user i x hx (hxon ▸ hon) (hxu ▸ hnone))
  · obtain ⟨x, hx, -, -, hxu⟩ := hcase i q hq
    by_cases he : i = j
    · rw [if_pos he] at hxu
      obtain rfl : k = u := Option.some.inj (hxu.symm.trans hu)
      exact he ▸ hin
    · rw [if_neg he] at hxu
      exact h.inside i x u hx (hxu ▸ hu)

/-- A studio with a user is put on air in a station that has none on air. -/
lemma kept_setOnAir (h : Kept dj s) (hr : s.studios[j]? = some r) (hu : r.currentUserId ≠ none)
    (hfree : ∀ p ∈ listByStation s r.stationId, p.2.isOnAir = false) :
    Kept dj (setOnAir j true s) := by
  have hcase : ∀ (i : ℤ) (r' : Studio),
      (s.studios.modify j fun r => { r with isOnAir := true })[i]? = some r' →
      ∃ x, s.studios[i]? = some x ∧ r'.stationId = x.stationId ∧
        r'.currentUserId = x.currentUserId ∧ (i ≠ j → r'.isOnAir = x.isOnAir) := by
    intro i r' hi
    rw [lookup_modify] at hi
    split at hi
    · next he =>
        obtain ⟨x, hx, rfl⟩ := Option.map_eq_some_iff.mp hi
        exact ⟨x, hx, rfl, rfl, fun hne => absurd he hne⟩
    · exact ⟨r', hi, rfl, rfl, fun _ => rfl⟩
  -- what shares the station of the studio was off air
  have hoff : ∀ (i : ℤ) (x : Studio), s.studios[i]? = some x → x.stationId = r.stationId →
      x.isOnAir = false := fun i x hx hst => hfree (i, x) (mem_listByStation.mpr ⟨hx, hst⟩)
  refine ⟨fun i i' q q' hq hq' hon hon' hst => ?_, fun i q hq hon hnone => ?_,
    fun i q u hq hu => ?_⟩
  · obtain ⟨x, hx, hxst, -, hxon⟩ := hcase i q hq
    obtain ⟨y, hy, hyst, -, hyon⟩ := hcase i' q' hq'
    have hxy : x.stationId = y.stationId := hxst.symm.trans (hst.trans hyst)
    by_cases hi : i = j <;> by_cases hi' : i' = j
    · rw [hi, hi']
    · obtain rfl : x = r := Option.some.inj (hx.symm.trans (hi ▸ hr))
      rw [hyon hi', hoff i' y hy hxy.symm] at hon'
      cases hon'
    · obtain rfl : y = r := Option.some.inj (hy.symm.trans (hi' ▸ hr))
      rw [hxon hi, hoff i x hx hxy] at hon
      cases hon
    · exact h.one i i' x y hx hy (hxon hi ▸ hon) (hyon hi' ▸ hon') hxy
  · obtain ⟨x, hx, -, hxu, hxon⟩ := hcase i q hq
    by_cases hi : i = j
    · obtain rfl : x = r := Option.some.inj (hx.symm.trans (hi ▸ hr))
      exact absurd (hxu ▸ hnone) hu
    · exact h.user i x hx (hxon hi ▸ hon) (hxu ▸ hnone)
  · obtain ⟨x, hx, -, hxu, -⟩ := hcase i q hq
    exact h.inside i x u hx (hxu ▸ hu)

lemma kept_takeStudio (h : Kept dj s) (hr : s.studios[j]? = some r) (hin : Joined dj s j a.id) :
    Kept dj (takeStudio a s j r) := by
  have huser := kept_takeUser h hin
  unfold takeStudio
  dsimp only
  split
  · exact huser
  · next hnone =>
      have hj : (setCurrentUser j (some a.id)
          { s with untouched := s.untouched.erase j }).studios[j]? =
          some { r with currentUserId := some a.id } := by
        unfold setCurrentUser StudioService.update
        rw [lookup_modify, if_pos rfl, hr]
        rfl
      refine kept_setOnAir huser hj (by simp) fun p hp => ?_
      rw [Bool.not_eq_true, List.any_eq_false] at hnone
      simpa using hnone p hp

/-! ### Going out and handing over -/

lemma kept_leaveSession (h : Kept dj s)
    (hnot : ∀ r, s.studios[j]? = some r → r.currentUserId ≠ some k) :
    Kept dj (leaveSession j k s) := by
  refine ⟨h.one, h.user, fun i q u hq hu => joined_leaveSession_other (h.inside i q u hq hu) ?_⟩
  rintro ⟨rfl, rfl⟩
  exact hnot q hq hu

/-- The studio is left empty and off air. -/
lemma kept_emptied (h : Kept dj s) (s' : Store) (huntouched : s'.untouched = s.untouched)
    (hj : ∀ r, s'.studios[j]? = some r → r.currentUserId = none ∧ r.isOnAir = false)
    (hother : ∀ i, i ≠ j → s'.studios[i]? = s.studios[i]?)
    (hsessions : ∀ i u, i ≠ j → Joined dj s i u → Joined dj s' i u) : Kept dj s' := by
  refine ⟨fun i i' q q' hq hq' hon hon' hst => ?_, fun i q hq hon hnone => ?_,
    fun i q u hq hu => ?_⟩
  · have hi : i ≠ j := by
      rintro rfl
      rw [(hj q hq).2] at hon
      cases hon
    have hi' : i' ≠ j := by
      rintro rfl
      rw [(hj q' hq').2] at hon'
      cases hon'
    rw [hother i hi] at hq
    rw [hother i' hi'] at hq'
    exact h.one i i' q q' hq hq' hon hon' hst
  · have hi : i ≠ j := by
      rintro rfl
      rw [(hj q hq).2] at hon
      cases hon
    rw [hother i hi] at hq
    exact huntouched ▸ h.user i q hq hon hnone
  · have hi : i ≠ j := by
      rintro rfl
      rw [(hj q hq).1] at hu
      cases hu
    rw [hother i hi] at hq
    exact hsessions i u hi (h.inside i q u hq hu)

lemma kept_leaveStudio (h : Kept dj s) (hs : leaveStudio a s j = .ok s') : Kept dj s' := by
  unfold leaveStudio requireStudio at hs
  cases hr : s.studios[j]? with
  | none => simp [hr, bind, Except.bind] at hs
  | some r =>
    simp only [hr, bind, Except.bind] at hs
    split at hs
    · simp only [Except.ok.injEq] at hs
      subst hs
      refine kept_emptied (j := j) h _ ?_ (fun q hq => ?_) (fun i hi => ?_)
        (fun i u hi hju => ?_)
      · split <;> rfl
      · split at hq
        · simp only [setOnAir, setCurrentUser, StudioService.update, leaveSession, lookup_modify,
            if_true, hr, Option.map_some, Option.some.injEq] at hq
          subst hq
          exact ⟨rfl, rfl⟩
        · next hoff =>
            simp only [setCurrentUser, StudioService.update, leaveSession, lookup_modify, if_true,
              hr, Option.map_some, Option.some.injEq] at hq
            subst hq
            exact ⟨rfl, by simpa using hoff⟩
      · split <;> simp [setOnAir, setCurrentUser, StudioService.update, leaveSession,
          lookup_modify, hi]
      · have hleft : Joined dj (leaveSession j a.id s) i u :=
          joined_leaveSession_other hju fun hboth => hi hboth.1
        split <;> exact hleft
    · next hnot =>
        simp only [Except.ok.injEq] at hs
        subst hs
        refine kept_leaveSession h fun q hq hown => hnot ?_
        obtain rfl : r = q := Option.some.inj (hr.symm.trans hq)
        simp [studioCurrentUserId, hown]

/-- Handing over rewrites the on-air flag of the listed studios and nothing else. -/
lemma foldl_setOnAir (target : ℤ) (l : List (ℤ × Studio)) (s : Store) :
    let s' := l.foldl (fun s r => setOnAir r.1 (r.1 = target) s) s
    s'.sessions = s.sessions ∧ s'.untouched = s.untouched ∧
      ∀ k : ℤ, s'.studios[k]? = (s.studios[k]?).map fun r =>
        if k ∈ l.map (·.1) then { r with isOnAir := decide (k = target) } else r := by
  induction l generalizing s with
  | nil => simp
  | cons p l ih =>
    obtain ⟨hsessions, huntouched, hstudios⟩ := ih (setOnAir p.1 (p.1 = target) s)
    refine ⟨hsessions, huntouched, fun k => ?_⟩
    rw [List.foldl_cons, hstudios k]
    simp only [setOnAir, StudioService.update, lookup_modify, List.map_cons, List.mem_cons]
    cases s.studios[k]? with
    | none => split <;> simp
    | some r =>
      by_cases he : k = p.1
      · subst he
        by_cases hl : p.1 ∈ l.map (·.1) <;> simp [hl]
      · simp only [he, if_false, false_or]

lemma kept_handedOver (h : Kept dj s) (st : ℤ) {target : ℤ} {r : Studio}
    (hr : s.studios[target]? = some r) (hu : r.currentUserId ≠ none) :
    Kept dj ((listByStation s st).foldl (fun s r => setOnAir r.1 (r.1 = target) s) s) := by
  obtain ⟨hsessions, huntouched, hstudios⟩ := foldl_setOnAir target (listByStation s st) s
  have hlisted : ∀ (k : ℤ) (x : Studio), s.studios[k]? = some x →
      (k ∈ (listByStation s st).map (·.1) ↔ x.stationId = st) := by
    intro k x hx
    constructor
    · intro hk
      obtain ⟨p, hp, rfl⟩ := List.mem_map.mp hk
      obtain ⟨hp, hst⟩ := mem_listByStation.mp hp
      rw [← hst, Option.some.inj (hx.symm.trans hp)]
    · exact fun hst => List.mem_map.mpr ⟨(k, x), mem_listByStation.mpr ⟨hx, hst⟩, rfl⟩
  have hcase : ∀ (k : ℤ) (q : Studio),
      ((listByStation s st).foldl (fun s r => setOnAir r.1 (r.1 = target) s) s).studios[k]?
        = some q →
      ∃ x, s.studios[k]? = some x ∧ q.stationId = x.stationId ∧
        q.currentUserId = x.currentUserId ∧
        q.isOnAir = if x.stationId = st then decide (k = target) else x.isOnAir := by
    intro k q hk
    rw [hstudios k] at hk
    obtain ⟨x, hx, rfl⟩ := Option.map_eq_some_iff.mp hk
    refine ⟨x, hx, ?_⟩
    by_cases hst : x.stationId = st
    · rw [if_pos ((hlisted k x hx).mpr hst), if_pos hst]
      exact ⟨rfl, rfl, rfl⟩
    · rw [if_neg fun hmem => hst ((hlisted k x hx).mp hmem), if_neg hst]
      exact ⟨rfl, rfl, rfl⟩
  refine ⟨fun i i' q q' hq hq' hon hon' hst => ?_, fun i q hq hon hnone => ?_,
    fun i q u hq hu => ?_⟩
  · obtain ⟨x, hx, hxst, -, hxon⟩ := hcase i q hq
    obtain ⟨y, hy, hyst, -, hyon⟩ := hcase i' q' hq'
    have hxy : x.stationId = y.stationId := hxst.symm.trans (hst.trans hyst)
    rw [hxon] at hon
    rw [hyon, ← hxy] at hon'
    by_cases hin : x.stationId = st
    · rw [if_pos hin, decide_eq_true_eq] at hon hon'
      exact hon.trans hon'.symm
    · rw [if_neg hin] at hon hon'
      exact h.one i i' x y hx hy hon hon' hxy
  · obtain ⟨x, hx, -, hxu, hxon⟩ := hcase i q hq
    rw [huntouched]
    rw [hxon] at hon
    split at hon
    · rw [decide_eq_true_eq] at hon
      obtain rfl : x = r := Option.some.inj (hx.symm.trans (hon ▸ hr))
      exact absurd (hxu ▸ hnone) hu
    · exact h.user i x hx hon (hxu ▸ hnone)
  · obtain ⟨x, hx, -, hxu, -⟩ := hcase i q hq
    obtain ⟨y, hy, hrest⟩ := h.inside i x u hx (hxu ▸ hu)
    exact ⟨y, hsessions ▸ hy, hrest⟩

lemma activeDj_user {r : Studio} (h : ¬ activeDjUserId s j r ≤ 0) : r.currentUserId ≠ none := by
  intro hnone
  simp [activeDjUserId, hnone] at h

lemma kept_handoff {st source target : ℤ} (h : Kept dj s)
    (hs : handoff a s st source target = .ok s') : Kept dj s' := by
  unfold handoff requireStudio at hs
  cases hsource : s.studios[source]? with
  | none => simp [hsource, bind, Except.bind] at hs
  | some r =>
    cases htarget : s.studios[target]? with
    | none => simp [hsource, htarget, bind, Except.bind] at hs
    | some q =>
      simp only [hsource, htarget, bind, Except.bind] at hs
      split at hs
      · cases hs
      · split at hs
        · cases hs
        · split at hs
          · cases hs
          · split at hs
            · cases hs
            · next hactive =>
                cases hs
                exact kept_handedOver h st htarget (activeDj_user hactive)

/-! ### Every call -/

/-- The user of a studio does not come into it again as a producer. -/
def staysDj (s : Store) : Event → Bool
  | .join actor studioId => sessionRoleFor actor = .dj ||
      (s.studios[studioId]?).all fun r => r.currentUserId ≠ some actor.id
  | _ => true

lemma kept_joinStudio (h : Kept dj s) (hstays : dj = true → staysDj s (.join a j) = true)
    (hs : joinStudio a s j = .ok s') : Kept dj s' := by
  unfold joinStudio requireStudio at hs
  cases hr : s.studios[j]? with
  | none =>
    simp only [hr, bind, Except.bind] at hs
    split at hs <;> cases hs
  | some r =>
    have hown : ∀ q, s.studios[j]? = some q → q.currentUserId = some a.id → dj = true →
        sessionRoleFor a = .dj := by
      intro q hq hu hdj
      have hor := hstays hdj
      simp only [staysDj, hq, Option.all_some, Bool.or_eq_true, decide_eq_true_eq] at hor
      exact hor.resolve_right fun hne => hne hu
    cases hpart : requireParticipant a with
    | error e => simp [hpart, bind, Except.bind] at hs
    | ok _ =>
      cases hone : assertNoOtherActiveSession a s j with
      | error e => simp [hpart, hr, hone, bind, Except.bind] at hs
      | ok _ =>
        simp only [hpart, hr, hone, bind, Except.bind] at hs
        split at hs
        · next hrole =>
            split at hs
            · cases hs
            · cases hs
              rw [upsertSession_takeStudio]
              refine kept_takeStudio (kept_upsertSession h _ hown) ?_
                (joined_upsertSession_self _ fun _ => hrole)
              unfold upsertSession
              split <;> exact hr
        · cases hs
          exact kept_upsertSession h _ hown

lemma kept_createStudio {st : ℤ} {name description : String} (h : Kept dj s)
    (hs : createStudio a s st name description = .ok s') : Kept dj s' := by
  unfold createStudio at hs
  cases hadmin : requireAdmin a with
  | error e => simp [hadmin, bind, Except.bind] at hs
  | ok _ =>
    simp only [hadmin, bind, Except.bind] at hs
    split at hs
    · cases hs
    · cases hs
      exact kept_create h _ rfl s.untouched (fun _ hj => hj) fun hon => by cases hon

lemma kept_updateStudio {u : Updates} (h : Kept dj s) (hs : updateStudio a s j u = .ok s') :
    Kept dj s' := by
  unfold updateStudio at hs
  cases hadmin : requireAdmin a with
  | error e => simp [hadmin, bind, Except.bind] at hs
  | ok _ =>
    cases hr : requireStudio s j with
    | error e => simp [hadmin, hr, bind, Except.bind] at hs
    | ok r =>
      simp only [hadmin, hr, bind, Except.bind] at hs
      split at hs
      · cases hs
      · cases hs
        exact kept_update h u.apply (fun r => ⟨rfl, rfl, rfl⟩) j

lemma kept_step {e : Event} (h : Kept dj s) (hstays : dj = true → staysDj s e = true)
    (hs : step s e = some s') : Kept dj s' := by
  unfold step at hs
  cases hcall : call s e with
  | error err =>
    simp only [hcall, Option.some.injEq] at hs
    exact hs ▸ h
  | ok s'' =>
    simp only [hcall, Option.some.injEq] at hs
    subst hs
    cases e with
    | addStation st =>
      cases hcall
      exact kept_ensureDefault h st
    | create actor st name description => exact kept_createStudio h hcall
    | update actor studioId updates => exact kept_updateStudio h hcall
    | join actor studioId => exact kept_joinStudio h hstays hcall
    | leave actor studioId => exact kept_leaveStudio h hcall
    | handoff actor st source target => exact kept_handoff h hcall

/-- **One studio on air, with its user in it.** After any calls a station has at most one studio
on air. Such a studio has a user with a session in it, or it is a default studio that no dj has
joined; and the session is a dj session where nobody whose studio it is came in again as a
producer. -/
theorem onAir_one_with_user {es : List Event} (h : exec step empty es = some s) :
    (∀ (j k : ℤ) (r r' : Studio), s.studios[j]? = some r → s.studios[k]? = some r' →
      r.isOnAir = true → r'.isOnAir = true → r.stationId = r'.stationId → j = k) ∧
    ∀ (j : ℤ) (r : Studio), s.studios[j]? = some r → r.isOnAir = true → j ∈ s.untouched ∨
      ∃ u, r.currentUserId = some u ∧ hasSession s j u = true ∧
        (Meets step (fun s e => staysDj s e = true) empty es → hasDjSession s j u = true) := by
  have hkept : Kept false s :=
    inv_of_exec_all (fun _ _ _ hk hs => kept_step hk (by simp) hs) (kept_empty false) h
  refine ⟨hkept.one, fun j r hr hon => ?_⟩
  cases hu : r.currentUserId with
  | none => exact .inl (hkept.user j r hr hon hu)
  | some u =>
    refine .inr ⟨u, rfl, joined_false.mp (hkept.inside j r u hr hu), fun hok => ?_⟩
    have hdj : Kept true s :=
      inv_of_exec (fun _ _ _ hk hok hs => kept_step hk (fun _ => hok) hs) (kept_empty true) hok h
    exact joined_true.mp (hdj.inside j r u hr hu)

/-- Two djs come into the two studios of a station, and the one on air hands over. -/
def twoDjs : List Event :=
  [.addStation 1, .create ⟨1, "admin"⟩ 1 "Studio B" "", .join ⟨5, "dj"⟩ 1, .join ⟨6, "dj"⟩ 2,
    .handoff ⟨5, "dj"⟩ 1 1 2]

theorem onAir_one_with_user_twoDjs :
    ∃ s, exec step empty twoDjs = some s ∧ ∃ r, s.studios[(2 : ℤ)]? = some r ∧
      r.isOnAir = true ∧ ((2 : ℤ) ∈ s.untouched ∨ ∃ u, r.currentUserId = some u ∧
        hasSession s 2 u = true ∧
        (Meets step (fun s e => staysDj s e = true) empty twoDjs →
          hasDjSession s 2 u = true)) := by
  have hrun : ((exec step empty twoDjs).any fun s =>
      (s.studios[(2 : ℤ)]?).any (·.isOnAir)) = true := by
    decide +kernel
  obtain ⟨s, hs, hany⟩ := (Option.any_eq_true ..).mp hrun
  obtain ⟨r, hr, hon⟩ := (Option.any_eq_true ..).mp hany
  exact ⟨s, hs, r, hr, hon, (onAir_one_with_user hs).2 2 r hr hon⟩

/-- **On air in a studio that is not active.** A dj is on air, and an administrator deactivates
the studio. -/
theorem onAir_inactive :
    ∃ s, exec step empty [.addStation 1, .join ⟨5, "dj"⟩ 1,
        .update ⟨1, "admin"⟩ 1 ⟨none, none, none, some false⟩] = some s ∧
      ∃ r, s.studios[(1 : ℤ)]? = some r ∧ r.isOnAir = true ∧ r.isActive = false := by
  have hrun : ((exec step empty [.addStation 1, .join ⟨5, "dj"⟩ 1,
      .update ⟨1, "admin"⟩ 1 ⟨none, none, none, some false⟩]).any fun s =>
      (s.studios[(1 : ℤ)]?).any fun r => r.isOnAir && !r.isActive) = true := by
    decide +kernel
  obtain ⟨s, hs, hany⟩ := (Option.any_eq_true ..).mp hrun
  obtain ⟨r, hr, hboth⟩ := (Option.any_eq_true ..).mp hany
  have hvalues : r.isOnAir = true ∧ r.isActive = false := by simpa using hboth
  exact ⟨s, hs, r, hr, hvalues⟩

end OnAir.OneOnAir
