import OnAir.StartupSound

/-!
What the worker puts before everything that waits, and whether it is played next.

The startup sound and the jingles of the sweeper get the position before the first row that waits,
but none below `1`. The sweeper does not look whether its row was inserted.
-/

namespace OnAir.FrontInsertion

open BroadcastQueue OneSource PlayoutTables Programs PythonText QueueUpkeep SettingsText
  StartupSound OnAir.Table WorkerEnv

variable (w : Worker) (s : Engine)

/-! ### The rows and what is returned -/

/-- The row of a sweeper jingle. -/
def sweeperRow (jingle : ℤ) : QueueItem :=
  .new w.stationId jingle (frontPosition w s) s!"jingle:{jingle}:{frontPosition w s}"

/-- The track of the startup sound, where one is due and there is a track for it; `none` where a
setting raises. -/
def soundDue : Option (Option ℤ) :=
  if !isStartupSoundPending w s || nextPendingIsJingle w s then some none
  else
    let enabled := isTruthy ((setting w.stationId s "startup_sound_enabled").getD "false")
    let mode := settingOr w.stationId s "startup_sound_mode" "random"
    match intSetting ((setting w.stationId s "startup_sound_track_id").getD "0") 0 with
    | .error _ => none
    | .ok trackId =>
      if enabled && decide (mode = "specific") && decide (2 ^ 63 ≤ trackId) then none
      else some (if enabled then startupTrack w s mode trackId else none)

/-- `_maybe_insert_startup_sound`, and what it returns; `none` where it raises. -/
def insertStartupSound : Option (Engine × Bool) :=
  match soundDue w s with
  | none => none
  | some none =>
    some (if isStartupSoundPending w s then clearStartupSoundPending w s else s, false)
  | some (some trackId) =>
    let r := insertOrIgnore (soundRow w s trackId) s
    some (clearStartupSoundPending w r.1, r.2)

/-- The jingle of the sweeper, where one is due and there is one; `none` where a setting raises. -/
def jingleDue : Option (Option ℤ) :=
  match sweeperSettings w.stationId s with
  | .error _ => none
  | .ok sweeper =>
    if !sweeper.enabled || nextPendingIsJingle w s then some none
    else if decide (sweeper.unit = .minutes) && decide (2 ^ 63 ≤ baselineQueueId w s) then none
    else some (if sweeperDue w sweeper s then pickJingle w.stationId s [] else none)

/-- `_maybe_insert_sweeper_jingle`, and what it returns; `none` where it raises. -/
def insertSweeperJingle : Option (Engine × Bool) :=
  match jingleDue w s with
  | none => none
  | some none => some (s, false)
  | some (some jingle) => some ((insertOrIgnore (sweeperRow w s jingle) s).1, true)

/-! ### The phases of a tick -/

/-- The phase of the startup sound does what `insertStartupSound` does. -/
lemma maybeInsertStartupSound_eq : EndsIn (maybeInsertStartupSound w) s
    (fun t => ∃ inserted, insertStartupSound w s = some (t, inserted))
    fun t => t = s ∧ insertStartupSound w s = none := by
  refine ⟨?_⟩
  unfold maybeInsertStartupSound insertStartupSound soundDue
  rw [ends_bind, ends_get]
  unfold soundRow
  generalize isStartupSoundPending w s = pending
  generalize nextPendingIsJingle w s = jingle
  generalize isTruthy ((setting w.stationId s "startup_sound_enabled").getD "false") = enabled
  generalize settingOr w.stationId s "startup_sound_mode" "random" = mode
  generalize intSetting ((setting w.stationId s "startup_sound_track_id").getD "0") 0 = cfg
  generalize frontPosition w s = pos
  cases pending with
  | false => exact ⟨false, rfl⟩
  | true =>
    cases jingle with
    | true => exact ⟨false, rfl⟩
    | false =>
      cases cfg with
      | error e => exact ⟨rfl, rfl⟩
      | ok n =>
        simp only [liftSetting, pure_bind, bindInteger, Bool.not_true, Bool.or_self,
          Bool.false_eq_true, if_false]
        generalize decide (mode = "specific") = specific
        generalize decide (2 ^ 63 ≤ n) = big
        generalize startupTrack w s mode n = track
        cases hbig : enabled && specific && big with
        | true => exact ⟨rfl, rfl⟩
        | false =>
          cases enabled with
          | false => exact ⟨false, rfl⟩
          | true =>
            cases track with
            | none => exact ⟨false, rfl⟩
            | some trackId => exact ⟨_, rfl⟩

/-! ### In front -/

/-- One row was added, which waits, and it is next. -/
def FrontInserted (s t : Engine) : Prop :=
  ∃ (id : ℤ) (r : QueueItem), s.queueItems[id]? = none ∧ r.status = .pending ∧
    t.queueItems = s.queueItems.insert id r ∧ nextPending w.stationId t = some (id, r)

/-- Where a call says that it inserted a row, it did so, and the row is next. -/
def InsertsInFront (call : Engine → Option (Engine × Bool)) : Prop :=
  ∀ t, call s = some (t, true) → FrontInserted w s t

/-- All rows that wait stand behind position `1`. -/
def FrontFree : Prop := ∀ q ∈ queueRows w.stationId s [.pending], 1 < q.2.position

variable {w s}

/-- A new row is next if and only if it stands before all that wait. -/
lemma nextPending_insert {r : QueueItem} (hst : r.stationId = w.stationId)
    (hp : r.status = .pending) :
    nextPending w.stationId (insertQueue r s) = some (nextId s.queueItems, r) ↔
      ∀ q ∈ queueRows w.stationId s [.pending], r.position < q.2.position := by
  have hsorted : (queueRows w.stationId (insertQueue r s) [.pending]).Pairwise
      fun a b => a.1 < b.1 := (rows_sorted _).filter _
  have hnew : (nextId s.queueItems, r) ∈ queueRows w.stationId (insertQueue r s) [.pending] :=
    mem_queueRows.mpr ⟨by rw [insertQueue, lookup_insert, if_pos rfl], hst, by simp [hp]⟩
  have hold : ∀ q ∈ queueRows w.stationId s [.pending],
      q ∈ queueRows w.stationId (insertQueue r s) [.pending] ∧ q.1 < nextId s.queueItems := by
    intro q hq
    obtain ⟨hrow, hrest⟩ := mem_queueRows.mp (show (q.1, q.2) ∈ _ from hq)
    have hlt : q.1 < nextId s.queueItems := lt_nextId hrow
    exact ⟨mem_queueRows.mpr ⟨by rw [insertQueue, lookup_insert, if_neg hlt.ne]; exact hrow,
      hrest⟩, hlt⟩
  constructor
  · intro hnext q hq
    obtain ⟨hq', hlt⟩ := hold q hq
    have hfirst := Sql.firstBy_first (f := fun q : ℤ × QueueItem => q.2.position) hsorted hnext
      q hq'
    rcases hfirst with heq | hless | ⟨-, hless⟩
    · rw [heq] at hlt
      exact absurd hlt (lt_irrefl _)
    · exact hless
    · exact absurd hless hlt.le.not_gt
  · intro hfront
    cases hnext : nextPending w.stationId (insertQueue r s) with
    | none =>
      rw [nextPending, Sql.firstBy_eq_none] at hnext
      rw [hnext] at hnew
      cases hnew
    | some item =>
      have hitem := Sql.firstBy_mem hnext
      obtain ⟨hrow, hrest⟩ := mem_queueRows.mp (show (item.1, item.2) ∈ _ from hitem)
      rw [insertQueue, lookup_insert] at hrow
      split_ifs at hrow with hid
      · exact congrArg some (Prod.ext hid (Option.some.inj hrow).symm)
      · have hless := hfront item (mem_queueRows.mpr ⟨hrow, hrest⟩)
        have hfirst := Sql.firstBy_first (f := fun q : ℤ × QueueItem => q.2.position) hsorted
          hnext _ hnew
        rcases hfirst with heq | hgreater | ⟨heq, -⟩
        · exact absurd (congrArg Prod.fst heq).symm hid
        · exact absurd hless hgreater.le.not_gt
        · exact absurd hless heq.le.not_gt

/-- The position before the first row that waits is before it if and only if there is one above
`0`. -/
lemma frontPosition_lt_iff : (∀ q ∈ queueRows w.stationId s [.pending],
    frontPosition w s < q.2.position) ↔ FrontFree w s := by
  refine ⟨fun h q hq => (le_max_left 1 _).trans_lt (h q hq), fun h q hq => ?_⟩
  exact atMost_frontPosition hq h

/-- Where the key of a new row is free, the row is next if and only if all others wait behind
position `1`. -/
lemma frontInserted_iff {r : QueueItem} (hst : r.stationId = w.stationId)
    (hp : r.status = .pending) (hpos : r.position = frontPosition w s)
    {t : Engine} (ht : t.queueItems = (insertQueue r s).queueItems) :
    FrontInserted w s t ↔ FrontFree w s := by
  rw [← frontPosition_lt_iff, ← hpos, ← nextPending_insert hst hp]
  have hnext : nextPending w.stationId t = nextPending w.stationId (insertQueue r s) := by
    unfold nextPending queueRows
    rw [ht]
  unfold FrontInserted
  rw [hnext, ht]
  constructor
  · rintro ⟨id, r', hfree, -, hrows, hfirst⟩
    have hid : id = nextId s.queueItems := by
      by_contra hne
      have hlookup : (insertQueue r s).queueItems[id]? = some r' := by
        rw [hrows, lookup_insert, if_pos rfl]
      rw [insertQueue, lookup_insert, if_neg hne, hfree] at hlookup
      cases hlookup
    subst hid
    have hrow : (insertQueue r s).queueItems[nextId s.queueItems]? = some r' := by
      rw [hrows, lookup_insert, if_pos rfl]
    rw [insertQueue, lookup_insert, if_pos rfl] at hrow
    rw [hfirst, Option.some.inj hrow]
  · intro hfirst
    exact ⟨nextId s.queueItems, r, lookup_nextId _, hp, rfl, hfirst⟩

/-- A row that is not inserted is not next. -/
lemma not_frontInserted {t : Engine} (ht : t.queueItems = s.queueItems) :
    ¬ FrontInserted w s t := by
  rintro ⟨id, r, hfree, -, hrows, -⟩
  have hlookup : t.queueItems[id]? = some r := by rw [hrows, lookup_insert, if_pos rfl]
  rw [ht, hfree] at hlookup
  cases hlookup

variable (w s) in
/-- **What says that it was inserted is next** if and only if all that waits stands behind
position `1` and, for a jingle of the sweeper, its key is free. -/
theorem inserts_in_front_iff :
    (InsertsInFront w s (insertStartupSound w) ↔ ∀ trackId, soundDue w s = some (some trackId) →
      dedupeTaken s (soundRow w s trackId) = false → FrontFree w s) ∧
    (InsertsInFront w s (insertSweeperJingle w) ↔ ∀ jingle, jingleDue w s = some (some jingle) →
      dedupeTaken s (sweeperRow w s jingle) = false ∧ FrontFree w s) := by
  constructor
  · unfold InsertsInFront insertStartupSound
    cases hdue : soundDue w s with
    | none => simp
    | some track =>
      cases track with
      | none => simp
      | some trackId =>
        cases htaken : dedupeTaken s (soundRow w s trackId) with
        | true =>
          have hinsert : insertOrIgnore (soundRow w s trackId) s = (s, false) := by
            rw [insertOrIgnore, if_pos htaken]
          refine iff_of_true (fun t ht => ?_) fun trackId' heq hfree => ?_
          · dsimp only at ht
            rw [hinsert] at ht
            cases ht
          · obtain rfl := Option.some.inj (Option.some.inj heq)
            rw [htaken] at hfree
            cases hfree
        | false =>
          have hinsert : insertOrIgnore (soundRow w s trackId) s =
              (insertQueue (soundRow w s trackId) s, true) := by
            rw [insertOrIgnore, htaken]
            rfl
          have hfront : FrontInserted w s (clearStartupSoundPending w
              (insertQueue (soundRow w s trackId) s)) ↔ FrontFree w s :=
            frontInserted_iff rfl rfl rfl rfl
          dsimp only
          rw [hinsert]
          refine ⟨fun h trackId' heq _ => hfront.mp (h _ rfl), fun h t ht => ?_⟩
          obtain rfl := congrArg Prod.fst (Option.some.inj ht)
          exact hfront.mpr (h trackId rfl htaken)
  · unfold InsertsInFront insertSweeperJingle
    cases hdue : jingleDue w s with
    | none => simp
    | some jingle =>
      cases jingle with
      | none => simp
      | some jingle =>
        cases htaken : dedupeTaken s (sweeperRow w s jingle) with
        | true =>
          refine iff_of_false (fun h => ?_) fun h => ?_
          · have hinsert : (insertOrIgnore (sweeperRow w s jingle) s).1 = s := by
              rw [insertOrIgnore, if_pos htaken]
            exact not_frontInserted rfl (hinsert ▸ h _ rfl)
          · have hfree := (h jingle rfl).1
            rw [htaken] at hfree
            cases hfree
        | false =>
          have hinsert : (insertOrIgnore (sweeperRow w s jingle) s).1 =
              insertQueue (sweeperRow w s jingle) s := by
            rw [insertOrIgnore, htaken]
            rfl
          have hfront : FrontInserted w s (insertQueue (sweeperRow w s jingle) s) ↔
              FrontFree w s := frontInserted_iff rfl rfl rfl rfl
          dsimp only
          rw [hinsert]
          refine ⟨fun h jingle' heq => ?_, fun h t ht => ?_⟩
          · obtain rfl := Option.some.inj (Option.some.inj heq)
            exact ⟨htaken, hfront.mp (h _ rfl)⟩
          · obtain rfl := congrArg Prod.fst (Option.some.inj ht)
            exact hfront.mpr (h jingle rfl).2

/-! ### A jingle behind the song -/

/-- A jingle is due after each song; one song was played, and another waits at position `1`. -/
def songAtOne : Engine :=
  { Engine.empty with
    tracks := (Engine.empty.tracks.insert 1
      ⟨1, "", "", "/one.mp3", 200, "music", true, true, 0, none⟩).insert 2
      ⟨1, "", "", "/jingle.mp3", 10, "jingle", true, true, 0, none⟩
    queueItems := ((∅ : Table QueueItem).insert 1 ⟨1, 1, 1, .done, some 0, none⟩).insert 2
      ⟨1, 1, 1, .pending, none, none⟩
    stationSettings := Engine.empty.stationSettings.insert 1
      (((∅ : Std.ExtTreeMap String String).insert "sweeper_enabled" "true").insert
        "sweeper_interval" "1") }

/-- The sweeper says that it inserted a jingle, and the song is still next. -/
theorem jingle_behind_song :
    ¬ InsertsInFront soleWorker songAtOne (insertSweeperJingle soleWorker) := by
  intro h
  have hresult : ((insertSweeperJingle soleWorker songAtOne).map fun r =>
      (r.2, (nextPending 1 r.1).map Prod.fst)) = some (true, some 2) := by decide +kernel
  obtain ⟨⟨t, inserted⟩, hcall, heq⟩ := Option.map_eq_some_iff.mp hresult
  obtain ⟨rfl, hnext⟩ := Prod.mk.inj heq
  obtain ⟨id, r, hfree, -, -, hfirst⟩ := h t hcall
  rw [show nextPending 1 t = some (id, r) from hfirst] at hnext
  obtain rfl : id = 2 := Option.some.inj hnext
  have hthere : (songAtOne.queueItems[(2 : ℤ)]?).isSome = true := by decide +kernel
  rw [hfree] at hthere
  cases hthere

end OnAir.FrontInsertion
