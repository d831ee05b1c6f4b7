import OnAir.ShowAudio

/-!
What has been heard of a show when its session enters a status.

A worker keeps what it has read of a session: nobody else takes a session from `going_live` or
`on_break`. So it goes live after the file that the worker has started for it.
-/

namespace OnAir.AudioOrder

open PlayoutTables Resumption Runs ShowAudio ShowLifecycle ThreadPool

variable {setup : Setup} {i j sid : ℕ} {s t u : State} {α β : Type} {session : ShowSession}
  {status : ShowStatus} {file : AudioFile}

/-! ### What a thread knows -/

/-- The worker attends to a session that has begun. -/
structure Attends (i sid : ℕ) (session : ShowSession) (s : State) : Prop where
  worker : s.workers session.stationId = some i
  row : ∃ r, s.rows[sid]? = some r ∧ r.session.showId = session.showId ∧
    r.session.stationId = session.stationId ∧ r.session.status ≠ .preparing

variable (setup) in
/-- The worker has read the session. -/
structure Reads (i sid : ℕ) (session : ShowSession) (s : State) : Prop
    extends Attends i sid session s where
  last : session.status ∈ beforeLive → lastOf sid beforeLive s.history = some session.status
  introduced : configured setup session →
    session.status = .introPlaying ∨ session.status = .breakIntro →
      Introduced setup session sid s.history

variable (setup) in
/-- The session may go live. -/
structure Ready (i sid : ℕ) (session : ShowSession) (s : State) : Prop
    extends Attends i sid session s where
  introduced : configured setup session → Introduced setup session sid s.history

/-- The session has left its first status. -/
def Begun (sid : ℕ) (s : State) : Prop :=
  ∃ r, s.rows[sid]? = some r ∧ r.session.status ≠ .preparing

/-- The session is in its first status, and has been created by the thread. -/
def Mine (i sid : ℕ) (s : State) : Prop :=
  ∃ r, s.rows[sid]? = some r ∧ r.creator = i ∧ r.session.status = .preparing

lemma Attends.others (h : Attends i sid session s) (ht : Others setup i s t) :
    Attends i sid session t where
  worker := ht.workers _ h.worker
  row := by
    obtain ⟨r, hr, hshow, hstation, hp⟩ := h.row
    obtain ⟨r', hr', hsame, -, hnext⟩ := ht.rows sid r hr
    exact ⟨r', hr', hsame.showId.trans hshow, hsame.stationId.trans hstation, hnext hp⟩

/-- The others leave the history of the session alone, as far as its worker looks at it. -/
lemma Attends.history (h : Attends i sid session s) (ht : Others setup i s t) :
    lastOf sid beforeLive t.history = lastOf sid beforeLive s.history ∧
      ∀ session, Introduced setup session sid s.history →
        Introduced setup session sid t.history := by
  obtain ⟨r, hr, -, hstation, hp⟩ := h.row
  exact ht.history sid r hr hp (hstation ▸ h.worker)

lemma stable_reads : Stable (Others setup i) (Reads setup i sid session) := fun _ _ ht h =>
  { h.toAttends.others ht with
    last := fun hs => (h.toAttends.history ht).1.trans (h.last hs)
    introduced := fun hc hs => (h.toAttends.history ht).2 session (h.introduced hc hs) }

lemma stable_ready : Stable (Others setup i) (Ready setup i sid session) := fun _ _ ht h =>
  { h.toAttends.others ht with
    introduced := fun hc => (h.toAttends.history ht).2 session (h.introduced hc) }

lemma stable_begun : Stable (Others setup i) (Begun sid) := by
  rintro s t ht ⟨r, hr, hp⟩
  obtain ⟨r', hr', -, -, hnext⟩ := ht.rows sid r hr
  exact ⟨r', hr', hnext hp⟩

lemma stable_mine : Stable (Others setup i) (Mine i sid) := by
  rintro s t ht ⟨r, hr, hc, hp⟩
  obtain ⟨r', hr', hsame, hfirst, -⟩ := ht.rows sid r hr
  exact ⟨r', hr', hsame.creator.trans hc, hfirst hp hc⟩

lemma stable_worker {stationId : ℤ} :
    Stable (Others setup i) fun s => s.workers stationId = some i :=
  fun _ _ ht h => ht.workers stationId h

lemma stable_true : Stable (Others setup i) fun _ => True := fun _ _ _ _ => trivial

/-! ### Statements -/

variable (setup) in
/-- What a program does from `P` on; nothing is promised of what it raises. -/
abbrev Does (i : ℕ) (P : State → Prop) (p : Program α) (Q : α → State → Prop) : Prop :=
  Triple (fun o => limitedRun setup i o) (Sound setup) (Others setup i) P p Q fun _ _ => True

variable {P P' : State → Prop} {Q : α → State → Prop} {R : β → State → Prop}

lemma then_does {p : Program α} {f : α → Program β} (h : Does setup i P p Q)
    (hf : ∀ a, Does setup i (Q a) (f a) R) : Does setup i P (p >>= f) R :=
  h.bind (Others.refl i) hf

lemma return_does {a : α} : Does setup i P (pure a : Program α) fun _ _ => True :=
  fun _ _ _ _ => trivial

lemma raise_does {e : Raised} : Does setup i P (.raise e : Program α) Q :=
  fun _ _ _ _ => trivial

lemma weaken_does {p : Program α} (h : Does setup i P p Q) (hP : ∀ s, P' s → P s) :
    Does setup i P' p Q := h.conseq hP (fun _ _ hs => hs) fun _ _ hs => hs

lemma anything_does {p : Program α} (h : Does setup i (fun _ => True) p Q) :
    Does setup i P p Q := weaken_does h fun _ _ => trivial

/-- An ordinary statement, whether it is executed or raises. -/
lemma ordinary_triple {o : Op (Answer α)} (hP : Stable (Others setup i) P) (ho : ordinary o) :
    Triple (fun o => limitedRun setup i o) (Sound setup) (Others setup i) P (execute o)
      (fun _ => P) fun _ => P := by
  intro s hs t ht hinv w a u hrun
  obtain ⟨hu, hothers⟩ := sound_of_ordinary (i := i) ho hinv hrun
  have hP' : P u := hP t u hothers (hP s t ht hs)
  cases a with
  | ok a => exact ⟨hu, fun v hv => hP u v hv hP'⟩
  | error e => exact ⟨hu, fun v hv => hP u v hv hP'⟩

lemma ordinary_does {o : Op (Answer α)} (hP : Stable (Others setup i) P) (ho : ordinary o) :
    Does setup i P (execute o) fun _ => P :=
  (ordinary_triple hP ho).conseq (fun _ hs => hs) (fun _ _ hs => hs) fun _ _ _ => trivial

lemma statement_does {o : Op (Answer α)} (ho : ordinary o) :
    Does setup i (fun _ => True) (execute o) fun _ _ => True := ordinary_does stable_true ho

/-- A statement that reads `f`. -/
lemma read_does {o : Op (Answer α)} {f : State → α} (hP : Stable (Others setup i) P)
    (hQ : ∀ a, Stable (Others setup i) (Q a))
    (ho : ∀ w s, run setup i o w s = attempt w s (.ok (f s), s))
    (hf : ∀ s, Sound setup s → P s → Q (f s) s) : Does setup i P (execute o) Q := by
  intro s hs t ht hinv w a u hrun
  obtain ⟨-, hrun⟩ := Option.ite_none_right_eq_some.mp hrun
  obtain ⟨e, rfl, rfl⟩ | heq := attempt_cases ((ho w t).symm.trans hrun)
  · exact ⟨hinv, fun _ _ => trivial⟩
  · cases heq
    exact ⟨hinv, fun v hv => hQ _ _ v hv (hf t hinv (hP s t ht hs))⟩

/-- A status is written, whatever else is the case. -/
lemma update_does {read : ShowStatus} (hP : Stable (Others setup i) P)
    (h : ∀ (s : State) (w : World) (r : Row), Sound setup s → P s → s.rows[sid]? = some r →
      (∀ e, w ≠ .raises e) → neverOver setup i (.updateStatus sid read status) w s = true →
      Written s i sid r.session status ∧
        (configured setup r.session → status = .introPlaying ∨ status = .breakIntro →
          Introduced setup r.session sid s.history) ∧
        (configured setup r.session → Heard setup r.session sid s.history status)) :
    Does setup i P (execute (.updateStatus sid read status)) fun _ _ => True := by
  intro s hs t ht hinv w a u hrun
  have hsound : Sound setup u := by
    obtain ⟨hallows, hrun⟩ := Option.ite_none_right_eq_some.mp hrun
    obtain ⟨-, hover⟩ := Bool.and_eq_true_iff.mp hallows
    cases w with
    | raises e =>
      cases hrun
      exact hinv
    | yes | no =>
      cases hrun
      cases hr : t.rows[sid]? with
      | none =>
        rw [State.update, hr]
        exact hinv
      | some r =>
        obtain ⟨hwritten, hin, hheard⟩ := h t _ r hinv (hP s t ht hs) hr (by simp) hover
        exact sound_update hinv hr hwritten hin hheard
  cases a with
  | ok a => exact ⟨hsound, fun _ _ => trivial⟩
  | error e => exact ⟨hsound, fun _ _ => trivial⟩

/-! ### Statuses -/

lemma Attends.written {r : Row} (h : Attends i sid session s) (hr : s.rows[sid]? = some r)
    (hfirst : status ≠ .goingLive) (hnext : status ≠ .preparing) :
    Written s i sid r.session status := by
  obtain ⟨r', hr', -, hstation, hp⟩ := h.row
  rw [hr] at hr'
  cases hr'
  exact ⟨⟨fun h => absurd h hp, fun h => absurd h hfirst⟩, hnext, fun h => absurd h hfirst,
    fun _ => hstation ▸ h.worker⟩

lemma Attends.same {r : Row} (h : Attends i sid session s) (hr : s.rows[sid]? = some r) :
    r.session.showId = session.showId ∧ r.session.stationId = session.stationId := by
  obtain ⟨r', hr', hshow, hstation, -⟩ := h.row
  rw [hr] at hr'
  cases hr'
  exact ⟨hshow, hstation⟩

/-- A session that is ready goes live, or waits for the file before. -/
lemma goOn_does {read : ShowStatus} (hstatus : status ∈ [.introPlaying, .breakIntro, .live]) :
    Does setup i (Ready setup i sid session) (execute (.updateStatus sid read status))
      fun _ _ => True := by
  refine update_does stable_ready fun s w r _ hs hr _ _ => ?_
  obtain ⟨hshow, hstation⟩ := hs.toAttends.same hr
  have hin : configured setup r.session → Introduced setup r.session sid s.history := fun hc =>
    (introduced_congr hshow hstation).mpr (hs.introduced (by rwa [configured_congr hshow] at hc))
  have hne : status ≠ .goingLive ∧ status ≠ .preparing := by
    constructor <;> rintro rfl <;> simp at hstatus
  refine ⟨hs.toAttends.written hr hne.1 hne.2, fun hc _ => hin hc, fun hc => ?_⟩
  obtain rfl | rfl | rfl : status = .introPlaying ∨ status = .breakIntro ∨ status = .live := by
    simpa using hstatus
  · trivial
  · trivial
  · exact hin hc

/-- A session goes to its break, or ends, only where its files do not exist. -/
lemma over_does {read : ShowStatus} (hstatus : status = .onBreak ∨ status = .ended) :
    Does setup i (Reads setup i sid session) (execute (.updateStatus sid read status))
      fun _ _ => True := by
  refine update_does stable_reads fun s w r _ hs hr hw hover => ?_
  have hc : ¬ configured setup r.session := by
    cases w with
    | raises e => exact absurd rfl (hw e)
    | yes | no => obtain rfl | rfl := hstatus <;> simpa [neverOver, hr] using hover
  have hne : status ≠ .goingLive ∧ status ≠ .preparing := by
    obtain rfl | rfl := hstatus <;> decide
  exact ⟨hs.toAttends.written hr hne.1 hne.2, fun h => absurd h hc, fun h => absurd h hc⟩

/-- A request changes the status of a session that has begun. -/
lemma request_does {read : ShowStatus} (hstatus : status = .breakOutro ∨ status = .outroPlaying) :
    Does setup i (Begun sid) (execute (.updateStatus sid read status)) fun _ _ => True := by
  refine update_does stable_begun fun s w r _ hs hr _ _ => ?_
  obtain ⟨r', hr', hp⟩ := hs
  rw [hr] at hr'
  cases hr'
  obtain rfl | rfl := hstatus <;>
    exact ⟨⟨by simp [hp], by simp, by simp, by simp [ofWorker]⟩, by simp, fun _ => trivial⟩

/-- A session that has been created goes live. -/
lemma first_does {read : ShowStatus} :
    Does setup i (Mine i sid) (execute (.updateStatus sid read .goingLive)) fun _ _ => True := by
  refine update_does stable_mine fun s w r _ hs hr _ _ => ?_
  obtain ⟨r', hr', hc, hp⟩ := hs
  rw [hr] at hr'
  cases hr'
  exact ⟨⟨by simp [hp], by simp, fun _ => ⟨r, hr, hc⟩, by simp [ofWorker]⟩, by simp,
    fun _ => trivial⟩

/-! ### The worker -/

lemma ready_of_not_configured (h : Reads setup i sid session s)
    (hc : ¬ configured setup session) : Ready setup i sid session s :=
  { h.toAttends with introduced := fun h => absurd h hc }

/-- The file is started, and so the session is ready. -/
lemma start_triple {path : String} (hbefore : session.status ∈ beforeLive)
    (hpath : showPath setup.shows[session.showId]? (fileBefore session.status) = some path) :
    Triple (fun o => limitedRun setup i o) (Sound setup) (Others setup i)
      (Reads setup i sid session)
      (execute (.startStation session.stationId (fileBefore session.status)
        (setup.resolveRuntimeMediaPath path)))
      (fun _ => Ready setup i sid session) fun _ => Ready setup i sid session := by
  intro s hs t ht hinv w a u hrun
  have hreads := stable_reads s t ht hs
  obtain ⟨hallows, hrun⟩ := Option.ite_none_right_eq_some.mp hrun
  have hfile : fileBefore session.status = .intro ∨ fileBefore session.status = .breakIntro := by
    cases session.status <;> simp [fileBefore]
  cases w with
  | raises e => cases hallows
  | yes | no =>
    cases hrun
    refine ⟨sound_start hinv hfile, fun v hv => stable_ready _ v hv ?_⟩
    exact { hreads.toAttends with
      introduced := fun _ => introduced_started (hreads.last hbefore) hpath }

lemma playShowAudio_does {path : String} (hruntime : setup.hasRuntime = true)
    (hbefore : session.status ∈ beforeLive)
    (hpath : showPath setup.shows[session.showId]? (fileBefore session.status) = some path) :
    Does setup i (Reads setup i sid session)
      (playShowAudio setup session.stationId (fileBefore session.status) path)
      fun _ => Ready setup i sid session := by
  unfold playShowAudio
  dsimp only
  split
  case isTrue hmissing =>
    refine Triple.pure stable_reads fun s hs => ready_of_not_configured hs fun hc => ?_
    obtain ⟨path', hpath', hne, hisFile⟩ := of_configured hc (fileBefore session.status)
    rw [hpath] at hpath'
    cases hpath'
    simp [hne, hisFile] at hmissing
  case isFalse =>
    refine Triple.tryCatch (F := fun _ => Ready setup i sid session) (Others.refl i) ?_ fun e =>
      Triple.pure stable_ready fun _ hs => hs
    unfold startRuntime
    rw [if_pos hruntime]
    refine Triple.bind (Others.refl i) (start_triple hbefore hpath) fun _ => ?_
    exact Triple.bind (Others.refl i) (ordinary_triple stable_ready rfl) fun _ =>
      Triple.pure stable_ready fun _ hs => hs

lemma goOnLater_does {read : ShowStatus} (hstatus : status ∈ [.introPlaying, .breakIntro, .live]) :
    Does setup i (Ready setup i sid session) (updateShowSessionStatus sid read status)
      fun _ _ => True :=
  then_does (ordinary_does stable_ready rfl) fun _ => then_does (goOn_does hstatus) fun _ =>
    then_does (statement_does rfl) fun _ => return_does

lemma beLive_does (session : ShowSession) :
    Does setup i (Ready setup i sid session) (updateShowSessionStatus sid session.status .live)
      fun _ _ => True := goOnLater_does (by simp)

lemma playOrLive_does (hruntime : setup.hasRuntime = true) (hbefore : session.status ∈ beforeLive)
    (hstatus : status ∈ [.introPlaying, .breakIntro, .live])
    (hfile : file = fileBefore session.status) :
    Does setup i (Reads setup i sid session) (playOrLive setup sid session file status)
      fun _ _ => True := by
  refine then_does (Q := fun a s => a = setup.shows[session.showId]? ∧ Reads setup i sid session s)
    (read_does stable_reads (fun a _ _ ht h => ⟨h.1, stable_reads _ _ ht h.2⟩)
      (fun w s => rfl) fun s _ hs => ⟨rfl, hs⟩) fun found => ?_
  subst hfile
  split
  · rename_i hnone
    refine weaken_does (beLive_does session) fun s hs => ?_
    refine ready_of_not_configured hs.2 fun hc => ?_
    obtain ⟨path, hpath, -⟩ := of_configured hc (fileBefore session.status)
    rw [← hs.1, hnone] at hpath
    cases hpath
  · rename_i path hpath
    intro s hs
    obtain ⟨rfl, hs⟩ := hs
    refine then_does (playShowAudio_does hruntime hbefore hpath) (fun started => ?_) s hs
    split
    · exact goOnLater_does hstatus
    · exact goOnLater_does (by simp)

lemma audioOver_does : Does setup i (Reads setup i sid session) (audioOver sid session)
    fun _ _ => True := by
  unfold audioOver
  split
  · rename_i h
    exact weaken_does (beLive_does session) fun s hs =>
      { hs.toAttends with introduced := fun hc => hs.introduced hc (.inl h) }
  · rename_i h
    exact weaken_does (beLive_does session) fun s hs =>
      { hs.toAttends with introduced := fun hc => hs.introduced hc (.inr h) }
  · exact then_does (ordinary_does stable_reads rfl) fun _ =>
      then_does (over_does (.inl rfl)) fun _ => then_does (statement_does rfl) fun _ => return_does
  · exact then_does (over_does (.inr rfl)) fun _ => then_does (statement_does rfl) fun _ =>
      then_does (statement_does rfl) fun _ => statement_does rfl
  · exact anything_does return_does

lemma handleShowAudioState_does :
    Does setup i (Reads setup i sid session) (handleShowAudioState setup sid session)
      fun _ _ => True := by
  refine then_does (Q := fun _ => Reads setup i sid session) ?_ fun alive => ?_
  · unfold playbackAlive
    split
    · exact ordinary_does stable_reads rfl
    · exact Triple.pure stable_reads fun _ hs => hs
  · split
    · exact anything_does return_does
    · exact then_does (ordinary_does stable_reads rfl) fun _ => audioOver_does

/-- What the worker knows when it has looked for the session of its station. -/
def Found (setup : Setup) (i : ℕ) (found : Option (ℕ × ShowSession)) (s : State) : Prop :=
  ∀ sid session, found = some (sid, session) → session.status ≠ .preparing →
    Reads setup i sid session s

lemma stable_found {found : Option (ℕ × ShowSession)} :
    Stable (Others setup i) (Found setup i found) := fun s t ht h sid session hfound hp =>
  stable_reads s t ht (h sid session hfound hp)

/-- **The lifecycle.** A session goes live after its intro, or its break intro. -/
theorem processShowLifecycle_does (hruntime : setup.hasRuntime = true) :
    ∀ {found : Option (ℕ × ShowSession)},
      Does setup i (Found setup i found) (processShowLifecycle setup found) fun _ _ => True
  | none => anything_does return_does
  | some (sid, session) => by
    have hreads : session.status ≠ .preparing → ∀ s, Found setup i (some (sid, session)) s →
        Reads setup i sid session s := fun hp s hs => hs sid session rfl hp
    unfold processShowLifecycle
    dsimp only
    split
    · rename_i h
      refine weaken_does ?_ (hreads (by simp [h]))
      refine then_does (ordinary_does stable_reads rfl) fun playing => ?_
      split
      · exact anything_does return_does
      · exact playOrLive_does hruntime (by simp [h, beforeLive]) (by simp) (by rw [h]; rfl)
    · rename_i h
      exact weaken_does handleShowAudioState_does (hreads (by simp [h]))
    · rename_i h
      exact weaken_does handleShowAudioState_does (hreads (by simp [h]))
    · rename_i h
      exact weaken_does handleShowAudioState_does (hreads (by simp [h]))
    · rename_i h
      exact weaken_does handleShowAudioState_does (hreads (by simp [h]))
    · rename_i h
      refine weaken_does ?_ (hreads (by simp [h]))
      refine then_does (ordinary_does stable_reads rfl) fun due => ?_
      split
      · exact anything_does return_does
      · exact playOrLive_does hruntime (by simp [h, beforeLive]) (by simp) (by rw [h]; rfl)
    · exact anything_does (statement_does rfl)
    · exact anything_does return_does
    · exact anything_does return_does

lemma row_of_active {stationId : ℤ} (h : s.active stationId = some (sid, session)) :
    ∃ r, s.rows[sid]? = some r ∧ r.session = session ∧ session.stationId = stationId := by
  obtain ⟨k, hk, hmap⟩ := Option.bind_eq_some_iff.mp h
  obtain ⟨r, hr, heq⟩ := Option.map_eq_some_iff.mp hmap
  cases heq
  obtain ⟨-, hp⟩ := List.mem_filter.mp (List.mem_of_getLast? hk)
  rw [hr, Option.any_some, Bool.and_eq_true_iff] at hp
  exact ⟨r, hr, rfl, of_decide_eq_true hp.1⟩

lemma reads_of_active {stationId : ℤ} (hs : Sound setup s)
    (hworker : s.workers stationId = some i) : Found setup i (s.active stationId) s := by
  intro sid session hfound hp
  obtain ⟨r, hr, rfl, hstation⟩ := row_of_active hfound
  exact ⟨⟨hstation ▸ hworker, r, hr, rfl, rfl, hp⟩, hs.last sid r hr, hs.introduced sid r hr⟩

lemma processOnce_does (hruntime : setup.hasRuntime = true) {stationId : ℤ} :
    Does setup i (fun s => s.workers stationId = some i) (processOnce setup stationId)
      fun _ _ => True := by
  refine then_does (ordinary_does stable_worker rfl) fun granted => ?_
  split
  · refine then_does (Q := Found setup i) (read_does stable_worker (fun _ => stable_found)
      (fun w s => rfl) fun s hinv hs => reads_of_active hinv hs) fun found => ?_
    exact processShowLifecycle_does hruntime
  · exact anything_does return_does

lemma workers_of_run {o : Op β} {w : World} {b : β}
    (h : limitedRun setup j o w s = some (b, u)) : u.workers = s.workers := by
  cases effect_of_run h with
  | same | started | created => rfl
  | @updated sid _ _ _ _ _ =>
    unfold State.update
    split <;> rfl

lemma work_does (hruntime : setup.hasRuntime = true) {stationId : ℤ} : ∀ {ticks : ℕ},
    Does setup i (fun s => s.workers stationId = some i) (work setup stationId ticks)
      fun _ _ => True
  | 0 => anything_does return_does
  | ticks + 1 => by
    refine then_does (Q := fun _ s => True ∧ s.workers stationId = some i)
      (Triple.tryCatch (F := fun _ s => True ∧ s.workers stationId = some i) (Others.refl i)
        (fun s hs => ?_) fun e => ?_) fun _ => ?_
    · refine (processOnce_does hruntime s hs).frame stable_worker (fun o w s b t hrun h => ?_) hs
      rwa [workers_of_run hrun]
    · exact Triple.pure (fun s t ht hs => ⟨trivial, stable_worker s t ht hs.2⟩) fun _ hs => hs
    · exact weaken_does (work_does hruntime) fun _ hs => hs.2

/-! ### The requests -/

lemma create_does {showId stationId : ℤ} :
    Does setup i (fun _ => True) (execute (.create showId stationId)) fun sid => Mine i sid := by
  intro s hs t ht hinv w a u hrun
  obtain ⟨hsound, -⟩ := sound_of_ordinary (i := i) (by rfl) hinv hrun
  obtain ⟨-, hrun⟩ := Option.ite_none_right_eq_some.mp hrun
  obtain ⟨e, rfl, rfl⟩ | heq := attempt_cases hrun
  · exact ⟨hsound, fun _ _ => trivial⟩
  · split at heq
    case isTrue =>
      cases heq
      exact ⟨hsound, fun _ _ => trivial⟩
    case isFalse =>
      cases heq
      refine ⟨hsound, fun v hv => stable_mine _ v hv ?_⟩
      exact ⟨_, List.getElem?_concat_length, rfl, rfl⟩

lemma goLive_does {showId stationId : ℤ} :
    Does setup i (fun _ => True) (goLive showId stationId) fun _ _ => True := by
  refine then_does (statement_does rfl) fun found => ?_
  split
  · exact raise_does
  · refine then_does (statement_does rfl) fun existing => ?_
    split
    · exact raise_does
    · exact then_does (statement_does rfl) fun _ => then_does create_does fun sid =>
        then_does first_does fun _ => then_does (statement_does rfl) fun _ =>
          then_does (statement_does rfl) fun _ => return_does

lemma changeStatus_does {showId : ℤ} {from_ : ShowStatus → Bool} {detail : String}
    (hfrom : from_ .preparing = false) (hstatus : status = .breakOutro ∨ status = .outroPlaying) :
    Does setup i (fun _ => True) (changeStatus showId from_ status detail) fun _ _ => True := by
  refine then_does (statement_does rfl) fun found => ?_
  split
  · exact raise_does
  · refine then_does (Q := fun active s => ∀ sid session, active = some (sid, session) →
      session.status ≠ .preparing → Begun sid s) ?_ fun active => ?_
    · refine read_does stable_true (fun a s t ht h sid session hfound hp =>
        stable_begun s t ht (h sid session hfound hp)) (fun w s => rfl) fun s _ _ => ?_
      intro sid session hfound hp
      obtain ⟨r, hr, rfl, -⟩ := row_of_active hfound
      exact ⟨r, hr, hp⟩
    · split
      · exact raise_does
      · rename_i sid session
        split
        · exact raise_does
        · split
          · rename_i hread
            refine weaken_does (then_does (request_does hstatus) fun _ => ?_) fun s hs =>
              hs sid session rfl fun hp => by simp [hp, hfrom] at hread
            exact then_does (statement_does rfl) fun _ => then_does (statement_does rfl) fun _ =>
              return_does
          · exact raise_does

lemma goBreak_does {showId : ℤ} :
    Does setup i (fun _ => True) (goBreak showId) fun _ _ => True :=
  changeStatus_does (by decide) (.inl rfl)

lemma endShow_does {showId : ℤ} :
    Does setup i (fun _ => True) (endShow showId) fun _ _ => True :=
  changeStatus_does (by decide) (.inr rfl)

lemma program_does (hruntime : setup.hasRuntime = true) :
    ∀ (c : Call), Does setup i
      (fun s => ∀ stationId ticks, c = .work stationId ticks → s.workers stationId = some i)
      (c.program setup) fun _ _ => True
  | .work stationId ticks => weaken_does (work_does hruntime) fun _ h => h stationId ticks rfl
  | .goLive _ _ => anything_does goLive_does
  | .goBreak _ => anything_does goBreak_does
  | .endShow _ => anything_does endShow_does

/-! ### Runs -/

lemma begins_eq {c : Call} (h : begins i c s = some u) :
    u.rows = s.rows ∧ u.history = s.history ∧
      (∀ stationId ticks, c = .work stationId ticks → u.workers stationId = some i) ∧
      ∀ stationId k, s.workers stationId = some k → u.workers stationId = some k := by
  cases c with
  | work stationId ticks =>
    obtain ⟨hnone, heq⟩ := Option.ite_none_right_eq_some.mp h
    cases heq
    refine ⟨rfl, rfl, fun _ _ hc => ?_, fun stationId' k hk => ?_⟩
    · cases hc
      exact Function.update_self ..
    · refine (Function.update_of_ne ?_ ..).trans hk
      rintro rfl
      rw [hnone] at hk
      cases hk
  | goLive | goBreak | endShow =>
    cases h
    exact ⟨rfl, rfl, fun _ _ hc => (by cases hc), fun _ _ hk => hk⟩

lemma sound_of_rows (hs : Sound setup s) (hrows : u.rows = s.rows)
    (hhistory : u.history = s.history)
    (hworkers : ∀ stationId k, s.workers stationId = some k → u.workers stationId = some k) :
    Sound setup u := by
  obtain ⟨rows, workers, history⟩ := u
  subst hrows hhistory
  exact ⟨hs.starts, fun j sid session status hmem => (hs.written j sid session status hmem).grows
    (fun stationId => hworkers stationId j) fun r hr => ⟨r, hr, rfl, rfl, rfl⟩, hs.last,
    hs.introduced, hs.preceded⟩

lemma kept (hruntime : setup.hasRuntime = true) :
    Kept ((system setup).limited (heardOnly setup)) (Sound setup) (fun _ _ => True)
      (Others setup) (fun _ _ _ _ => True) fun _ _ _ _ => True where
  refl := Others.refl
  trans _ _ _ _ h h' := h.trans h'
  unused _ _ _ _ _ := trivial
  operation hij _ hu hrun := others_of_run hij hu hrun
  surroundings {e} := nomatch e
  begins {i c s u} hs _ hbegins := by
    obtain ⟨hrows, hhistory, hwork, hworkers⟩ := begins_eq hbegins
    refine ⟨sound_of_rows hs hrows hhistory hworkers, fun j _ => ?_, ?_⟩
    · exact others_of_rows (fun stationId => hworkers stationId j) (fun _ _ hr => hrows ▸ hr)
        (.inl hhistory)
    · have h : Does setup i
          (fun s => ∀ stationId ticks, c = .work stationId ticks → s.workers stationId = some i)
          (c.program setup) fun _ _ => True := program_does hruntime c
      exact h u hwork

/-- A step adds to the history. -/
lemma history_of_step {p q : Pool Op Raised (Option ℕ) Call State} {e : Event Call World Empty}
    (h : step setup p e = some q) :
    ∃ newer, q.shared.history = newer ++ p.shared.history := by
  cases e with
  | start c =>
    obtain ⟨u, hu, rfl⟩ := Option.map_eq_some_iff.mp h
    exact ⟨[], (begins_eq hu).2.1⟩
  | change e => exact nomatch e
  | turn i w =>
    obtain ⟨t, -, hturn⟩ := Option.bind_eq_some_iff.mp h
    obtain ⟨r, hrest, rfl⟩ := Option.map_eq_some_iff.mp hturn
    cases hprog : t.rest with
    | pure a => simp [hprog, Prog.turn] at hrest
    | raise e => simp [hprog, Prog.turn] at hrest
    | op o k =>
      rw [hprog] at hrest
      obtain ⟨⟨b, u⟩, hop, rfl⟩ := Option.map_eq_some_iff.mp hrest
      have hop' : ((system setup).limited fun _ _ _ _ => true).run i o w p.shared =
          some (b, u) := hop
      cases effect_of_run hop' with
      | same => exact ⟨[], rfl⟩
      | started => exact ⟨[_], rfl⟩
      | created => exact ⟨[], rfl⟩
      | @updated sid read status w hw _ =>
        cases hr : p.shared.rows[sid]? with
        | none => exact ⟨[], by simp [State.update, hr]⟩
        | some r => exact ⟨[_], by rw [update_of_row hr]; rfl⟩

lemma history_of_exec {p q : Pool Op Raised (Option ℕ) Call State}
    {es : List (Event Call World Empty)} (he : exec (step setup) p es = some q) :
    ∃ newer, q.shared.history = newer ++ p.shared.history := by
  refine inv_of_exec_all (P := fun t : Pool Op Raised (Option ℕ) Call State =>
    ∃ newer, t.shared.history = newer ++ p.shared.history) ?_ ⟨[], rfl⟩ he
  rintro t e t' ⟨newer, hnewer⟩ ht'
  obtain ⟨newer', hnewer'⟩ := history_of_step ht'
  exact ⟨newer' ++ newer, by rw [hnewer', hnewer, List.append_assoc]⟩

/-- Nobody has started an outro, so nothing was heard where a tick finds that one is over. -/
lemma not_heard (hs : Sound setup s) (hstatus : status = .onBreak ∨ status = .ended) :
    ¬ Heard setup session sid s.history status := by
  intro hheard
  have hsub : ∀ statuses, since sid statuses s.history ⊆ s.history := fun _ =>
    List.takeWhile_subset _
  obtain rfl | rfl := hstatus <;>
    · obtain ⟨path, -, hmem⟩ := hheard
      simpa using hs.starts _ _ _ (hsub _ hmem)

/-- Where a tick finds that an outro is over, the session enters a status unheard. -/
lemma not_preceded_of_over {p q : Pool Op Raised (Option ℕ) Call State}
    {e : Event Call World Empty} (hs : Sound setup p.shared) (hq : step setup p e = some q)
    (hover : ¬ permits (neverOver setup) p e = true) : ¬ Preceded setup q.shared.history := by
  cases e with
  | start c => simp [permits] at hover
  | change e => exact e.elim
  | turn i w =>
    obtain ⟨t, ht, hturn⟩ := Option.bind_eq_some_iff.mp hq
    obtain ⟨r, hrest, rfl⟩ := Option.map_eq_some_iff.mp hturn
    rw [permits, ht, Option.all_some] at hover
    cases hprog : t.rest with
    | pure a => simp [hprog, Prog.turn] at hrest
    | raise e => simp [hprog, Prog.turn] at hrest
    | op o k =>
      rw [hprog] at hrest hover
      obtain ⟨⟨b, u⟩, hop, rfl⟩ := Option.map_eq_some_iff.mp hrest
      cases o with
      | updateStatus sid read status =>
        have hunheard : ∀ r, p.shared.rows[sid]? = some r → configured setup r.session →
            status = .onBreak ∨ status = .ended →
              ¬ Preceded setup (p.shared.update i sid status).history := by
          intro r hr hc hstatus hp
          rw [update_of_row hr] at hp
          exact not_heard hs hstatus (hp.1 hc)
        cases w with
        | raises e => simp [neverOver] at hover
        | yes | no =>
          cases hop
          cases status <;> simp [neverOver] at hover <;>
            · obtain ⟨r, hr, hc⟩ := (Option.any_eq_true ..).mp hover
              exact hunheard r hr hc (by simp)
      | ask | elsewhere | getActiveForStation | getSession | getShow | startStation | create =>
        cases w <;> simp [neverOver] at hover

/-- From any state of a run on. -/
lemma preceded_iff_of_holds (hruntime : setup.hasRuntime = true)
    {p q : Pool Op Raised (Option ℕ) Call State} {es : List (Event Call World Empty)}
    (hp : Holds ((system setup).limited (heardOnly setup)) (Sound setup) (fun _ _ => True)
      (Others setup) (fun _ _ _ _ => True) (fun _ _ _ _ => True) p)
    (hstarts : Meets (step setup) (fun p e => permits startsSucceed p e = true) p es)
    (he : exec (step setup) p es = some q) : Preceded setup q.shared.history ↔
      Meets (step setup) (fun p e => permits (neverOver setup) p e = true) p es := by
  induction es generalizing p with
  | nil =>
    obtain rfl : p = q := by simpa using he
    exact iff_of_true hp.shared.preceded trivial
  | cons e es ih =>
    obtain ⟨p', hp', hrest⟩ := exec_cons_eq_some.mp he
    by_cases hover : permits (neverOver setup) p e = true
    · have hboth : permits (heardOnly setup) p e = true := permits_and hstarts.1 hover
      have hholds := hp.step (kept hruntime) e ((step_limited hboth).trans hp')
      refine (ih hholds (hstarts.2 p' hp') hrest).trans ⟨fun hm => ⟨hover, fun t ht => ?_⟩,
        fun hm => hm.2 p' hp'⟩
      obtain rfl : p' = t := Option.some.inj (hp'.symm.trans ht)
      exact hm
    · refine iff_of_false (fun hq => ?_) fun hm => hover hm.1
      obtain ⟨newer, hnewer⟩ := history_of_exec hrest
      rw [hnewer] at hq
      exact not_preceded_of_over hp.shared hp' hover (preceded_of_append hq)

/-- **The files of a show are heard before the statuses that follow them**, in the runs in which
no tick finds that an outro, or a break outro, is over, and in no others. -/
theorem preceded_iff (setup : Setup) (hruntime : setup.hasRuntime = true)
    {es : List (Event Call World Empty)} {q : Pool Op Raised (Option ℕ) Call State}
    (hstarts : Meets (step setup) (fun p e => permits startsSucceed p e = true) initial es)
    (he : exec (step setup) initial es = some q) : Preceded setup q.shared.history ↔
      Meets (step setup) (fun p e => permits (neverOver setup) p e = true) initial es :=
  preceded_iff_of_holds hruntime (holds_empty ⟨by simp [State.start], by simp [State.start],
    by simp [State.start], by simp [State.start], trivial⟩ fun _ => trivial) hstarts he

/-! ### A show with files -/

/-- A station with a show whose four files exist. -/
def fullSetup : Setup :=
  ⟨(∅ : Table Show).insert 1 ⟨1, fun _ => some "show.mp3"⟩, id, fun _ => true, true⟩

/-- So many turns of a thread, each answered with a yes. -/
def turns (i n : ℕ) : List (Event Call World Empty) := List.replicate n (.turn i .yes)

/-- The show goes live after its intro. -/
def introduced : List (Event Call World Empty) :=
  [.start (.goLive 1 1)] ++ turns 0 7 ++ [.start (.work 1 3)] ++
    turns 1 2 ++ [.turn 1 .no] ++ turns 1 6 ++ turns 1 2 ++ [.turn 1 .no] ++ turns 1 4

theorem preceded_iff_introduced : ∃ q, exec (step fullSetup) initial introduced = some q ∧
    statusOf q.shared 0 = some .live ∧ (Preceded fullSetup q.shared.history ↔
      Meets (step fullSetup) (fun p e => permits (neverOver fullSetup) p e = true) initial
        introduced) := by
  have hstarts : Meets (step fullSetup) (fun p e => permits startsSucceed p e = true) initial
      introduced := by decide +kernel
  have hrun : ((exec (step fullSetup) initial introduced).any fun q =>
      statusOf q.shared 0 = some .live) = true := by decide +kernel
  obtain ⟨q, hq, hlive⟩ := (Option.any_eq_true ..).mp hrun
  exact ⟨q, hq, of_decide_eq_true hlive, preceded_iff fullSetup rfl hstarts hq⟩

/-- Then it goes to a break, and the next tick finds that nothing is playing. -/
def toBreak : List (Event Call World Empty) :=
  introduced ++ [.start (.goBreak 1)] ++ turns 2 5 ++ turns 1 2 ++ [.turn 1 .no] ++ turns 1 4

theorem toBreak_unheard : ¬ ∀ (setup : Setup) (es : List (Event Call World Empty))
    (q : Pool Op Raised (Option ℕ) Call State), setup.hasRuntime = true →
    Meets (step setup) (fun p e => permits startsSucceed p e = true) initial es →
    exec (step setup) initial es = some q → Preceded setup q.shared.history := by
  intro h
  have hstarts : Meets (step fullSetup) (fun p e => permits startsSucceed p e = true) initial
      toBreak := by decide +kernel
  have hrun : ((exec (step fullSetup) initial toBreak).any fun q =>
      decide (q.shared.history.head? = some (.entered 1 0 ⟨1, 1, .breakOutro⟩ .onBreak) ∧
        ∀ e ∈ q.shared.history, e ≠ .started 1 .breakOutro "show.mp3")) = true := by
    decide +kernel
  obtain ⟨q, hq, hhead⟩ := (Option.any_eq_true ..).mp hrun
  obtain ⟨hhead, hnone⟩ := of_decide_eq_true hhead
  have hp := h fullSetup toBreak q rfl hstarts hq
  obtain ⟨history, hhistory⟩ := List.head?_eq_some_iff.mp hhead
  rw [hhistory] at hp hnone
  obtain ⟨path, hpath, hmem⟩ := hp.1 (by decide +kernel)
  obtain rfl : path = "show.mp3" := by
    have hfile : showPath fullSetup.shows[(1 : ℤ)]? .breakOutro = some "show.mp3" := by
      decide +kernel
    exact Option.some.inj (hpath.symm.trans hfile)
  exact hnone _ (List.mem_cons_of_mem _ (List.takeWhile_subset _ hmem)) rfl

end OnAir.AudioOrder
