import OnAir.ShowLifecycle

/-!
The files of a show, and the statuses its session enters after them.

The worker starts the intro and the break intro before it writes the status that says so, and a
session is live only after them. Nobody starts the outros: a session with files of its own goes to
its break, and ends, as soon as a tick finds that nothing is playing.
-/

namespace OnAir.ShowAudio

open PlayoutTables Resumption Runs ShowLifecycle ThreadPool

/-! ### What is to be heard -/

variable (setup : Setup)

/-- The four files of the show exist. -/
def configured (session : ShowSession) : Bool :=
  [AudioFile.intro, .breakOutro, .breakIntro, .outro].all fun file =>
    (showPath setup.shows[session.showId]? file).any fun path =>
      setup.resolveRuntimeMediaPath path ≠ "" && setup.isFile (setup.resolveRuntimeMediaPath path)

/-- The entry is of the session, and of one of the statuses. -/
def enters (sid : ℕ) (statuses : List ShowStatus) : Entry → Option ShowStatus
  | .entered _ sid' _ status => if sid' = sid ∧ status ∈ statuses then some status else none
  | .started _ _ _ => none

/-- What has happened since the session entered one of the statuses. -/
def since (sid : ℕ) (statuses : List ShowStatus) (history : List Entry) : List Entry :=
  history.takeWhile fun e => (enters sid statuses e).isNone

/-- The one of the statuses that the session has entered last. -/
def lastOf (sid : ℕ) (statuses : List ShowStatus) (history : List Entry) : Option ShowStatus :=
  history.findSome? (enters sid statuses)

/-- The file of the show of the session has been started. -/
def Played (session : ShowSession) (file : AudioFile) (entries : List Entry) : Prop :=
  ∃ path, showPath setup.shows[session.showId]? file = some path ∧
    .started session.stationId file (setup.resolveRuntimeMediaPath path) ∈ entries

/-- The statuses from which a session goes live. -/
def beforeLive : List ShowStatus := [.goingLive, .onBreak]

/-- The statuses from which a session goes to its outro. -/
def beforeOutro : List ShowStatus := [.live, .breakOutro, .onBreak, .breakIntro]

/-- The file between `beforeLive` and `live`. -/
def fileBefore : ShowStatus → AudioFile
  | .onBreak => .breakIntro
  | _ => .intro

/-- The intro, or the break intro, has been started since the session was going live, or on a
break. -/
def Introduced (session : ShowSession) (sid : ℕ) (history : List Entry) : Prop :=
  ∀ status, lastOf sid beforeLive history = some status →
    Played setup session (fileBefore status) (since sid beforeLive history)

/-- What has been heard when the session enters the status. -/
def Heard (session : ShowSession) (sid : ℕ) (history : List Entry) : ShowStatus → Prop
  | .live => Introduced setup session sid history
  | .onBreak => Played setup session .breakOutro (since sid [.live] history)
  | .ended => Played setup session .outro (since sid beforeOutro history)
  | _ => True

/-- Whenever a session whose files exist has entered a status, the file before it was heard. -/
def Preceded : List Entry → Prop
  | [] => True
  | .started _ _ _ :: history => Preceded history
  | .entered _ sid session status :: history =>
    (configured setup session → Heard setup session sid history status) ∧ Preceded history

/-- The runtime starts what it is told to start. -/
def startsSucceed : Condition Op World State := fun _ o w _ =>
  match o, w with
  | .startStation _ _ _, .raises _ => false
  | _, _ => true

/-- No tick finds that the outro, or the break outro, of a session whose files exist is over. -/
def neverOver : Condition Op World State := fun _ o w s =>
  match o, w with
  | _, .raises _ => true
  | .updateStatus sid _ .onBreak, _ => !s.rows[sid]?.any fun r => configured setup r.session
  | .updateStatus sid _ .ended, _ => !s.rows[sid]?.any fun r => configured setup r.session
  | _, _ => true

/-! ### Histories -/

variable {setup} {sid : ℕ} {statuses : List ShowStatus} {session : ShowSession} {e : Entry}
  {h h' : List Entry} {file : AudioFile}

lemma since_cons (he : enters sid statuses e = none) :
    since sid statuses (e :: h) = e :: since sid statuses h := by
  simp [since, he]

lemma lastOf_cons (he : enters sid statuses e = none) :
    lastOf sid statuses (e :: h) = lastOf sid statuses h := by
  simp [lastOf, he]

lemma introduced_cons (he : enters sid beforeLive e = none)
    (hi : Introduced setup session sid h) : Introduced setup session sid (e :: h) := by
  intro status hstatus
  rw [lastOf_cons he] at hstatus
  obtain ⟨path, hpath, hmem⟩ := hi status hstatus
  exact ⟨path, hpath, by rw [since_cons he]; exact List.mem_cons_of_mem _ hmem⟩

lemma introduced_started {status : ShowStatus} {path : String}
    (hlast : lastOf sid beforeLive h = some status)
    (hpath : showPath setup.shows[session.showId]? (fileBefore status) = some path) :
    Introduced setup session sid (.started session.stationId (fileBefore status)
      (setup.resolveRuntimeMediaPath path) :: h) := by
  intro status' hstatus'
  rw [lastOf_cons rfl, hlast] at hstatus'
  cases hstatus'
  exact ⟨path, hpath, by rw [since_cons rfl]; exact List.mem_cons_self⟩

lemma preceded_of_append (hp : Preceded setup (h' ++ h)) : Preceded setup h := by
  induction h' with
  | nil => exact hp
  | cons e h' ih =>
    cases e with
    | started => exact ih hp
    | entered => exact ih hp.2

lemma introduced_congr {session' : ShowSession} (hshow : session'.showId = session.showId)
    (hstation : session'.stationId = session.stationId) :
    Introduced setup session' sid h ↔ Introduced setup session sid h := by
  unfold Introduced Played
  rw [hshow, hstation]

lemma configured_congr {session' : ShowSession} (hshow : session'.showId = session.showId) :
    configured setup session' = configured setup session := by
  unfold configured
  rw [hshow]

lemma of_configured (hc : configured setup session) (file : AudioFile) :
    ∃ path, showPath setup.shows[session.showId]? file = some path ∧
      setup.resolveRuntimeMediaPath path ≠ "" ∧
      setup.isFile (setup.resolveRuntimeMediaPath path) := by
  have hfile := List.all_eq_true.mp hc file (by cases file <;> simp)
  obtain ⟨path, hpath, hboth⟩ := (Option.any_eq_true ..).mp hfile
  obtain ⟨hne, hisFile⟩ := Bool.and_eq_true_iff.mp hboth
  exact ⟨path, hpath, of_decide_eq_true hne, hisFile⟩

/-! ### What is kept -/

variable {i j : ℕ} {s t u : State} {α β : Type} {r : Row} {status : ShowStatus}

/-- The statuses that only the worker of the station writes. -/
def ofWorker : List ShowStatus := [.introPlaying, .live, .onBreak, .breakIntro, .ended]

/-- Who has written the status: the one who has created the session, for its first status, and the
worker of the station for those that are the worker's. -/
structure Written (s : State) (i sid : ℕ) (session : ShowSession) (status : ShowStatus) : Prop where
  first : session.status = .preparing ↔ status = .goingLive
  next : status ≠ .preparing
  creator : status = .goingLive → ∃ r, s.rows[sid]? = some r ∧ r.creator = i
  worker : status ∈ ofWorker → s.workers session.stationId = some i

variable (setup) in
/-- The files that are started come first, and a session is found where its history has left it. -/
structure Sound (s : State) : Prop where
  starts : ∀ stationId file path, .started stationId file path ∈ s.history →
    file = .intro ∨ file = .breakIntro
  written : ∀ i sid session status, .entered i sid session status ∈ s.history →
    Written s i sid session status
  last : ∀ sid r, s.rows[sid]? = some r → r.session.status ∈ beforeLive →
    lastOf sid beforeLive s.history = some r.session.status
  introduced : ∀ sid r, s.rows[sid]? = some r → configured setup r.session →
    r.session.status = .introPlaying ∨ r.session.status = .breakIntro →
      Introduced setup r.session sid s.history
  preceded : Preceded setup s.history

/-- The same session. -/
structure Same (r r' : Row) : Prop where
  showId : r'.session.showId = r.session.showId
  stationId : r'.session.stationId = r.session.stationId
  creator : r'.creator = r.creator

lemma Same.trans {r r' r'' : Row} (h : Same r r') (h' : Same r' r'') : Same r r'' :=
  ⟨h'.showId.trans h.showId, h'.stationId.trans h.stationId, h'.creator.trans h.creator⟩

variable (setup) in
/-- What the others do while the thread `i` waits. -/
structure Others (i : ℕ) (s t : State) : Prop where
  workers : ∀ stationId, s.workers stationId = some i → t.workers stationId = some i
  rows : ∀ (sid : ℕ) (r : Row), s.rows[sid]? = some r → ∃ r', t.rows[sid]? = some r' ∧ Same r r' ∧
    (r.session.status = .preparing → r.creator = i → r'.session.status = .preparing) ∧
      (r.session.status ≠ .preparing → r'.session.status ≠ .preparing)
  history : ∀ (sid : ℕ) (r : Row), s.rows[sid]? = some r → r.session.status ≠ .preparing →
    s.workers r.session.stationId = some i →
      lastOf sid beforeLive t.history = lastOf sid beforeLive s.history ∧
        ∀ session, Introduced setup session sid s.history → Introduced setup session sid t.history

lemma Others.refl (i : ℕ) (s : State) : Others setup i s s where
  workers _ h := h
  rows _ r hr := ⟨r, hr, ⟨rfl, rfl, rfl⟩, fun h _ => h, fun h => h⟩
  history _ _ _ _ _ := ⟨rfl, fun _ h => h⟩

lemma Others.trans (h : Others setup i s t) (h' : Others setup i t u) : Others setup i s u where
  workers stationId hw := h'.workers stationId (h.workers stationId hw)
  rows sid r hr := by
    obtain ⟨r', hr', hsame, hfirst, hnext⟩ := h.rows sid r hr
    obtain ⟨r'', hr'', hsame', hfirst', hnext'⟩ := h'.rows sid r' hr'
    exact ⟨r'', hr'', hsame.trans hsame', fun hp hc =>
      hfirst' (hfirst hp hc) (hsame.creator.trans hc), fun hp => hnext' (hnext hp)⟩
  history sid r hr hp hw := by
    obtain ⟨r', hr', hsame, -, hnext⟩ := h.rows sid r hr
    obtain ⟨hlast, hin⟩ := h.history sid r hr hp hw
    obtain ⟨hlast', hin'⟩ := h'.history sid r' hr' (hnext hp)
      (hsame.stationId ▸ h.workers _ hw)
    exact ⟨hlast'.trans hlast, fun session hs => hin' session (hin session hs)⟩

/-- Rows and workers stay as they are, and no session enters another status. -/
lemma others_of_rows (hworkers : ∀ stationId, s.workers stationId = some i →
      t.workers stationId = some i)
    (hrows : ∀ (sid : ℕ) (r : Row), s.rows[sid]? = some r → t.rows[sid]? = some r)
    (hhistory : t.history = s.history ∨
      ∃ stationId file path, t.history = .started stationId file path :: s.history) :
    Others setup i s t where
  workers := hworkers
  rows sid r hr := ⟨r, hrows sid r hr, ⟨rfl, rfl, rfl⟩, fun h _ => h, fun h => h⟩
  history sid r hr hp hw := by
    obtain heq | ⟨stationId, file, path, heq⟩ := hhistory
    · rw [heq]
      exact ⟨rfl, fun _ h => h⟩
    · rw [heq]
      exact ⟨lastOf_cons rfl, fun _ h => introduced_cons rfl h⟩

lemma Written.grows {session : ShowSession} (h : Written s i sid session status)
    (hworkers : ∀ stationId, s.workers stationId = some i → t.workers stationId = some i)
    (hrows : ∀ r, s.rows[sid]? = some r → ∃ r', t.rows[sid]? = some r' ∧ Same r r') :
    Written t i sid session status where
  first := h.first
  next := h.next
  creator hs := by
    obtain ⟨r, hr, hc⟩ := h.creator hs
    obtain ⟨r', hr', hsame⟩ := hrows r hr
    exact ⟨r', hr', hsame.creator.trans hc⟩
  worker hs := hworkers _ (h.worker hs)

lemma rows_update (hr : s.rows[sid]? = some r) (sid' : ℕ) :
    (s.update i sid status).rows[sid']? =
      if sid' = sid then some (r.withStatus status) else s.rows[sid']? := by
  obtain ⟨hlt, -⟩ := List.getElem?_eq_some_iff.mp hr
  rw [update_of_row hr, List.getElem?_set]
  split_ifs with h h' h'
  · rfl
  · exact absurd h.symm h'
  · exact absurd h'.symm h
  · rfl

lemma enters_other {sid' : ℕ} (h : sid ≠ sid') :
    enters sid statuses (.entered i sid' session status) = none := if_neg fun h' => h h'.1.symm

lemma enters_outside (h : status ∉ statuses) :
    enters sid statuses (.entered i sid session status) = none := if_neg fun h' => h h'.2

/-- **A status is written.** The rules are kept if its writer may write it, and what comes before
it has been heard. -/
theorem sound_update (hs : Sound setup s) (hr : s.rows[sid]? = some r)
    (hwritten : Written s i sid r.session status)
    (hin : configured setup r.session → status = .introPlaying ∨ status = .breakIntro →
      Introduced setup r.session sid s.history)
    (hheard : configured setup r.session → Heard setup r.session sid s.history status) :
    Sound setup (s.update i sid status) := by
  have hhistory : (s.update i sid status).history = .entered i sid r.session status :: s.history :=
    by rw [update_of_row hr]
  have hworkers : (s.update i sid status).workers = s.workers := by rw [update_of_row hr]
  have hrows : ∀ (sid' : ℕ) (r' : Row), s.rows[sid']? = some r' →
      ∃ r'', (s.update i sid status).rows[sid']? = some r'' ∧ Same r' r'' := by
    intro sid' r' hr'
    rw [rows_update hr]
    split_ifs with h
    · rw [h, hr] at hr'
      cases hr'
      exact ⟨_, rfl, rfl, rfl, rfl⟩
    · exact ⟨r', hr', rfl, rfl, rfl⟩
  refine ⟨fun stationId file path hmem => ?_, fun j sid' session status' hmem => ?_,
    fun sid' r' hr' hstatus => ?_, fun sid' r' hr' hc hstatus => ?_, ?_⟩
  · rw [hhistory] at hmem
    exact hs.starts stationId file path ((List.mem_cons.mp hmem).resolve_left (by simp))
  · have hgrow : ∀ {j sid' session status'}, Written s j sid' session status' →
        Written (s.update i sid status) j sid' session status' := fun hw =>
      hw.grows (fun _ hworker => by rwa [hworkers]) (hrows _)
    rw [hhistory, List.mem_cons] at hmem
    obtain heq | hmem := hmem
    · cases heq
      exact hgrow hwritten
    · exact hgrow (hs.written j sid' session status' hmem)
  · rw [rows_update hr] at hr'
    rw [hhistory]
    split_ifs at hr' with h
    · cases hr'
      subst h
      have henters : enters sid' beforeLive (.entered i sid' r.session status) = some status :=
        if_pos ⟨rfl, hstatus⟩
      simp [lastOf, henters, Row.withStatus]
    · rw [lastOf_cons (enters_other h)]
      exact hs.last sid' r' hr' hstatus
  · rw [rows_update hr] at hr'
    rw [hhistory]
    split_ifs at hr' with h
    · cases hr'
      subst h
      refine introduced_cons (enters_outside ?_) ((introduced_congr rfl rfl).mpr (hin hc hstatus))
      obtain hst | hst := hstatus <;>
        · change status = _ at hst
          subst hst
          decide
    · exact introduced_cons (enters_other h) (hs.introduced sid' r' hr' hc hstatus)
  · rw [hhistory]
    exact ⟨hheard, hs.preceded⟩

/-! ### What a statement keeps -/

variable (setup) in
/-- The runs that are looked at. -/
def heardOnly : Condition Op World State := fun i o w s =>
  startsSucceed i o w s && neverOver setup i o w s

variable (setup) in
abbrev limitedRun (i : ℕ) (o : Op β) (w : World) (s : State) : Option (β × State) :=
  ((system setup).limited (heardOnly setup)).run i o w s

/-- A statement that writes no status, and starts nothing but what comes first. -/
def ordinary : Op β → Bool
  | .updateStatus _ _ _ => false
  | .startStation _ file _ => file = .intro || file = .breakIntro
  | _ => true

lemma rows_create {showId stationId : ℤ} (hr : s.rows[sid]? = some r) :
    (s.create i showId stationId).rows[sid]? = some r :=
  (List.getElem?_append_left (List.getElem?_eq_some_iff.mp hr).1).trans hr

lemma sound_start {stationId : ℤ} {path : String} (hs : Sound setup s)
    (hfile : file = .intro ∨ file = .breakIntro) :
    Sound setup (s.startStation stationId file path) where
  starts stationId' file' path' hmem := by
    obtain heq | hmem := List.mem_cons.mp hmem
    · cases heq
      exact hfile
    · exact hs.starts stationId' file' path' hmem
  written j sid' session status' hmem := by
    obtain ⟨hfirst, hnext, hcreator, hworker⟩ :=
      hs.written j sid' session status' ((List.mem_cons.mp hmem).resolve_left (by simp))
    exact ⟨hfirst, hnext, hcreator, hworker⟩
  last sid' r' hr' hstatus := (lastOf_cons rfl).trans (hs.last sid' r' hr' hstatus)
  introduced sid' r' hr' hc hstatus := introduced_cons rfl (hs.introduced sid' r' hr' hc hstatus)
  preceded := hs.preceded

lemma sound_create {showId stationId : ℤ} (hs : Sound setup s) :
    Sound setup (s.create i showId stationId) := by
  have hrows : ∀ (sid : ℕ) (r : Row), (s.create i showId stationId).rows[sid]? = some r →
      s.rows[sid]? = some r ∨ r.session.status = .preparing := by
    intro sid r hr
    obtain hlt | hle := Nat.lt_or_ge sid s.rows.length
    · exact .inl ((List.getElem?_append_left hlt).symm.trans hr)
    · rw [State.create, List.getElem?_append_right hle, List.getElem?_singleton] at hr
      split at hr <;> cases hr
      exact .inr rfl
  refine ⟨hs.starts, fun j sid' session status' hmem => ?_, fun sid' r' hr' hstatus => ?_,
    fun sid' r' hr' hc hstatus => ?_, hs.preceded⟩
  · exact (hs.written j sid' session status' hmem).grows (fun _ h => h) fun r hr =>
      ⟨r, rows_create hr, rfl, rfl, rfl⟩
  · obtain hold | hnew := hrows sid' r' hr'
    · exact hs.last sid' r' hold hstatus
    · rw [hnew] at hstatus
      exact absurd hstatus (by decide)
  · obtain hold | hnew := hrows sid' r' hr'
    · exact hs.introduced sid' r' hold hc hstatus
    · simp [hnew] at hstatus

/-- **An ordinary statement** keeps the rules, and its own thread finds what the others would. -/
theorem sound_of_ordinary {o : Op β} {w : World} {b : β} (ho : ordinary o) (hs : Sound setup s)
    (h : limitedRun setup j o w s = some (b, u)) : Sound setup u ∧ Others setup i s u := by
  have h' : ((system setup).limited fun i o w s => heardOnly setup i o w s && ordinary o).run j o
      w s = some (b, u) := by
    obtain ⟨hallows, hrun⟩ := Option.ite_none_right_eq_some.mp h
    exact (if_pos (by simp [hallows, ho])).trans hrun
  cases effect_of_run h' with
  | same => exact ⟨hs, .refl i s⟩
  | started hallows =>
    have hfile := (Bool.and_eq_true_iff.mp hallows).2
    exact ⟨sound_start hs (by simpa [ordinary] using hfile),
      others_of_rows (fun _ h => h) (fun _ _ h => h) (.inr ⟨_, _, _, rfl⟩)⟩
  | created =>
    exact ⟨sound_create hs,
      others_of_rows (fun _ h => h) (fun _ _ hr => rows_create hr) (.inl rfl)⟩
  | updated hw hallows => exact absurd (Bool.and_eq_true_iff.mp hallows).2 (by simp [ordinary])

lemma others_update (hij : i ≠ j) (hr : s.rows[sid]? = some r)
    (hwritten : Written (s.update j sid status) j sid r.session status) :
    Others setup i s (s.update j sid status) := by
  have hworkers : (s.update j sid status).workers = s.workers := by rw [update_of_row hr]
  refine ⟨fun _ h => by rwa [hworkers], fun sid' r' hr' => ?_, fun sid' r' hr' hp hw => ?_⟩
  · rw [rows_update hr]
    split_ifs with h
    · rw [h, hr] at hr'
      cases hr'
      refine ⟨_, rfl, ⟨rfl, rfl, rfl⟩, fun hp hc => ?_, fun _ => hwritten.next⟩
      obtain ⟨r', hr', hc'⟩ := hwritten.creator (hwritten.first.mp hp)
      rw [rows_update hr, if_pos rfl] at hr'
      cases hr'
      exact absurd (hc.symm.trans hc') hij
    · exact ⟨r', hr', ⟨rfl, rfl, rfl⟩, fun h _ => h, fun h => h⟩
  · have henters : enters sid' beforeLive (.entered j sid r.session status) = none := by
      obtain rfl | hne := eq_or_ne sid' sid
      · rw [hr] at hr'
        cases hr'
        refine enters_outside fun hmem => ?_
        obtain rfl | rfl : status = .goingLive ∨ status = .onBreak := by
          simpa [beforeLive] using hmem
        · exact hp (hwritten.first.mpr rfl)
        · have hj := hwritten.worker (by decide)
          rw [hworkers, hw] at hj
          exact hij (Option.some.inj hj)
      · exact enters_other hne
    rw [update_of_row hr]
    exact ⟨lastOf_cons henters, fun _ h => introduced_cons henters h⟩

/-- What one statement does is for the others no more than they expect. -/
lemma others_of_run {o : Op β} {w : World} {b : β} (hij : i ≠ j) (hu : Sound setup u)
    (h : limitedRun setup j o w s = some (b, u)) : Others setup i s u := by
  cases effect_of_run h with
  | same => exact .refl i s
  | started => exact others_of_rows (fun _ h => h) (fun _ _ h => h) (.inr ⟨_, _, _, rfl⟩)
  | created => exact others_of_rows (fun _ h => h) (fun _ _ hr => rows_create hr) (.inl rfl)
  | @updated sid read status w hw hallows =>
    cases hr : s.rows[sid]? with
    | none =>
      rw [State.update, hr]
      exact .refl i s
    | some r =>
      refine others_update hij hr (hu.written j sid r.session status ?_)
      rw [update_of_row hr]
      exact List.mem_cons_self

end OnAir.ShowAudio
