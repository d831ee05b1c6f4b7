import OnAir.PlayoutTables
import OnAir.ThreadPool

/-!
The sessions of shows: the worker of each station, which takes a session from one status to the
next, and the requests that start a show, send it to a break and end it.

Worker and requests read the status of a session, decide, and write the next one in a statement
of its own. The history records what is written and every file of a show that the runtime starts.
-/

namespace OnAir.ShowLifecycle

open PlayoutTables Resumption ThreadPool

/-! ### Rows -/

/-- The files of a show. -/
inductive AudioFile
  | intro
  | breakOutro
  | breakIntro
  | outro
  deriving DecidableEq, Repr

structure Show where
  stationId : ℤ
  path : AudioFile → Option String

/-- What does not change while the program runs: the shows, the files, and whether there is a
runtime. -/
structure Setup where
  shows : Table Show
  /-- `resolve_runtime_media_path` -/
  resolveRuntimeMediaPath : String → String
  isFile : String → Bool
  hasRuntime : Bool

/-- A session, with the thread that has created it. -/
structure Row where
  session : ShowSession
  creator : ℕ

inductive Entry
  /-- A thread has written the status of a session, which was found as it is recorded. -/
  | entered (thread sid : ℕ) (session : ShowSession) (status : ShowStatus)
  /-- The runtime of a station has started a file. -/
  | started (stationId : ℤ) (file : AudioFile) (path : String)
  deriving DecidableEq, Repr

/-- The id of a session is its place among the rows; the newest entry of the history comes
first. -/
structure State where
  rows : List Row
  workers : ℤ → Option ℕ
  history : List Entry

def State.start : State := ⟨[], fun _ => none, []⟩

/-- The latest session of the station that has not ended. -/
def State.active (s : State) (stationId : ℤ) : Option (ℕ × ShowSession) :=
  (((List.range s.rows.length).filter fun sid => s.rows[sid]?.any fun r =>
    r.session.stationId = stationId && r.session.status ≠ .ended).getLast?).bind fun sid =>
      s.rows[sid]?.map fun r => (sid, r.session)

def Row.withStatus (r : Row) (status : ShowStatus) : Row :=
  { r with session := { r.session with status := status } }

/-- `UPDATE show_sessions SET status = ? WHERE id = ?`. -/
def State.update (s : State) (i sid : ℕ) (status : ShowStatus) : State :=
  match s.rows[sid]? with
  | none => s
  | some r => { s with
      rows := s.rows.set sid (r.withStatus status)
      history := .entered i sid r.session status :: s.history }

/-- `INSERT INTO show_sessions`, with the status `preparing`. -/
def State.create (s : State) (i : ℕ) (showId stationId : ℤ) : State :=
  { s with rows := s.rows ++ [⟨⟨showId, stationId, .preparing⟩, i⟩] }

def State.startStation (s : State) (stationId : ℤ) (file : AudioFile) (path : String) : State :=
  { s with history := .started stationId file path :: s.history }

/-! ### Statements -/

inductive Raised
  | http (status : ℕ) (detail : String)
  | database
  | runtime
  deriving DecidableEq, Repr

abbrev Answer := Except Raised

/-- What worker and requests do with the surroundings. -/
inductive Op : Type → Type
  /-- whether the lease is granted, an item is playing, the runtime plays, an ad is due -/
  | ask : Op (Answer Bool)
  /-- a statement on other tables -/
  | elsewhere : Op (Answer Unit)
  | getActiveForStation (stationId : ℤ) : Op (Answer (Option (ℕ × ShowSession)))
  | getSession (sid : ℕ) : Op (Answer (Option ShowSession))
  | getShow (showId : ℤ) : Op (Answer (Option Show))
  | startStation (stationId : ℤ) (file : AudioFile) (path : String) : Op (Answer Unit)
  | create (showId stationId : ℤ) : Op (Answer ℕ)
  /-- the caller has read the status `read` -/
  | updateStatus (sid : ℕ) (read status : ShowStatus) : Op (Answer Unit)

abbrev Program := Prog Op Raised

def execute {α : Type} (o : Op (Answer α)) : Program α := do
  match ← perform o with
  | .ok a => pure a
  | .error e => .raise e

/-! ### The worker -/

section Worker

variable (setup : Setup)

def startRuntime (stationId : ℤ) (file : AudioFile) (path : String) : Program Unit :=
  if setup.hasRuntime then execute (.startStation stationId file path) else pure ()

/-- `_play_show_audio`. -/
def playShowAudio (stationId : ℤ) (file : AudioFile) (path : String) : Program Bool :=
  let resolved := setup.resolveRuntimeMediaPath path
  if resolved = "" || !setup.isFile resolved then return false
  else
    Prog.tryCatch (do
      startRuntime setup stationId file resolved
      execute .elsewhere
      return true) fun _ => return false

/-- `_update_show_session_status`; what the log raises is swallowed. -/
def updateShowSessionStatus (sid : ℕ) (read status : ShowStatus) : Program Unit := do
  let _ ← execute (.getSession sid)
  execute (.updateStatus sid read status)
  let _ ← execute (.getSession sid)

/-- A path that a show names. -/
def showPath (s : Option Show) (file : AudioFile) : Option String :=
  (s.bind (·.path file)).filter (· ≠ "")

/-- The file of the show is started, with the status `status`, or else the show is live. -/
def playOrLive (sid : ℕ) (session : ShowSession) (file : AudioFile) (status : ShowStatus) :
    Program Unit := do
  match showPath (← execute (.getShow session.showId)) file with
  | none => updateShowSessionStatus sid session.status .live
  | some path =>
    if ← playShowAudio setup session.stationId file path then
      updateShowSessionStatus sid session.status status
    else updateShowSessionStatus sid session.status .live

/-- `_handle_going_live`. -/
def handleGoingLive (sid : ℕ) (session : ShowSession) : Program Unit := do
  if ← execute .ask then return ()
  else playOrLive setup sid session .intro .introPlaying

/-- `_handle_on_break`. -/
def handleOnBreak (sid : ℕ) (session : ShowSession) : Program Unit := do
  if ← execute .ask then return ()
  else playOrLive setup sid session .breakIntro .breakIntro

/-- `_end_show_session`. -/
def endShowSession (sid : ℕ) (session : ShowSession) : Program Unit := do
  execute (.updateStatus sid session.status .ended)
  let _ ← execute (.getSession sid)
  execute .elsewhere
  execute .elsewhere

/-- `_runtime_playback_alive`, where there is a runtime. -/
def playbackAlive : Program Bool := if setup.hasRuntime then execute .ask else return false

/-- What follows the audio of a session that is over. -/
def audioOver (sid : ℕ) (session : ShowSession) : Program Unit :=
  match session.status with
  | .introPlaying | .breakIntro => updateShowSessionStatus sid session.status .live
  | .breakOutro => updateShowSessionStatus sid session.status .onBreak
  | .outroPlaying => endShowSession sid session
  | _ => return ()

/-- `_handle_show_audio_state`. -/
def handleShowAudioState (sid : ℕ) (session : ShowSession) : Program Unit := do
  if ← playbackAlive setup then return ()
  else do
    let _ ← execute (.getShow session.showId)
    audioOver sid session

/-- `_process_show_lifecycle`. -/
def processShowLifecycle : Option (ℕ × ShowSession) → Program Unit
  | none => return ()
  | some (sid, session) =>
    match session.status with
    | .goingLive => handleGoingLive setup sid session
    | .introPlaying | .breakOutro | .breakIntro | .outroPlaying =>
      handleShowAudioState setup sid session
    | .onBreak => handleOnBreak setup sid session
    | .live => execute .elsewhere
    | .preparing | .ended => return ()

/-- `process_once`, as far as the session of a show is concerned. -/
def processOnce (stationId : ℤ) : Program Unit := do
  if ← execute .ask then do
    let session ← execute (.getActiveForStation stationId)
    processShowLifecycle setup session
  else return ()

/-- A worker goes on after a tick that raised. -/
def work (stationId : ℤ) : ℕ → Program (Option ℕ)
  | 0 => return none
  | ticks + 1 => do
    Prog.tryCatch (processOnce setup stationId) fun _ => return ()
    work stationId ticks

end Worker

/-! ### The requests -/

/-- `go_live`; without the claim of the workspace or enough tracks it raises. -/
def goLive (showId stationId : ℤ) : Program (Option ℕ) := do
  match ← execute (.getShow showId) with
  | none => .raise (.http 404 "Show not found")
  | some _ =>
    match ← execute (.getActiveForStation stationId) with
    | some _ => .raise (.http 409 "Active session already exists for this station")
    | none =>
      execute .elsewhere
      let sid ← execute (.create showId stationId)
      execute (.updateStatus sid .preparing .goingLive)
      execute .elsewhere
      let _ ← execute (.getSession sid)
      return some sid

/-- The status of the active session of a show is changed, if it is one of `from_`. -/
def changeStatus (showId : ℤ) (from_ : ShowStatus → Bool) (status : ShowStatus)
    (detail : String) : Program (Option ℕ) := do
  match ← execute (.getShow showId) with
  | none => .raise (.http 404 "Show not found")
  | some s =>
    match ← execute (.getActiveForStation s.stationId) with
    | none => .raise (.http 400 "No active session for this show")
    | some (sid, session) =>
      if session.showId ≠ showId then .raise (.http 400 "No active session for this show")
      else if from_ session.status then do
        execute (.updateStatus sid session.status status)
        execute .elsewhere
        let _ ← execute (.getSession sid)
        return some sid
      else .raise (.http 400 detail)

/-- `go_break`. -/
def goBreak (showId : ℤ) : Program (Option ℕ) :=
  changeStatus showId (· = .live) .breakOutro "Show must be live to go to break"

/-- The statuses of a show that can be ended. -/
def canBeEnded (status : ShowStatus) : Bool :=
  status ∈ [.live, .onBreak, .breakOutro, .breakIntro]

/-- `end_show`. -/
def endShow (showId : ℤ) : Program (Option ℕ) :=
  changeStatus showId canBeEnded .outroPlaying "Show is not in a state that can be ended"

/-! ### Threads -/

/-- The calls; what a request returns is the session it has changed. -/
inductive Call
  | work (stationId : ℤ) (ticks : ℕ)
  | goLive (showId stationId : ℤ)
  | goBreak (showId : ℤ)
  | endShow (showId : ℤ)
  deriving DecidableEq, Repr

def Call.program (setup : Setup) : Call → Program (Option ℕ)
  | .work stationId ticks => ShowLifecycle.work setup stationId ticks
  | .goLive showId stationId => ShowLifecycle.goLive showId stationId
  | .goBreak showId => ShowLifecycle.goBreak showId
  | .endShow showId => ShowLifecycle.endShow showId

/-- A station has one worker. -/
def begins (i : ℕ) (c : Call) (s : State) : Option State :=
  match c with
  | .work stationId _ =>
    if s.workers stationId = none then
      some { s with workers := Function.update s.workers stationId (some i) }
    else none
  | _ => some s

inductive World
  | yes
  | no
  | raises (e : Raised)
  deriving DecidableEq, Repr

/-- A statement is executed, or raises. -/
def attempt {β : Type} (w : World) (s : State) (answer : Answer β × State) :
    Option (Answer β × State) :=
  match w with
  | .raises e => some (.error e, s)
  | _ => some answer

variable (setup : Setup)

/-- The operations; a second active session of a station violates an index. -/
def run {β : Type} (i : ℕ) (o : Op β) (w : World) (s : State) : Option (β × State) :=
  match o with
  | .ask => attempt w s (.ok (decide (w = .yes)), s)
  | .elsewhere => attempt w s (.ok (), s)
  | .getActiveForStation stationId => attempt w s (.ok (s.active stationId), s)
  | .getSession sid => attempt w s (.ok (s.rows[sid]?.map (·.session)), s)
  | .getShow showId => attempt w s (.ok setup.shows[showId]?, s)
  | .startStation stationId file path => attempt w s (.ok (), s.startStation stationId file path)
  | .create showId stationId => attempt w s (
      if (s.active stationId).isSome then (.error .database, s)
      else (.ok s.rows.length, s.create i showId stationId))
  | .updateStatus sid _ status => attempt w s (.ok (), s.update i sid status)

def system : System Op Raised (Option ℕ) Call World Empty State where
  program _ c := c.program setup
  begins := begins
  run i := run setup i
  surroundings e _ := nomatch e

/-- Worker threads and requests from the first one on. -/
abbrev step := ThreadPool.step (system setup)

abbrev initial : Pool Op Raised (Option ℕ) Call State := .empty .start

/-! ### What a statement does -/

def statusOf (s : State) (sid : ℕ) : Option ShowStatus := s.rows[sid]?.map (·.session.status)

section Effect

variable {setup} {i : ℕ} {s u : State} {β : Type} {allows : Condition Op World State}

lemma attempt_cases {w : World} {answer : Answer β × State} {a : Answer β}
    (h : attempt w s answer = some (a, u)) : (∃ e, a = .error e ∧ u = s) ∨ answer = (a, u) := by
  cases w with
  | yes | no => exact .inr (Option.some.inj h)
  | raises e =>
    cases h
    exact .inl ⟨e, rfl, rfl⟩

/-- The ways in which a statement of the thread `i` that is allowed changes the state. -/
inductive Effect (allows : Condition Op World State) (i : ℕ) (s : State) : State → Prop
  | same : Effect allows i s s
  | started {stationId file path w} (h : allows i (.startStation stationId file path) w s = true) :
      Effect allows i s (s.startStation stationId file path)
  | created {showId stationId} : Effect allows i s (s.create i showId stationId)
  | updated {sid read status w} (hw : ∀ e, w ≠ .raises e)
      (h : allows i (.updateStatus sid read status) w s = true) :
      Effect allows i s (s.update i sid status)

/-- **What a statement does.** It starts a file, creates a session, writes the status of one, or
changes nothing. -/
theorem effect_of_run {o : Op β} {w : World} {b : β}
    (h : ((system setup).limited allows).run i o w s = some (b, u)) : Effect allows i s u := by
  obtain ⟨hallows, hrun⟩ := Option.ite_none_right_eq_some.mp h
  cases o with
  | ask | elsewhere | getActiveForStation | getSession | getShow =>
    obtain ⟨e, -, rfl⟩ | heq := attempt_cases hrun
    · exact .same
    · cases heq
      exact .same
  | startStation =>
    obtain ⟨e, -, rfl⟩ | heq := attempt_cases hrun
    · exact .same
    · cases heq
      exact .started hallows
  | create =>
    obtain ⟨e, -, rfl⟩ | heq := attempt_cases hrun
    · exact .same
    · split at heq
      case isTrue =>
        cases heq
        exact .same
      case isFalse =>
        cases heq
        exact .created
  | updateStatus =>
    cases w with
    | raises e =>
      cases hrun
      exact .same
    | yes | no =>
      cases hrun
      exact .updated (fun _ => by simp) hallows

lemma statusOf_update {sid' sid : ℕ} {status : ShowStatus} :
    statusOf (s.update i sid status) sid' =
      if sid' = sid then (statusOf s sid).map fun _ => status else statusOf s sid' := by
  unfold State.update statusOf
  cases hr : s.rows[sid]? with
  | none =>
    split_ifs with h
    · rw [h, hr]
      rfl
    · rfl
  | some r =>
    obtain ⟨hlt, -⟩ := List.getElem?_eq_some_iff.mp hr
    simp only [List.getElem?_set, eq_comm (a := sid)]
    split_ifs with h
    · rfl
    · rfl

lemma update_of_row {sid : ℕ} {r : Row} {status : ShowStatus} (h : s.rows[sid]? = some r) :
    s.update i sid status = { s with
      rows := s.rows.set sid (r.withStatus status)
      history := .entered i sid r.session status :: s.history } := by
  simp [State.update, h]

end Effect

end OnAir.ShowLifecycle
