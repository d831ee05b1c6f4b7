import OnAir.Runs

/-!
The queue of downloads: `_YTDLP_JOBS`, the pending and the recent ids, and the one slot for the job
that runs.

A submission stores its job and starts a thread of its own for it. The thread takes the lock when it
begins, when the import reports its progress, and when it ends. Nothing keeps the threads of two
jobs apart.
-/

namespace OnAir.ImportJobs

open Runs

inductive Status
  | queued
  | running
  | completed
  | failed
  deriving DecidableEq, Repr

variable {Request Result : Type}

/-- An entry of `_YTDLP_JOBS`. -/
structure Job (Request Result : Type) where
  id : String
  status : Status
  phase : String
  message : String
  createdAt : String
  updatedAt : String
  startedAt : Option String
  finishedAt : Option String
  request : Request
  result : Option Result
  error : Option String
  deriving DecidableEq, Repr

/-- What the lock guards. -/
structure Store (Request Result : Type) where
  jobs : List (Job Request Result)
  pendingJobIds : List String
  recentJobIds : List String
  runningJobId : Option String
  deriving DecidableEq, Repr

def get (jobId : String) (s : Store Request Result) : Option (Job Request Result) :=
  s.jobs.find? (·.id = jobId)

def modify (jobId : String) (f : Job Request Result → Job Request Result)
    (jobs : List (Job Request Result)) : List (Job Request Result) :=
  jobs.map fun job => if job.id = jobId then f job else job

/-- What `legacy_queue_ytdlp_import` stores. -/
def queueYtdlpImport (jobId now : String) (request : Request) (s : Store Request Result) :
    Store Request Result :=
  { s with
    jobs := s.jobs ++ [⟨jobId, .queued, "queued", "Waiting in queue", now, now, none, none, request,
      none, none⟩]
    pendingJobIds := s.pendingJobIds ++ [jobId] }

def startedJob (now : String) (job : Job Request Result) : Job Request Result :=
  { job with
    status := .running
    phase := "downloading"
    message := "Downloading and importing"
    startedAt := some now
    updatedAt := now }

/-- `_run_ytdlp_job_inline` up to the import; `none` where it returns. -/
def beginJob (jobId now : String) (s : Store Request Result) : Option (Store Request Result) :=
  (get jobId s).map fun _ =>
    { s with
      jobs := modify jobId (startedJob now) s.jobs
      pendingJobIds := s.pendingJobIds.erase jobId
      runningJobId := some jobId }

def progressJob (phase message now : String) (job : Job Request Result) : Job Request Result :=
  { job with phase, message, updatedAt := now }

/-- `_update_job`. -/
def updateJob (jobId phase message now : String) (s : Store Request Result) :
    Store Request Result :=
  { s with jobs := modify jobId (progressJob phase message now) s.jobs }

/-- `final_message` after an exception. -/
def failureMessage (error : String) : String := if error = "" then "Import failed" else error

/-- What the import returned, or the text of the exception it raised. -/
def finalJob (now : String) (outcome : Except String Result) (job : Job Request Result) :
    Job Request Result :=
  match outcome with
  | .ok result => { job with
      status := .completed
      phase := "completed"
      message := "Import completed"
      error := none
      result := some result
      finishedAt := some now
      updatedAt := now }
  | .error error => { job with
      status := .failed
      phase := "failed"
      message := failureMessage error
      error := some error
      result := none
      finishedAt := some now
      updatedAt := now }

/-- `_run_ytdlp_job_inline` after the import. -/
def finishJob (jobId now : String) (outcome : Except String Result) (s : Store Request Result) :
    Store Request Result :=
  match get jobId s with
  | none => { s with runningJobId := none }
  | some _ =>
    { s with
      jobs := modify jobId (finalJob now outcome) s.jobs
      runningJobId := none
      recentJobIds := (jobId :: s.recentJobIds.erase jobId).take 80 }

/-! ### The snapshot -/

/-- A job as it is shown, with its place in the queue. -/
structure Shown (Request Result : Type) where
  job : Job Request Result
  queuePosition : Option ℕ
  deriving DecidableEq, Repr

structure Snapshot (Request Result : Type) where
  running : Option (Shown Request Result)
  queue : List (Shown Request Result)
  recent : List (Shown Request Result)
  completed : ℕ
  failed : ℕ
  deriving DecidableEq, Repr

/-- `_serialize_ytdlp_job`. -/
def serializeYtdlpJob (job : Job Request Result) (queuePosition : Option ℕ)
    (includeResult : Bool) : Shown Request Result :=
  ⟨{ job with result := if includeResult then job.result else none }, queuePosition⟩

/-- `_build_ytdlp_snapshot`; the counts of running and queued jobs are the lengths of the two. -/
def buildYtdlpSnapshot (limitRecent : ℤ) (s : Store Request Result) : Snapshot Request Result :=
  let running := (s.runningJobId.bind fun id => get id s).map fun job =>
    serializeYtdlpJob job (some 1) false
  let base := if running.isSome then 2 else 1
  let recent := (s.recentJobIds.take (max 1 (min 100 limitRecent)).toNat).filterMap fun id =>
    get id s
  { running
    queue := s.pendingJobIds.zipIdx.filterMap fun p =>
      (get p.1 s).map fun job => serializeYtdlpJob job (some (base + p.2)) false
    recent := recent.map fun job => serializeYtdlpJob job none true
    completed := recent.countP (·.status = .completed)
    failed := recent.countP (·.status = .failed) }

/-! ### Threads -/

/-- The store, the threads that have not begun, and those whose import is under way. -/
structure State (Request Result : Type) where
  store : Store Request Result
  waiting : List String
  importing : List String
  deriving DecidableEq, Repr

def start : State Request Result := ⟨⟨[], [], [], none⟩, [], []⟩

inductive Event (Request Result : Type)
  | submit (jobId now : String) (request : Request)
  | beginJob (jobId now : String)
  | updateJob (jobId phase message now : String)
  | finishJob (jobId now : String) (outcome : Except String Result)

/-- A new id is not one of a job before it. -/
def step (s : State Request Result) : Event Request Result → Option (State Request Result)
  | .submit jobId now request =>
    if jobId ∉ s.store.jobs.map (·.id) then
      some { s with
        store := queueYtdlpImport jobId now request s.store
        waiting := s.waiting ++ [jobId] }
    else none
  | .beginJob jobId now =>
    if jobId ∈ s.waiting then
      match beginJob jobId now s.store with
      | none => some { s with waiting := s.waiting.erase jobId }
      | some store => some ⟨store, s.waiting.erase jobId, s.importing ++ [jobId]⟩
    else none
  | .updateJob jobId phase message now =>
    if jobId ∈ s.importing then some { s with store := updateJob jobId phase message now s.store }
    else none
  | .finishJob jobId now outcome =>
    if jobId ∈ s.importing then
      some { s with
        store := finishJob jobId now outcome s.store
        importing := s.importing.erase jobId }
    else none

/-! ### What the queue promises -/

def isFinished (job : Job Request Result) : Prop := job.status = .completed ∨ job.status = .failed

/-- One job runs and is shown, and every job is in one place. -/
structure Orderly (s : Store Request Result) : Prop where
  single : ∀ a ∈ s.jobs, ∀ b ∈ s.jobs, a.status = .running → b.status = .running → a = b
  shown : ∀ limitRecent, ∀ a ∈ s.jobs, a.status = .running ↔
    (buildYtdlpSnapshot limitRecent s).running.map (·.job.id) = some a.id
  placed : ∀ a ∈ s.jobs,
    a.id ∈ s.pendingJobIds ∧ s.runningJobId ≠ some a.id ∧ ¬ isFinished a ∨
    a.id ∉ s.pendingJobIds ∧ s.runningJobId = some a.id ∧ ¬ isFinished a ∨
    a.id ∉ s.pendingJobIds ∧ s.runningJobId ≠ some a.id ∧ isFinished a

/-- A thread begins while no import is under way. -/
def beginsAlone (s : State Request Result) : Event Request Result → Prop
  | .beginJob _ _ => s.importing = []
  | _ => True

instance (s : State Request Result) (e : Event Request Result) : Decidable (beginsAlone s e) := by
  cases e
  case beginJob => exact inferInstanceAs (Decidable (s.importing = []))
  all_goals exact isTrue trivial

/-! ### Jobs and their threads -/

section Tracked

variable {s t : State Request Result} {jobId : String} {jobs : List (Job Request Result)}
  {f : Job Request Result → Job Request Result}

lemma ids_modify (hid : ∀ job, (f job).id = job.id) :
    (modify jobId f jobs).map (·.id) = jobs.map (·.id) := by
  rw [modify, List.map_map]
  refine List.map_congr_left fun job _ => ?_
  rw [Function.comp_apply]
  split_ifs
  · exact hid job
  · rfl

lemma get_isSome {store : Store Request Result} (h : jobId ∈ store.jobs.map (·.id)) :
    ∃ job, get jobId store = some job := by
  obtain ⟨job, hjob, hid⟩ := List.mem_map.mp h
  exact Option.isSome_iff_exists.mp
    (List.find?_isSome.mpr ⟨job, hjob, decide_eq_true hid⟩)

/-- The status of a job says where its thread is. -/
structure Tracked (s : State Request Result) : Prop where
  nodup : (s.store.jobs.map (·.id)).Nodup
  pending : s.store.pendingJobIds = s.waiting
  waitingNodup : s.waiting.Nodup
  importingNodup : s.importing.Nodup
  waitingKnown : ∀ id ∈ s.waiting, id ∈ s.store.jobs.map (·.id)
  importingKnown : ∀ id ∈ s.importing, id ∈ s.store.jobs.map (·.id)
  queued : ∀ job ∈ s.store.jobs, job.status = .queued ↔ job.id ∈ s.waiting
  running : ∀ job ∈ s.store.jobs, job.status = .running ↔ job.id ∈ s.importing

lemma tracked_start : Tracked (start : State Request Result) := by
  constructor <;> simp [start]

/-- A thread works on its own job. -/
lemma Tracked.of_modify (h : Tracked s) (hid : ∀ job, (f job).id = job.id)
    (hjobs : t.store.jobs = modify jobId f s.store.jobs)
    (hpending : t.store.pendingJobIds = t.waiting)
    (hwaiting : t.waiting.Sublist s.waiting) (himporting : t.importing.Nodup)
    (hknown : ∀ id ∈ t.importing, id ∈ s.importing ∨ id ∈ s.waiting)
    (hother : ∀ id ≠ jobId, (id ∈ t.waiting ↔ id ∈ s.waiting) ∧
      (id ∈ t.importing ↔ id ∈ s.importing))
    (hown : ∀ job ∈ s.store.jobs, job.id = jobId →
      ((f job).status = .queued ↔ jobId ∈ t.waiting) ∧
      ((f job).status = .running ↔ jobId ∈ t.importing)) : Tracked t := by
  have hids : t.store.jobs.map (·.id) = s.store.jobs.map (·.id) := by
    rw [hjobs, ids_modify hid]
  have hstatus : ∀ job ∈ t.store.jobs, (job.status = .queued ↔ job.id ∈ t.waiting) ∧
      (job.status = .running ↔ job.id ∈ t.importing) := by
    intro job hjob
    rw [hjobs] at hjob
    obtain ⟨old, hold, rfl⟩ := List.mem_map.mp hjob
    split_ifs with heq
    · rw [hid, heq]
      exact hown old hold heq
    · rw [(hother old.id heq).1, (hother old.id heq).2]
      exact ⟨h.queued old hold, h.running old hold⟩
  exact {
    nodup := hids ▸ h.nodup
    pending := hpending
    waitingNodup := hwaiting.nodup h.waitingNodup
    importingNodup := himporting
    waitingKnown := fun id hmem => hids ▸ h.waitingKnown id (hwaiting.subset hmem)
    importingKnown := fun id hmem => hids ▸
      (hknown id hmem).elim (h.importingKnown id) (h.waitingKnown id)
    queued := fun job hjob => (hstatus job hjob).1
    running := fun job hjob => (hstatus job hjob).2 }

/-- A job that waits does not run. -/
lemma Tracked.apart (h : Tracked s) (hwaiting : jobId ∈ s.waiting) : jobId ∉ s.importing := by
  intro himporting
  obtain ⟨job, hjob, rfl⟩ := List.mem_map.mp (h.waitingKnown jobId hwaiting)
  have hqueued := (h.queued job hjob).mpr hwaiting
  rw [(h.running job hjob).mpr himporting] at hqueued
  cases hqueued

lemma Tracked.submit (h : Tracked s) {now : String} {request : Request}
    (hnew : jobId ∉ s.store.jobs.map (·.id)) :
    Tracked { s with
      store := queueYtdlpImport jobId now request s.store
      waiting := s.waiting ++ [jobId] } := by
  have hwaiting : jobId ∉ s.waiting := fun hmem => hnew (h.waitingKnown jobId hmem)
  have himporting : jobId ∉ s.importing := fun hmem => hnew (h.importingKnown jobId hmem)
  have hids : (queueYtdlpImport jobId now request s.store).jobs.map (·.id) =
      s.store.jobs.map (·.id) ++ [jobId] := List.map_append
  have hold : ∀ job ∈ s.store.jobs, job.id ≠ jobId := fun job hjob heq =>
    hnew (List.mem_map.mpr ⟨job, hjob, heq⟩)
  exact {
    nodup := by
      rw [hids]
      exact List.nodup_append_comm.mp (List.nodup_cons.mpr ⟨hnew, h.nodup⟩)
    pending := congrArg (· ++ [jobId]) h.pending
    waitingNodup := List.nodup_append_comm.mp (List.nodup_cons.mpr ⟨hwaiting, h.waitingNodup⟩)
    importingNodup := h.importingNodup
    waitingKnown := fun id hmem => by
      rw [hids]
      rcases List.mem_append.mp hmem with hmem | hmem
      · exact List.mem_append_left _ (h.waitingKnown id hmem)
      · exact List.mem_append_right _ hmem
    importingKnown := fun id hmem => by
      rw [hids]
      exact List.mem_append_left _ (h.importingKnown id hmem)
    queued := fun job hjob => by
      rcases List.mem_append.mp hjob with hjob | hjob
      · have := h.queued job hjob
        simpa [hold job hjob] using this
      · obtain rfl := List.mem_singleton.mp hjob
        simp
    running := fun job hjob => by
      rcases List.mem_append.mp hjob with hjob | hjob
      · exact h.running job hjob
      · obtain rfl := List.mem_singleton.mp hjob
        simpa using himporting }

lemma Tracked.beginJob (h : Tracked s) {now : String} {store : Store Request Result}
    (hwaiting : jobId ∈ s.waiting) (hbegin : beginJob jobId now s.store = some store) :
    Tracked ⟨store, s.waiting.erase jobId, s.importing ++ [jobId]⟩ ∧
      store.runningJobId = some jobId := by
  obtain ⟨job, -, rfl⟩ := Option.map_eq_some_iff.mp hbegin
  have himporting := h.apart hwaiting
  refine ⟨?_, rfl⟩
  refine h.of_modify (f := startedJob now) (fun _ => rfl) rfl (congrArg (·.erase jobId) h.pending)
    List.erase_sublist (List.nodup_append_comm.mp (List.nodup_cons.mpr ⟨himporting, h.importingNodup⟩))
    (fun id hmem => ?_) (fun id hne => ⟨List.mem_erase_of_ne hne, ?_⟩) (fun job _ _ => ⟨?_, ?_⟩)
  · rcases List.mem_append.mp hmem with hmem | hmem
    · exact .inl hmem
    · obtain rfl := List.mem_singleton.mp hmem
      exact .inr hwaiting
  · simp [hne]
  · exact iff_of_false nofun h.waitingNodup.not_mem_erase
  · exact iff_of_true rfl (List.mem_append_right _ List.mem_cons_self)

lemma Tracked.updateJob (h : Tracked s) {phase message now : String} :
    Tracked { s with store := updateJob jobId phase message now s.store } :=
  h.of_modify (f := progressJob phase message now) (fun _ => rfl) rfl h.pending
    (List.Sublist.refl _) h.importingNodup (fun _ hmem => .inl hmem) (fun _ _ => ⟨Iff.rfl, Iff.rfl⟩)
    fun job hjob heq => heq ▸ ⟨h.queued job hjob, h.running job hjob⟩

lemma isFinished_finalJob (now : String) (outcome : Except String Result)
    (job : Job Request Result) : isFinished (finalJob now outcome job) := by
  cases outcome with
  | ok result => exact .inl rfl
  | error error => exact .inr rfl

lemma id_finalJob (now : String) (outcome : Except String Result) (job : Job Request Result) :
    (finalJob now outcome job).id = job.id := by
  cases outcome <;> rfl

lemma Tracked.finishJob (h : Tracked s) {now : String} {outcome : Except String Result}
    (himporting : jobId ∈ s.importing) :
    Tracked { s with
        store := finishJob jobId now outcome s.store
        importing := s.importing.erase jobId } ∧
      (finishJob jobId now outcome s.store).runningJobId = none := by
  obtain ⟨job, hget⟩ := get_isSome (h.importingKnown jobId himporting)
  unfold ImportJobs.finishJob
  rw [hget]
  refine ⟨?_, rfl⟩
  refine h.of_modify (id_finalJob now outcome) rfl h.pending (List.Sublist.refl _)
    (h.importingNodup.erase _) (fun id hmem => .inl (List.mem_of_mem_erase hmem))
    (fun id hne => ⟨Iff.rfl, List.mem_erase_of_ne hne⟩) (fun job _ _ => ?_)
  have hwaiting : jobId ∉ s.waiting := fun hmem => h.apart hmem himporting
  have hfinal := isFinished_finalJob now outcome job
  constructor
  · refine iff_of_false (fun hqueued => ?_) hwaiting
    rw [isFinished, hqueued] at hfinal
    exact hfinal.elim nofun nofun
  · refine iff_of_false (fun hrunning => ?_) h.importingNodup.not_mem_erase
    rw [isFinished, hrunning] at hfinal
    exact hfinal.elim nofun nofun

/-- The slot is that of the only import. -/
structure Serial (s : State Request Result) : Prop where
  tracked : Tracked s
  slot : s.importing = s.store.runningJobId.toList

lemma serial_start : Serial (start : State Request Result) := ⟨tracked_start, rfl⟩

/-- A thread that waits finds its job. -/
lemma step_cases {e : Event Request Result} (h : Tracked s) (he : step s e = some t) :
    (∃ jobId now request, e = .submit jobId now request ∧ jobId ∉ s.store.jobs.map (·.id) ∧
      t = { s with
        store := queueYtdlpImport jobId now request s.store
        waiting := s.waiting ++ [jobId] }) ∨
    (∃ jobId now store, e = .beginJob jobId now ∧ jobId ∈ s.waiting ∧
      ImportJobs.beginJob jobId now s.store = some store ∧
      t = ⟨store, s.waiting.erase jobId, s.importing ++ [jobId]⟩) ∨
    (∃ jobId phase message now, e = .updateJob jobId phase message now ∧
      t = { s with store := ImportJobs.updateJob jobId phase message now s.store }) ∨
    ∃ jobId now outcome, e = .finishJob jobId now outcome ∧ jobId ∈ s.importing ∧
      t = { s with
        store := ImportJobs.finishJob jobId now outcome s.store
        importing := s.importing.erase jobId } := by
  cases e with
  | submit jobId now request =>
    simp only [step] at he
    split_ifs at he with hguard
    cases he
    exact .inl ⟨jobId, now, request, rfl, hguard, rfl⟩
  | beginJob jobId now =>
    simp only [step] at he
    split_ifs at he with hguard
    obtain ⟨job, hget⟩ := get_isSome (h.waitingKnown jobId hguard)
    rw [ImportJobs.beginJob, hget] at he
    cases he
    exact .inr (.inl ⟨jobId, now, _, rfl, hguard, by rw [ImportJobs.beginJob, hget]; rfl, rfl⟩)
  | updateJob jobId phase message now =>
    simp only [step] at he
    split_ifs at he
    cases he
    exact .inr (.inr (.inl ⟨jobId, phase, message, now, rfl, rfl⟩))
  | finishJob jobId now outcome =>
    simp only [step] at he
    split_ifs at he with hguard
    cases he
    exact .inr (.inr (.inr ⟨jobId, now, outcome, rfl, hguard, rfl⟩))

lemma tracked_step {e : Event Request Result} (h : Tracked s) (he : step s e = some t) :
    Tracked t := by
  obtain ⟨jobId, now, request, -, hnew, rfl⟩ | ⟨jobId, now, store, -, hwaiting, hbegin, rfl⟩ |
    ⟨jobId, phase, message, now, -, rfl⟩ | ⟨jobId, now, outcome, -, himporting, rfl⟩ :=
      step_cases h he
  · exact h.submit hnew
  · exact (h.beginJob hwaiting hbegin).1
  · exact h.updateJob
  · exact (h.finishJob himporting).1

/-- Imports that do not overlap keep the slot. -/
lemma serial_step {e : Event Request Result} (h : Serial s) (halone : beginsAlone s e)
    (he : step s e = some t) : Serial t := by
  refine ⟨tracked_step h.tracked he, ?_⟩
  obtain ⟨jobId, now, request, -, -, rfl⟩ | ⟨jobId, now, store, rfl, hwaiting, hbegin, rfl⟩ |
    ⟨jobId, phase, message, now, -, rfl⟩ | ⟨jobId, now, outcome, -, himporting, rfl⟩ :=
      step_cases h.tracked he
  · exact h.slot
  · have hnone : s.importing = [] := halone
    change s.importing ++ [jobId] = store.runningJobId.toList
    rw [(h.tracked.beginJob hwaiting hbegin).2, hnone]
    rfl
  · exact h.slot
  · change s.importing.erase jobId =
      (ImportJobs.finishJob jobId now outcome s.store).runningJobId.toList
    rw [(h.tracked.finishJob himporting).2]
    have hslot := h.slot
    cases hrunning : s.store.runningJobId with
    | none =>
      rw [hrunning] at hslot
      rw [hslot]
      rfl
    | some id =>
      rw [hrunning] at hslot
      rw [hslot] at himporting ⊢
      obtain rfl := List.mem_singleton.mp himporting
      simp

/-- A finished job has no thread, so no step writes it. -/
lemma finished_step {e : Event Request Result} {job : Job Request Result} (h : Tracked s)
    (he : step s e = some t) (hfinished : isFinished job) (hjob : job ∈ s.store.jobs) :
    job ∈ t.store.jobs := by
  have hwaiting : job.id ∉ s.waiting := fun hmem => by
    rw [isFinished, (h.queued job hjob).mpr hmem] at hfinished
    exact hfinished.elim nofun nofun
  have himporting : job.id ∉ s.importing := fun hmem => by
    rw [isFinished, (h.running job hjob).mpr hmem] at hfinished
    exact hfinished.elim nofun nofun
  have hkept : ∀ {jobId : String} {f : Job Request Result → Job Request Result},
      jobId ∈ s.waiting ∨ jobId ∈ s.importing → job ∈ modify jobId f s.store.jobs := by
    rintro jobId f hmem
    refine List.mem_map.mpr ⟨job, hjob, if_neg fun hid => ?_⟩
    subst hid
    exact hmem.elim hwaiting himporting
  cases e with
  | submit =>
    obtain ⟨-, he⟩ := Option.ite_none_right_eq_some.mp he
    cases he
    exact List.mem_append_left _ hjob
  | beginJob jobId now =>
    obtain ⟨hmem, he⟩ := Option.ite_none_right_eq_some.mp he
    obtain ⟨found, hget⟩ := get_isSome (h.waitingKnown jobId hmem)
    rw [ImportJobs.beginJob, hget] at he
    cases he
    exact hkept (.inl hmem)
  | updateJob =>
    obtain ⟨hmem, he⟩ := Option.ite_none_right_eq_some.mp he
    cases he
    exact hkept (.inr hmem)
  | finishJob jobId =>
    obtain ⟨hmem, he⟩ := Option.ite_none_right_eq_some.mp he
    cases he
    obtain ⟨found, hget⟩ := get_isSome (h.importingKnown jobId hmem)
    rw [ImportJobs.finishJob, hget]
    exact hkept (.inr hmem)

/-! ### The promise -/

lemma shown_running (limitRecent : ℤ) (store : Store Request Result)
    (hknown : ∀ id ∈ store.runningJobId, id ∈ store.jobs.map (·.id)) :
    (buildYtdlpSnapshot limitRecent store).running.map (·.job.id) = store.runningJobId := by
  unfold buildYtdlpSnapshot
  cases hrunning : store.runningJobId with
  | none => rfl
  | some id =>
    obtain ⟨job, hget⟩ := get_isSome (hknown id hrunning)
    have hid : job.id = id := by simpa using List.find?_some hget
    simp [hget, serializeYtdlpJob, hid]

lemma Serial.orderly (h : Serial s) : Orderly s.store := by
  obtain ⟨h, hslot⟩ := h
  have hmem : ∀ id, id ∈ s.importing ↔ s.store.runningJobId = some id := by
    intro id
    rw [hslot, Option.mem_toList]
  have hrunning : ∀ job ∈ s.store.jobs, job.status = .running ↔
      s.store.runningJobId = some job.id := fun job hjob => (h.running job hjob).trans (hmem _)
  refine ⟨fun a ha b hb hrun hrun' => ?_, fun limitRecent a ha => ?_, fun a ha => ?_⟩
  · have hid := ((hrunning a ha).mp hrun).symm.trans ((hrunning b hb).mp hrun')
    exact List.inj_on_of_nodup_map h.nodup ha hb (Option.some.inj hid)
  · rw [shown_running limitRecent s.store fun id hid => h.importingKnown id ((hmem id).mpr hid)]
    exact hrunning a ha
  · rw [h.pending, ← h.queued a ha, Ne, ← hrunning a ha, isFinished]
    cases a.status <;> simp

/-- Two imports at a time are two running jobs. -/
lemma beginsAlone_of_orderly {e : Event Request Result} (h : Tracked s) (he : step s e = some t)
    (horderly : Orderly t.store) : beginsAlone s e := by
  obtain ⟨jobId, now, request, rfl, -, rfl⟩ | ⟨jobId, now, store, rfl, hwaiting, -, rfl⟩ |
    ⟨jobId, phase, message, now, rfl, rfl⟩ | ⟨jobId, now, outcome, rfl, -, rfl⟩ :=
      step_cases h he
  · trivial
  · refine List.eq_nil_iff_forall_not_mem.mpr fun other hother => h.apart hwaiting ?_
    have ht := tracked_step h he
    have hrun : ∀ id ∈ s.importing ++ [jobId],
        ∃ a ∈ store.jobs, a.id = id ∧ a.status = .running := by
      intro id hid
      obtain ⟨a, ha, rfl⟩ := List.mem_map.mp (ht.importingKnown id hid)
      exact ⟨a, ha, rfl, (ht.running a ha).mpr hid⟩
    obtain ⟨a, ha, hida, hruna⟩ := hrun other (List.mem_append_left _ hother)
    obtain ⟨b, hb, hidb, hrunb⟩ := hrun jobId (List.mem_append_right _ List.mem_cons_self)
    rwa [← hidb, ← horderly.single a ha b hb hruna hrunb, hida]
  · trivial
  · trivial

end Tracked

/-- **One job at a time.** In a run of submissions and threads, the store is orderly at every
moment exactly when no thread begins while the import of another is under way. -/
theorem orderly_iff {events : List (Event Request Result)} {s : State Request Result}
    (he : exec step start events = some s) :
    (∀ pre, pre <+: events → ∀ t, exec step start pre = some t → Orderly t.store) ↔
      Meets step beginsAlone start events :=
  always_iff_meets (P := fun t => Orderly t.store) (fun _ _ _ => serial_step)
    (fun _ h => h.orderly) (fun _ _ _ h ht horderly => beginsAlone_of_orderly h.tracked ht horderly)
    serial_start he

/-- **A finished job is final.** Whatever is submitted and imported afterwards, its status, its
result and its error stay as they are. -/
theorem finished_is_final {events later : List (Event Request Result)} {s t : State Request Result}
    (he : exec step start events = some s) (hlater : exec step s later = some t)
    {job : Job Request Result} (hjob : job ∈ s.store.jobs) (hfinished : isFinished job) :
    job ∈ t.store.jobs := by
  have hs : Tracked s := inv_of_exec_all (fun _ _ _ => tracked_step) tracked_start he
  exact (inv_of_exec_all (P := fun u => Tracked u ∧ job ∈ u.store.jobs)
    (fun _ _ _ h hstep => ⟨tracked_step h.1 hstep, finished_step h.1 hstep hfinished h.2⟩)
    ⟨hs, hjob⟩ hlater).2

def oneAfterTheOther : List (Event Unit Unit) :=
  [.submit "a" "t1" (), .submit "b" "t2" (), .beginJob "a" "t3", .finishJob "a" "t4" (.ok ()),
    .beginJob "b" "t5", .finishJob "b" "t6" (.error "no audio")]

theorem orderly_one_after_the_other :
    ∃ s, exec step start oneAfterTheOther = some s ∧
      ∀ pre, pre <+: oneAfterTheOther → ∀ t, exec step start pre = some t → Orderly t.store := by
  obtain ⟨s, hs⟩ : ∃ s, exec step start oneAfterTheOther = some s :=
    Option.isSome_iff_exists.mp (by decide)
  exact ⟨s, hs, (orderly_iff hs).mpr (by decide)⟩

theorem finished_is_final_first : ∃ s, exec step start oneAfterTheOther = some s ∧
    finalJob "t4" (.ok ()) (startedJob "t3" ⟨"a", .queued, "queued", "Waiting in queue", "t1", "t1",
      none, none, (), none, none⟩) ∈ s.store.jobs := by
  obtain ⟨s, hs⟩ : ∃ s, exec step start oneAfterTheOther = some s :=
    Option.isSome_iff_exists.mp (by decide)
  exact ⟨s, hs, @finished_is_final Unit Unit (oneAfterTheOther.take 4) (oneAfterTheOther.drop 4)
    _ s rfl hs _ (by decide) (.inl rfl)⟩

def twoAtATime : List (Event Unit Unit) :=
  [.submit "a" "t1" (), .submit "b" "t2" (), .beginJob "a" "t3", .beginJob "b" "t4"]

/-- Two threads begin, and both jobs run. -/
theorem two_jobs_run : ¬ ∀ (events : List (Event Unit Unit)) (s : State Unit Unit),
    exec step start events = some s → Orderly s.store := by
  intro h
  have hsame := (h twoAtATime _ rfl).single _ (.head _) _ (.tail _ (.head _)) rfl rfl
  exact absurd (congrArg Job.id hsame) (by decide)

end OnAir.ImportJobs
