import OnAir.OperatorEdits

/-!
`operator_skip_current`: an operator ends the row that is playing, over the heads of the
scheduler and the runtime.

The scheduler is stopped first, then the queue is locked, the runtime is stopped, and the row is
marked done. Each of these calls may raise, before or after it had its effect. What is not
committed is rolled back, the interrupted input is started again, and the scheduler is resumed.
What the scheduler does once it runs again is not part of the call.
-/

namespace OnAir.OperatorSkip

open PlayoutTables QueueRepository OnAir.Table

structure Runtime where
  running : Bool
  activeInputUri : String
  deriving DecidableEq, Repr

structure World where
  engine : Engine
  runtime : Runtime
  /-- whether the loop thread of the station is alive -/
  scheduler : Bool
  /-- the inputs the call has started again, the last one first -/
  restarted : List String

/-- A call to the outside: whether it had its effect, and whether it raised. -/
structure Effect where
  done : Bool
  raises : Bool
  deriving DecidableEq, Repr

/-- What the calls of one skip do. -/
structure Outside where
  schedulerStatusRaises : Bool
  schedulerStop : Effect
  runtimeStatusRaises : Bool
  /-- `init_db`, the connection and `BEGIN IMMEDIATE` with its queries -/
  beginRaises : Bool
  firstCheckRaises : Bool
  runtimeStop : Effect
  secondCheckRaises : Bool
  commitRaises : Bool
  closeRaises : Bool
  restart : Effect
  restartCheckRaises : Bool
  resume : Effect
  resumeStatusRaises : Bool
  deriving DecidableEq, Repr

inductive Reply
  | ok (skippedItemId : ℤ) (schedulerResumed : Bool)
  | http (status : ℕ) (detail : String)
  /-- another exception -/
  | raised
  deriving DecidableEq, Repr

/-- What the `try` block leaves. -/
structure Attempt where
  world : World
  runtimeStopped : Bool
  committed : Bool
  failure : Option Reply

section Skip

variable (digest : String → String) (out : Outside) (st itemId : ℤ) (expected : String) (w : World)

def stopRuntime : World :=
  if out.runtimeStop.done then { w with runtime := { w.runtime with running := false } } else w

def persistenceFailed : Reply := .http 503 "skip persistence failed; broadcast recovery required"

def queueChanged : Reply := .http 409 "queue changed; skip was not applied"

/-- The `try` block, in which the queue is locked. -/
def attempt : Attempt :=
  if out.beginRaises then ⟨w, false, false, some persistenceFailed⟩
  else if beginSkipPlayingItem digest st itemId expected w.engine ≠ .ok then
    ⟨w, false, false, some queueChanged⟩
  else if out.firstCheckRaises then ⟨w, false, false, some persistenceFailed⟩
  else if !w.runtime.running then
    ⟨w, false, false, some (.http 409 "no active runtime audio to skip")⟩
  else
    let w' := stopRuntime out w
    -- `runtime_stopped` is only set once both calls have returned
    if out.runtimeStop.raises || out.secondCheckRaises then
      ⟨w', false, false, some persistenceFailed⟩
    else if w'.runtime.running then
      ⟨w', false, false, some (.http 503 "runtime did not stop; skip was not applied")⟩
    else if out.commitRaises then ⟨w', true, false, some persistenceFailed⟩
    else match commitSkipPlayingItem st itemId w'.engine with
      | (engine, .ok) => ⟨{ w' with engine := engine }, true, true, none⟩
      | _ => ⟨w', true, false, some queueChanged⟩

/-- `_restart_prior_runtime`. -/
def restartPriorRuntime (prior : String) : World × Bool :=
  let inputUri := String.ofList (PythonText.strip prior.toList)
  if inputUri = "" then (w, false)
  else
    let w' := if out.restart.done then
        { w with
          runtime := ⟨true, inputUri⟩
          restarted := inputUri :: w.restarted }
      else w
    (w', !out.restart.raises && !out.restartCheckRaises && w'.runtime.running)

/-- `_resume_scheduler`. -/
def resumeScheduler : World × Bool :=
  let w' := if out.resume.done then { w with scheduler := true } else w
  (w', !out.resume.raises && !out.resumeStatusRaises && w'.scheduler)

/-- What follows an attempt that failed. -/
def compensate (prior : String) (a : Attempt) (failure : Reply) : World × Reply :=
  let r := if a.runtimeStopped then restartPriorRuntime out a.world prior else (a.world, true)
  if !r.2 then
    (r.1, .http 503
      "skip was not persisted; prior runtime recovery failed and station is safely stopped")
  else
    let r' := resumeScheduler out r.1
    if !r'.2 then
      (r'.1, .http 503
        "skip was not persisted; scheduler recovery failed and station is safely stopped")
    else (r'.1, failure)

def operatorSkipCurrent : World × Reply :=
  if out.schedulerStatusRaises then (w, .raised)
  else if !w.scheduler then
    (w, .http 409 "scheduler is not running; current audio cannot be skipped safely")
  else
    let w₁ := if out.schedulerStop.done then { w with scheduler := false } else w
    if out.schedulerStop.raises then (w₁, .raised)
    else if w₁.scheduler then (w₁, .http 409 "scheduler did not stop; skip was not attempted")
    else if out.runtimeStatusRaises then (w₁, .raised)
    else
      let prior := w₁.runtime.activeInputUri
      let a := attempt digest out st itemId expected w₁
      if out.closeRaises then (a.world, .raised)
      else match a.failure with
        | some failure => compensate out prior a failure
        | none =>
          let r := resumeScheduler out a.world
          if !r.2 then
            (r.1, .http 503
              "skip persisted but scheduler resume failed; station left safely stopped")
          else (r.1, .ok itemId r.1.scheduler)

end Skip

/-! ### What the call leaves behind -/

/-- The row is done, and the old input was not started again. -/
def Skipped (itemId : ℤ) (w w' : World) : Prop :=
  (∃ q, w.engine.queueItems[itemId]? = some q ∧ q.status = .playing ∧
    w'.engine.queueItems[itemId]? = some { q with status := .done }) ∧
  w'.restarted = w.restarted

/-- The runtime plays the input it played before. -/
def PlaysPrior (w w' : World) : Prop :=
  w'.runtime.running = true ∧
    PythonText.strip w'.runtime.activeInputUri.toList =
      PythonText.strip w.runtime.activeInputUri.toList

instance (w w' : World) : Decidable (PlaysPrior w w') := by
  unfold PlaysPrior
  infer_instance

/-- A runtime stop that raises, or after which the check raises, has left the runtime alone. -/
def StopIsHonest (out : Outside) : Prop :=
  out.runtimeStop.raises = true ∨ out.secondCheckRaises = true → out.runtimeStop.done = false

variable {digest : String → String} {out : Outside} {st itemId : ℤ} {expected : String}
  {w : World} {prior : String}

lemma commitSkipPlayingItem_ok {s s' : Engine}
    (h : commitSkipPlayingItem st itemId s = (s', .ok)) :
    ∃ q, s.queueItems[itemId]? = some q ∧ q.status = .playing ∧
      s'.queueItems[itemId]? = some { q with status := .done } := by
  unfold commitSkipPlayingItem at h
  split at h
  · next hplaying =>
      obtain ⟨q, hq, hrow⟩ := (Option.any_eq_true ..).mp hplaying
      obtain rfl := (Prod.mk.inj h).1
      have hstatus : q.stationId = st ∧ q.status = .playing := by simpa using hrow
      refine ⟨q, hq, hstatus.2, ?_⟩
      show ((s.queueItems.modify itemId _)[itemId]?) = _
      rw [lookup_modify, if_pos rfl, hq]
      rfl
  · cases (Prod.mk.inj h).2

/-- What an attempt leaves: the row is done, or nothing is written, and the runtime is dead
only where the attempt says that it stopped it. -/
inductive Attempted (itemId : ℤ) (w : World) (a : Attempt) : Prop
  | skipped (failure : a.failure = none) (row : Skipped itemId w a.world)
  | failed (failure : a.failure.isSome = true) (engine : a.world.engine = w.engine)
      (runtime : a.runtimeStopped = false → a.world.runtime = w.runtime)
      (stopped : a.runtimeStopped = true → a.world.runtime.running = false)

lemma attempt_spec (h : StopIsHonest out) :
    Attempted itemId w (attempt digest out st itemId expected w) := by
  unfold attempt
  split
  · exact .failed rfl rfl (fun _ => rfl) nofun
  split
  · exact .failed rfl rfl (fun _ => rfl) nofun
  split
  · exact .failed rfl rfl (fun _ => rfl) nofun
  split
  · exact .failed rfl rfl (fun _ => rfl) nofun
  have hengine : (stopRuntime out w).engine = w.engine := by
    unfold stopRuntime
    split <;> rfl
  dsimp only
  split
  · next hraise =>
      have hdone := h (by simpa using hraise)
      refine .failed rfl hengine (fun _ => ?_) nofun
      simp [stopRuntime, hdone]
  split
  · next hrun =>
      refine .failed rfl hengine (fun _ => ?_) nofun
      unfold stopRuntime at hrun ⊢
      split
      · next hdone => simp [hdone] at hrun
      · rfl
  next hdead =>
  have hdead' : (stopRuntime out w).runtime.running = false := by simpa using hdead
  split
  · exact .failed rfl hengine nofun fun _ => hdead'
  split
  · next engine hcommit =>
      refine .skipped rfl ⟨?_, ?_⟩
      · rw [hengine] at hcommit
        exact commitSkipPlayingItem_ok hcommit
      · show (stopRuntime out w).restarted = w.restarted
        unfold stopRuntime
        split <;> rfl
  · exact .failed rfl hengine nofun fun _ => hdead'

lemma resumeScheduler_world (out : Outside) (w : World) :
    (resumeScheduler out w).1.engine = w.engine ∧
      (resumeScheduler out w).1.runtime = w.runtime ∧
      (resumeScheduler out w).1.restarted = w.restarted := by
  unfold resumeScheduler
  dsimp only
  split <;> exact ⟨rfl, rfl, rfl⟩

/-- A restart that succeeds leaves the runtime with the input it is given. -/
lemma restartPriorRuntime_ok (h : (restartPriorRuntime out w prior).2 = true)
    (hdead : w.runtime.running = false) :
    (restartPriorRuntime out w prior).1.runtime =
      ⟨true, String.ofList (PythonText.strip prior.toList)⟩ := by
  unfold restartPriorRuntime at h ⊢
  dsimp only at h ⊢
  split at h
  · cases h
  · next hne =>
      rw [if_neg hne]
      by_cases hdone : out.restart.done = true
      · simp [hdone]
      · simp [hdone, hdead] at h

lemma restartPriorRuntime_world (out : Outside) (w : World) (prior : String) :
    (restartPriorRuntime out w prior).1.engine = w.engine ∧
      (restartPriorRuntime out w prior).1.scheduler = w.scheduler := by
  unfold restartPriorRuntime
  dsimp only
  split
  · exact ⟨rfl, rfl⟩
  · dsimp only
    split <;> exact ⟨rfl, rfl⟩

lemma attempt_scheduler :
    (attempt digest out st itemId expected w).world.scheduler = w.scheduler := by
  have hstop : (stopRuntime out w).scheduler = w.scheduler := by
    unfold stopRuntime
    split <;> rfl
  unfold attempt
  dsimp only
  repeat' split
  all_goals first | rfl | exact hstop

/-- What the call promises: the row is done and the old input was not started again, or nothing
is written, and the runtime plays its old input, or the scheduler does not run, or the runtime
had been dead before the call and was left alone. -/
def Safe (itemId : ℤ) (w w' : World) : Prop :=
  Skipped itemId w w' ∨ (w'.engine = w.engine ∧ (PlaysPrior w w' ∨ w'.scheduler = false ∨
    (w.runtime.running = false ∧ w'.runtime = w.runtime)))

/-- A runtime that was left alone plays what it played, if it played. -/
lemma safe_of_same {w' : World} (hengine : w'.engine = w.engine)
    (hruntime : w'.runtime = w.runtime) : Safe itemId w w' := by
  refine .inr ⟨hengine, ?_⟩
  by_cases hrun : w.runtime.running = true
  · exact .inl ⟨by rw [hruntime, hrun], by rw [hruntime]⟩
  · exact .inr (.inr ⟨by simpa using hrun, hruntime⟩)

lemma safe_of_idle {w' : World} (hengine : w'.engine = w.engine) (h : w'.scheduler = false) :
    Safe itemId w w' := .inr ⟨hengine, .inr (.inl h)⟩

lemma safe_compensate {a : Attempt} {failure : Reply} (hidle : a.world.scheduler = false)
    (hengine : a.world.engine = w.engine)
    (hruntime : a.runtimeStopped = false → a.world.runtime = w.runtime)
    (hdead : a.runtimeStopped = true → a.world.runtime.running = false) :
    Safe itemId w (compensate out w.runtime.activeInputUri a failure).1 := by
  unfold compensate
  dsimp only
  cases hstop : a.runtimeStopped with
  | false =>
    have hworld := resumeScheduler_world out a.world
    have hsafe : Safe itemId w (resumeScheduler out a.world).1 :=
      safe_of_same (hworld.1.trans hengine) (hworld.2.1.trans (hruntime hstop))
    simp only [Bool.false_eq_true, if_false, Bool.not_true]
    split <;> exact hsafe
  | true =>
    have hrestart := restartPriorRuntime_world out a.world w.runtime.activeInputUri
    simp only [if_true]
    split
    · dsimp only
      exact safe_of_idle (hrestart.1.trans hengine) (hrestart.2.trans hidle)
    · next hok =>
        have hruns : (restartPriorRuntime out a.world w.runtime.activeInputUri).1.runtime =
            ⟨true, String.ofList (PythonText.strip w.runtime.activeInputUri.toList)⟩ :=
          restartPriorRuntime_ok (by simpa using hok) (hdead hstop)
        have hworld := resumeScheduler_world out
          (restartPriorRuntime out a.world w.runtime.activeInputUri).1
        have hsafe : Safe itemId w (resumeScheduler out
            (restartPriorRuntime out a.world w.runtime.activeInputUri).1).1 := by
          refine .inr ⟨hworld.1.trans (hrestart.1.trans hengine), .inl ⟨?_, ?_⟩⟩
          · rw [hworld.2.1, hruns]
          · rw [hworld.2.1, hruns, String.toList_ofList, TextFields.strip_strip]
        split <;> exact hsafe

/-- **A skip leaves no dead row.** For every state and every pattern of failures in which a
runtime stop that raises leaves the runtime alone: when the call returns or raises, it is safe. -/
theorem operatorSkipCurrent_safe (h : StopIsHonest out) :
    Safe itemId w (operatorSkipCurrent digest out st itemId expected w).1 := by
  unfold operatorSkipCurrent
  split
  · exact safe_of_same rfl rfl
  split
  · exact safe_of_same rfl rfl
  generalize hw₁ : (if out.schedulerStop.done then { w with scheduler := false } else w) = w₁
  have hsame : w₁.engine = w.engine ∧ w₁.runtime = w.runtime ∧ w₁.restarted = w.restarted := by
    subst hw₁
    split <;> exact ⟨rfl, rfl, rfl⟩
  dsimp only
  split
  · exact safe_of_same hsame.1 hsame.2.1
  split
  · exact safe_of_same hsame.1 hsame.2.1
  split
  · exact safe_of_same hsame.1 hsame.2.1
  next hidle hstatus =>
  have hidle' : w₁.scheduler = false := by simpa using hidle
  have hsched : (attempt digest out st itemId expected w₁).world.scheduler = false :=
    attempt_scheduler.trans hidle'
  have hspec : Attempted itemId w₁ (attempt digest out st itemId expected w₁) := attempt_spec h
  rw [hsame.2.1]
  revert hspec hsched
  generalize attempt digest out st itemId expected w₁ = a
  intro hsched hspec
  cases hspec with
  | skipped hfailure hrow =>
    have hskip : Skipped itemId w a.world := by
      obtain ⟨hq, hrestarted⟩ := hrow
      exact ⟨by rwa [hsame.1] at hq, hrestarted.trans hsame.2.2⟩
    have hworld := resumeScheduler_world out a.world
    have hresumed : Skipped itemId w (resumeScheduler out a.world).1 := by
      obtain ⟨hq, hrestarted⟩ := hskip
      exact ⟨by rwa [hworld.1], hworld.2.2.trans hrestarted⟩
    rw [hfailure]
    split
    · exact .inl hskip
    · dsimp only
      split <;> exact .inl hresumed
  | failed hfailure hengine hruntime hdead =>
    obtain ⟨failure, hf⟩ := Option.isSome_iff_exists.mp hfailure
    rw [hf]
    split
    · exact safe_of_idle (hengine.trans hsame.1) hsched
    · exact safe_compensate hsched (hengine.trans hsame.1)
        (fun hstop => (hruntime hstop).trans hsame.2.1) hdead

/-! ### Two calls -/

/-- Everything works. -/
def allWell : Outside :=
  ⟨false, ⟨true, false⟩, false, false, false, ⟨true, false⟩, false, false, false, ⟨true, false⟩,
    false, ⟨true, false⟩, false⟩

def onePlaying (runtime : Runtime) : World :=
  { engine := { Engine.empty with
      queueItems := (∅ : Table QueueItem).insert 5 ⟨1, 9, 1, .playing, none, none⟩ }
    runtime := runtime
    scheduler := true
    restarted := [] }

theorem operatorSkipCurrent_safe_commitFails :
    Safe 5 (onePlaying ⟨true, "a.mp3"⟩)
      (operatorSkipCurrent id { allWell with commitRaises := true } 1 5
        (activeRevision id (listActiveOrdered 1 (onePlaying ⟨true, "a.mp3"⟩).engine))
        (onePlaying ⟨true, "a.mp3"⟩)).1 :=
  operatorSkipCurrent_safe (by unfold StopIsHonest; decide)

/-- **A dead row that stays.** The runtime has died under a playing row: the skip is refused, and
the scheduler runs again beside the playing row and the dead runtime. -/
theorem deadRuntime_stays_dead :
    let w := onePlaying ⟨false, "a.mp3"⟩
    let w' := (operatorSkipCurrent id allWell 1 5
      (activeRevision id (listActiveOrdered 1 w.engine)) w).1
    ¬ (Skipped 5 w w' ∨ (w'.engine.queueItems[(5 : ℤ)]? = w.engine.queueItems[(5 : ℤ)]? ∧
      (PlaysPrior w w' ∨ w'.scheduler = false))) := by
  intro w w'
  have hrow : (w'.engine.queueItems[(5 : ℤ)]?.any fun q => decide (q.status = .playing)) =
      true := by
    decide +kernel
  have hidle : decide (PlaysPrior w w' ∨ w'.scheduler = false) = false := by decide +kernel
  rintro (⟨⟨q, -, -, hdone⟩, -⟩ | ⟨-, hsafe⟩)
  · rw [hdone] at hrow
    simp at hrow
  · exact of_decide_eq_false hidle hsafe

end OnAir.OperatorSkip
