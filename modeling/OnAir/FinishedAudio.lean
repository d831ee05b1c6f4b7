import OnAir.OutputHealth
import OnAir.StationWorker

/-!
Whether the end of a program is noticed by the worker.

The worker takes a playback as over when no required output is reported healthy and the program
does not run. A local player and a live mix are healthy only as long as the program runs. Where
an Icecast sink is fed, or a pipeline carries all outputs, an output stays healthy after the
program has ended, and the worker waits for it.
-/

namespace OnAir.FinishedAudio

open OutputHealth PlayoutTables Programs Runs
open WorkerEnv (Env RuntimeStatus Worker WorkerM broadcastQueue playbackAlive)
open StationRuntime (Cfg Outcome Backend Role)
open StationWorker (Session endShowSession handleShowAudioState processShowLifecycle)
open PlayoutAdvance (advanceHostTrack)

variable {s t : Station} {cfg : Cfg} {b : Branch} {P : Station → Prop} {α : Type}

/-! ### The sinks of the runtime -/

/-- The backends that feed sinks. -/
def FeedsSinks (s : Station) : Prop := s.backend = .ffmpeg ∨ s.backend = .ffmpegTransition

/-- An output that is on has a sink, where the backend feeds sinks. -/
def Fed (s : Station) : Prop := FeedsSinks s → ∀ b, s.router b = true → (s.sinks b).isSome

/-- In a call: the sinks that it has found to work are there. -/
structure Ready (icecast loc : Bool) (s : Station) : Prop where
  registered : s.registered = true
  fed : Fed s
  icecast : icecast = true → (s.sinks .icecast).isSome
  loc : loc = true → (s.sinks .local).isSome

/-- Between the calls. -/
structure Sound (s : Station) : Prop where
  registered : s.process.isSome → s.registered = true
  fed : Fed s

lemma ends_answer (hP : ∀ s a, P s → P { s with answers := a }) (h : P s) :
    Ends answer s (fun _ => P) P := hP s _ h

lemma ends_ask (hP : ∀ s a, P s → P { s with answers := a }) (h : P s) :
    Ends ask s (fun _ => P) P := hP s _ h

lemma ends_spawn (hP : ∀ s a, P s → P { s with answers := a }) (h : P s) :
    Ends spawn s (fun _ => P) P := by
  refine (ends_answer hP h).bind fun w t ht => ?_
  cases w with
  | ok => exact ht
  | missing => exact ht
  | failed => exact ht

lemma ready_answers {i l : Bool} (s : Station) (a : List Outcome) (h : Ready i l s) :
    Ready i l { s with answers := a } := ⟨h.registered, h.fed, h.icecast, h.loc⟩

lemma isSome_sinks_update {x : Branch} {sinks : Branch → Option Bool} {r : Bool}
    (h : (sinks x).isSome) : (Function.update sinks b (some r) x).isSome := by
  rw [Function.update_apply]
  split_ifs
  · rfl
  · exact h

/-- A sink is there, and its flag is set. -/
lemma ready_ensured {i l : Bool} (h : Ready i l s) (r flag : Bool) :
    Ready i l (setBranchHealth b (setSink b s (some r)) flag) where
  registered := h.registered
  fed hbackend x hx := by
    by_cases hb : x = b
    · subst hb
      simp [setBranchHealth, setSink]
    · refine isSome_sinks_update (h.fed hbackend x ?_)
      simpa [setBranchHealth, setSink, Function.update_of_ne hb] using hx
  icecast hi := isSome_sinks_update (h.icecast hi)
  loc hl := isSome_sinks_update (h.loc hl)

lemma ready_setSink {i l : Bool} (h : Ready i l s) (r : Bool) :
    Ready i l (setSink b s (some r)) where
  registered := h.registered
  fed hbackend x hx := isSome_sinks_update (h.fed hbackend x hx)
  icecast hi := isSome_sinks_update (h.icecast hi)
  loc hl := isSome_sinks_update (h.loc hl)

/-- A sink was found to work. -/
lemma ready_found {i l : Bool} (h : Ready i l s) (hb : (s.sinks b).isSome) :
    Ready (i || b = .icecast) (l || b = .local) s where
  registered := h.registered
  fed := h.fed
  icecast hi := by
    rcases (Bool.or_eq_true _ _).mp hi with hi | hi
    · exact h.icecast hi
    · rwa [of_decide_eq_true hi] at hb
  loc hl := by
    rcases (Bool.or_eq_true _ _).mp hl with hl | hl
    · exact h.loc hl
    · rwa [of_decide_eq_true hl] at hb

lemma ensureIcecastSink_ready {i l : Bool} (h : Ready i l s) :
    Ends (ensureIcecastSink cfg) s (fun r => Ready (i || r) l) (Ready i l) := by
  unfold ensureIcecastSink
  rw [ends_bind, ends_get]
  refine Ends.ite (fun _ => by simpa using h) fun _ =>
    (ends_ask ready_answers h).bind fun ok t ht => Ends.ite (fun _ => ?_) fun _ => ?_
  · have hready := ready_ensured (b := .icecast) ht true true
    have hfound := ready_found (b := .icecast) hready (by simp [setBranchHealth, setSink])
    rw [ends_bind, ends_modify, ends_pure]
    simpa using hfound
  · rw [ends_bind, ends_modify, ends_pure]
    simpa using ready_ensured (b := .icecast) ht false false

lemma ensureLocalSink_ready {i l : Bool} (h : Ready i l s) :
    Ends (ensureLocalSink cfg) s (fun r => Ready i (l || r)) (Ready i l) := by
  unfold ensureLocalSink
  rw [ends_bind, ends_get]
  refine Ends.ite (fun _ => by simpa using h) fun _ =>
    (ends_answer ready_answers h).bind fun w t ht => ?_
  cases w with
  | ok =>
    have hready := ready_ensured (b := .local) ht true true
    have hfound := ready_found (b := .local) hready (by simp [setBranchHealth, setSink])
    rw [ends_bind, ends_modify, ends_pure]
    simpa using hfound
  | missing =>
    rw [ends_bind, ends_modify, ends_pure]
    simpa using ready_ensured (b := .local) ht false false
  | failed => exact ready_setSink ht _

/-! ### Producers -/

/-- Both flags are set, each only if its sink is there, whatever the backend is then. -/
lemma ready_setBranches {i l : Bool} (h : Ready i l s) {s' : Station}
    (hregistered : s'.registered = s.registered) (hsinks : s'.sinks = s.sinks) :
    Ready i l (setBranches s' i l) where
  registered := hregistered.trans h.registered
  fed _ x hx := by
    change (s'.sinks x).isSome
    rw [hsinks]
    cases x with
    | icecast => exact h.icecast (by simpa [setBranches, setBranchHealth] using hx)
    | «local» => exact h.loc (by simpa [setBranches, setBranchHealth] using hx)
  icecast hi := by
    change (s'.sinks .icecast).isSome
    rw [hsinks]
    exact h.icecast hi
  loc hl := by
    change (s'.sinks .local).isSome
    rw [hsinks]
    exact h.loc hl

lemma Ready.weaken {i l i' l' : Bool} (h : Ready i l s) (hi : i' = true → i = true)
    (hl : l' = true → l = true) : Ready i' l' s :=
  ⟨h.registered, h.fed, fun hi' => h.icecast (hi hi'), fun hl' => h.loc (hl hl')⟩

/-- What was found is not needed any more. -/
lemma Ready.forget {i l : Bool} (h : Ready i l s) : Ready false false s :=
  h.weaken (fun hi => by cases hi) fun hl => by cases hl

/-- A backend that feeds no sinks. -/
lemma ready_of_backend (hregistered : s.registered = true) (hbackend : ¬ FeedsSinks s) :
    Ready false false s :=
  ⟨hregistered, fun h => absurd h hbackend, fun hi => (by cases hi), fun hl => (by cases hl)⟩

lemma spawnProducer_ready {i l : Bool} (h : Ready i l s) :
    Ends spawnProducer s (fun _ => Ready i l) (Ready i l) := by
  unfold spawnProducer
  rw [ends_bind, ends_get]
  exact Ends.ite (fun _ => h) fun _ => ends_spawn ready_answers h

lemma spawnIcecastPcmProducer_ready {i l : Bool} (h : Ready i l s) :
    Ends (spawnIcecastPcmProducer cfg) s (fun _ => Ready true l) (Ready i l) := by
  refine (ensureIcecastSink_ready h).bind fun r t ht => ?_
  have hkept : Ready i l t := ht.weaken (by simp +contextual) id
  refine Ends.ite (fun _ => hkept) fun hr => ?_
  obtain rfl : r = true := by simpa using hr
  rw [ends_bind, ends_get]
  refine Ends.ite (fun _ => hkept) fun _ => ?_
  refine (ends_spawn ready_answers ht).mono (fun _ _ h => ?_) fun _ h => ?_
  · simpa using h
  · exact h.weaken (by simp) id

lemma spawnLocalPcmProducer_ready {i l : Bool} (h : Ready i l s) :
    Ends (spawnLocalPcmProducer cfg) s (fun _ => Ready i true) (Ready i l) := by
  refine (ensureLocalSink_ready h).bind fun r t ht => ?_
  have hkept : Ready i l t := ht.weaken id (by simp +contextual)
  refine Ends.ite (fun _ => hkept) fun hr => ?_
  obtain rfl : r = true := by simpa using hr
  rw [ends_bind, ends_get]
  refine Ends.ite (fun _ => hkept) fun _ => ?_
  refine (ends_spawn ready_answers ht).mono (fun _ _ h => ?_) fun _ h => ?_
  · simpa using h
  · exact h.weaken id (by simp)

/-- Between the steps of a call, whatever sinks it has found. -/
abbrev Steady (s : Station) : Prop := Ready false false s

lemma launchLiveMixState_steady (h : Steady s) :
    Ends (launchLiveMixState cfg) s (fun _ => Steady) Steady := by
  unfold launchLiveMixState
  refine Ends.ite (fun _ => h) fun _ => ?_
  refine (ensureIcecastSink_ready h).bind fun i t ht => ?_
  refine ((ensureLocalSink_ready ht).mono (fun _ _ h => h) fun _ h => h.forget).bind
    fun l u hu => ?_
  refine Ends.ite (fun _ => hu.forget) fun _ => ?_
  rw [ends_bind, ends_modify]
  have hdropped : Steady { u with localProcess := none } :=
    ⟨hu.registered, hu.fed, fun hi => (by cases hi), fun hl => (by cases hl)⟩
  refine (spawnProducer_ready hdropped).bind fun _ v hv => ?_
  exact ready_of_backend hv.registered (by simp [FeedsSinks, setBranches, setBranchHealth])

lemma launchGst_steady {atOffset : Bool} (h : Steady s) :
    Ends (launchGst cfg atOffset) s (fun _ => Steady) Steady := by
  unfold launchGst
  refine Ends.ite (fun _ => h) fun _ => (ends_answer ready_answers h).bind fun w t ht => ?_
  cases w with
  | ok => exact ready_of_backend ht.registered (by simp [FeedsSinks, setBranches, setBranchHealth])
  | missing => exact ht
  | failed => exact ht

lemma launchIcecast_ready {l : Bool} (h : Ready true l s) :
    Ready true false (launchIcecast cfg s) := by
  have hfound : Ready true false s := h.weaken id (by simp)
  have hset := ready_setBranches hfound (show ({ setProcess s with
    backend := .ffmpeg
    activeCfg := some cfg } : Station).registered = s.registered from rfl) rfl
  exact hset

lemma ready_on {i l : Bool} (h : Ready i l s) (hb : (s.sinks b).isSome) :
    Ready i l (setBranchHealth b s true) where
  registered := h.registered
  fed hbackend x hx := by
    by_cases hxb : x = b
    · subst hxb
      exact hb
    · exact h.fed hbackend x (by simpa [setBranchHealth, Function.update_of_ne hxb] using hx)
  icecast := h.icecast
  loc := h.loc

lemma ready_off {i l : Bool} (h : Ready i l s) : Ready i l (setBranchHealth b s false) where
  registered := h.registered
  fed hbackend x hx := by
    by_cases hxb : x = b
    · subst hxb
      simp [setBranchHealth] at hx
    · exact h.fed hbackend x (by simpa [setBranchHealth, Function.update_of_ne hxb] using hx)
  icecast := h.icecast
  loc := h.loc

/-! ### Calls -/

lemma launchMonitor_ready (h : Ready true false s) :
    Ends (launchMonitor cfg) s (fun _ => Steady) (Ready true false) := by
  refine (spawnLocalPcmProducer_ready h).bind fun _ t ht => ?_
  have hstarted : Ready true true { t with localProcess := some true } :=
    ⟨ht.registered, ht.fed, ht.icecast, ht.loc⟩
  exact (ready_on hstarted (ht.loc rfl)).forget

lemma launchBeside_steady {l : Bool} (h : Ready true l s) :
    Ends (launchBeside cfg l) s (fun _ => Steady) Steady := by
  refine ((spawnIcecastPcmProducer_ready h).mono (fun _ _ h => h) fun _ h => h.forget).bind
    fun _ t ht => ?_
  rw [ends_bind, ends_modify]
  have hfed : Ready true false (launchIcecast cfg t) := launchIcecast_ready ht
  refine Ends.ite (fun _ => ?_) fun _ => hfed.forget
  refine Ends.tryCatch (launchMonitor_ready hfed) fun _ u hu => ?_
  have hdropped : Ready true false { u with localProcess := none } :=
    ⟨hu.registered, hu.fed, hu.icecast, hu.loc⟩
  exact (ready_off hdropped).forget

lemma launchLocal_steady (h : Steady s) : Ends (launchLocal cfg) s (fun _ => Steady) Steady := by
  refine ((spawnLocalPcmProducer_ready h).mono (fun _ _ h => h) fun _ h => h).bind fun _ t ht => ?_
  exact ready_of_backend ht.registered (by simp [FeedsSinks, setBranches, setBranchHealth])

lemma launchFfmpeg_steady (h : Steady s) :
    Ends (launchFfmpeg cfg) s (fun _ => Steady) Steady := by
  refine (ensureIcecastSink_ready h).bind fun i t ht => ?_
  refine ((ensureLocalSink_ready ht).mono (fun _ _ h => h) fun _ h => h.forget).bind
    fun l u hu => ?_
  rw [ends_bind, ends_modify]
  have hdropped : Ready i l { u with localProcess := none } :=
    ⟨hu.registered, hu.fed, by simpa using hu.icecast, by simpa using hu.loc⟩
  refine Ends.ite (fun _ => Ends.ite (fun _ => hdropped.forget) fun hi => ?_) fun _ => ?_
  · obtain rfl : i = true := by simpa using hi
    exact launchBeside_steady hdropped
  · rw [ends_bind, ends_get]
    exact Ends.ite (fun _ => hdropped.forget) fun _ => launchLocal_steady hdropped.forget

lemma launchIcecastOnly_ready (h : Steady s) :
    Ends (launchIcecastOnly cfg) s (fun _ => Ready true false) Steady := by
  refine (ensureIcecastSink_ready h).bind fun i t ht => ?_
  refine Ends.ite (fun _ => ht.forget) fun _ => ?_
  exact spawnIcecastPcmProducer_ready ht.forget

lemma clearProgram_steady (h : s.registered = true) : Steady (clearProgram s) :=
  ready_of_backend h (by simp [FeedsSinks, clearProgram, setBranches, setBranchHealth])

lemma clearActive_steady (h : s.registered = true) : Steady (clearActive s) :=
  ready_of_backend h (by simp [FeedsSinks, clearActive, clearProgram, setBranches, setBranchHealth])

lemma launchSteadyState_steady {atOffset : Bool} (h : Steady s) :
    Ends (launchSteadyState cfg atOffset) s (fun _ => Steady) Steady := by
  unfold launchSteadyState
  refine Ends.ite (fun _ => h) fun _ => Ends.ite (fun _ => ?_) fun _ => ?_
  · refine Ends.bind (Ends.tryCatch (launchIcecastOnly_ready h) fun e t ht => ?_) fun _ t ht => ?_
    · exact clearProgram_steady ht.registered
    · exact (launchIcecast_ready ht).forget
  · refine (launchGst_steady h).bind fun started t ht => ?_
    exact Ends.ite (fun _ => ht) fun _ => launchFfmpeg_steady ht

lemma releaseDisabledSinks_steady (h : s.registered = true) :
    Steady (releaseDisabledSinks cfg (clearActive s)) := by
  have hbackend : ∀ t : Station, t.backend = .none → ¬ FeedsSinks t := by
    simp +contextual [FeedsSinks]
  unfold releaseDisabledSinks
  split_ifs
  · exact clearActive_steady h
  · exact ready_of_backend h (hbackend _ rfl)
  · exact ready_of_backend h (hbackend _ rfl)
  · exact ready_of_backend h (hbackend _ rfl)

lemma restartWith_steady {atOffset : Bool} (h : Steady s) :
    Ends (restartWith cfg atOffset) s (fun _ => Steady) Steady := by
  unfold restartWith
  rw [ends_bind, ends_modify, ends_bind, ends_modify]
  refine (ends_ask ready_answers (releaseDisabledSinks_steady h.registered)).bind fun mix t ht => ?_
  exact Ends.ite (fun _ => launchLiveMixState_steady ht) fun _ => launchSteadyState_steady ht

lemma startTransition_ready {i l : Bool} (h : Ready i l s) :
    Ends (startTransition i l) s (fun _ => Ready i l) (Ready i l) := by
  unfold startTransition
  refine Ends.ite (fun _ => ?_) fun _ => Ends.ite (fun _ => ?_) fun _ => h
  · refine (spawnProducer_ready h).bind fun _ t ht => Ends.ite (fun _ => ?_) fun _ => ht
    exact (spawnProducer_ready ht).bind fun _ u hu => hu
  · exact (spawnProducer_ready h).bind fun _ t ht => ht

lemma swapProducers_steady {i l : Bool} (h : Ready i l s) :
    Ends (swapProducers cfg i l) s (fun _ => Steady) Steady := by
  unfold swapProducers
  rw [ends_bind, ends_modify]
  have hdropped : Ready i l { s with
      process := none
      localProcess := none } := ⟨h.registered, h.fed, h.icecast, h.loc⟩
  refine ((startTransition_ready hdropped).mono (fun _ _ h => h) fun _ h => h.forget).bind
    fun p t ht => ?_
  have hset := ready_setBranches ht (show ({ setProcess t with
    localProcess := p
    backend := .ffmpegTransition
    activeCfg := some cfg } : Station).registered = t.registered from rfl) rfl
  exact hset.forget

lemma startCrossfade_steady (h : Steady s) :
    Ends (startCrossfade cfg) s (fun _ => Steady) Steady := by
  unfold startCrossfade
  rw [ends_bind, ends_get]
  refine Ends.ite (fun _ => h) fun _ => ?_
  refine (ensureIcecastSink_ready h).bind fun i t ht => ?_
  refine ((ensureLocalSink_ready ht).mono (fun _ _ h => h) fun _ h => h.forget).bind
    fun l u hu => ?_
  have hready : Ready i l u := by simpa using hu
  refine Ends.ite (fun _ => hready.forget) fun _ => Ends.ite (fun _ => hready.forget) fun _ => ?_
  exact Ends.tryCatch (swapProducers_steady hready) fun e v hv => clearActive_steady hv.registered

lemma replace_steady {atOffset mix : Bool} (h : Steady s) :
    Ends (replace cfg atOffset mix) s (fun _ => Steady) Steady := by
  unfold replace
  rw [ends_bind, ends_get]
  refine Ends.ite (fun _ => ?_) fun _ => ?_
  · rw [ends_bind, ends_modify]
    have hset : Steady { s with activeCfg := some cfg } := ⟨h.registered, h.fed, h.icecast, h.loc⟩
    refine Ends.ite (fun _ => restartWith_steady hset) fun _ => Ends.ite (fun _ => ?_) fun _ => hset
    exact (ends_ask ready_answers hset).bind fun offset t ht => restartWith_steady ht
  refine Ends.ite (fun _ => restartWith_steady h) fun _ => Ends.ite (fun _ => ?_) fun _ =>
    restartWith_steady h
  have hsupported : Ends (transitionBackendSupported cfg) s (fun _ => Steady) Steady := by
    unfold transitionBackendSupported
    rw [ends_bind, ends_get]
    refine Ends.ite (fun _ => h) fun _ => Ends.ite (fun _ => h) fun _ => ?_
    exact (ends_ask ready_answers h).bind fun active t ht => ht
  refine hsupported.bind fun supported t ht => Ends.ite (fun _ => ?_) fun _ => restartWith_steady ht
  exact Ends.tryCatch (startCrossfade_steady ht) fun e u hu => restartWith_steady hu

lemma clearEnded_steady (h : Steady s) : Steady (clearEnded cfg s) := by
  unfold clearEnded
  split_ifs
  · exact releaseDisabledSinks_steady h.registered
  · exact h

lemma start_steady {atOffset : Bool} (h : Steady s) :
    Ends (start cfg atOffset) s (fun _ => Steady) Steady := by
  refine (ends_ask ready_answers h).bind fun ffmpeg t ht => ?_
  refine (ends_ask ready_answers ht).bind fun ffplay u hu => ?_
  rw [ends_bind, ends_modify]
  have hbins : Steady { u with
      ffmpegBin := ffmpeg
      ffplayBin := ffplay } := ⟨hu.registered, hu.fed, hu.icecast, hu.loc⟩
  refine (ends_ask ready_answers hbins).bind fun mix v hv => ?_
  rw [ends_bind, ends_get]
  refine Ends.ite (fun _ => replace_steady hv) fun _ => ?_
  rw [ends_bind, ends_modify]
  have hcleared : Steady (clearEnded cfg v) := clearEnded_steady hv
  exact Ends.ite (fun _ => launchLiveMixState_steady hcleared) fun _ =>
    launchSteadyState_steady hcleared

lemma recoverOutputs_steady (h : Steady s) :
    Ends recoverOutputs s (fun _ => Steady) Steady := by
  unfold recoverOutputs
  rw [ends_bind, ends_get]
  cases s.activeCfg with
  | none => exact h
  | some cfg => exact (ends_ask ready_answers h).bind fun offset t ht => restartWith_steady ht

/-! ### Runs -/

lemma Ready.sound {i l : Bool} (h : Ready i l s) : Sound s := ⟨fun _ => h.registered, h.fed⟩

lemma sound_startStation {extraMounts : List String} {atOffset : Bool} {answers : List Outcome}
    (h : Sound s) : Sound (made (startStation cfg extraMounts atOffset) answers s) := by
  have hready : Steady { s with
      answers := answers
      registered := true } := ⟨rfl, h.fed, fun hi => (by cases hi), fun hl => (by cases hl)⟩
  have hend : Ends (startStation cfg extraMounts atOffset) { s with answers := answers }
      (fun _ => Steady) Steady := by
    unfold startStation
    rw [ends_bind, ends_modify]
    refine (start_steady hready).bind fun _ t ht => ?_
    exact ⟨ht.registered, ht.fed, ht.icecast, ht.loc⟩
  have hfinal := hend.final
  exact ⟨fun _ => hfinal.registered, hfinal.fed⟩

lemma sound_recoverStation {answers : List Outcome} (h : Sound s) :
    Sound (made recoverStation answers s) := by
  by_cases hreg : s.registered = true
  · have hready : Steady { s with answers := answers } :=
      ⟨hreg, h.fed, fun hi => (by cases hi), fun hl => (by cases hl)⟩
    have hend : Ends recoverStation { s with answers := answers } (fun _ => Steady) Steady := by
      unfold recoverStation
      rw [ends_bind, ends_get]
      refine Ends.ite (fun _ => ?_) fun _ => hready
      exact Ends.tryCatch (recoverOutputs_steady hready) fun _ t ht => ht
    have hfinal := hend.final
    exact ⟨fun _ => hfinal.registered, hfinal.fed⟩
  · have hsame : Ends recoverStation { s with answers := answers } (fun _ => Sound) Sound := by
      unfold recoverStation
      rw [ends_bind, ends_get]
      exact Ends.ite (fun hs => absurd hs hreg) fun _ => ⟨h.registered, h.fed⟩
    have hfinal := hsame.final
    exact ⟨hfinal.registered, hfinal.fed⟩

lemma sound_stopStation (h : Sound s) : Sound (stopStation s) := by
  unfold stopStation
  split_ifs with hreg
  · exact ⟨fun _ => hreg, fun hbackend => by
      simp [FeedsSinks, stopSinks, clearActive, clearProgram, setBranches, setBranchHealth,
        OutputHealth.setSink] at hbackend⟩
  · exact h

/-- **What every event keeps.** Outputs that are on have their sinks, where sinks are fed. -/
theorem sound_step (h : Sound s) (e : Event) (ht : step s e = some t) : Sound t := by
  cases e with
  | startStation cfg extraMounts atOffset answers =>
    cases ht
    exact sound_startStation h
  | recoverStation answers =>
    cases ht
    exact sound_recoverStation h
  | stopStation =>
    cases ht
    exact sound_stopStation h
  | exit role =>
    cases role with
    | program =>
      cases ht
      exact ⟨fun hp => h.registered (by simpa using hp), h.fed⟩
    | monitor =>
      cases ht
      exact ⟨h.registered, h.fed⟩
  | sinkRuns b runs =>
    cases ht
    refine ⟨h.registered, fun hbackend x hx => ?_⟩
    have hsink := h.fed hbackend x hx
    by_cases hxb : x = b
    · subst hxb
      simpa [OutputHealth.setSink] using hsink
    · simpa [OutputHealth.setSink, Function.update_of_ne hxb] using hsink
  | carried b healthy =>
    obtain ⟨hhealthy, heq⟩ := Option.ite_none_left_eq_some.mp ht
    cases heq
    refine ⟨h.registered, fun hbackend x hx => ?_⟩
    by_cases hxb : x = b
    · subst hxb
      obtain rfl : healthy = true := by simpa [setBranchHealth] using hx
      have hruns : s.sinks x = some true := by simpa [sinkRunning] using hhealthy
      simp [setBranchHealth, hruns]
    · exact h.fed hbackend x (by simpa [setBranchHealth, Function.update_of_ne hxb] using hx)

/-! ### What the worker makes of the status -/

/-- The output is required of the station. -/
def Requires (s : Station) (b : Branch) : Prop :=
  (b.name, true) ∈ s.requiredOutputs.getD [("icecast", true), ("local", false)]

/-- The backend is one whose outputs end with the program, or what is required is off, or is a
local output whose own process has ended as well. -/
def EndsWithProgram (s : Station) : Prop :=
  s.backend = .liveMix ∨ s.backend = .ffmpegLocal ∨ ∀ b, Requires s b → s.router b = true →
    b = .local ∧ FeedsSinks s ∧ localMonitorProcess s ≠ some true

/-- An output that is on, after the program has ended with all sinks running. -/
lemma branchHealth_of_exited (h : Sound s) (hexited : s.process = some false)
    (hsinks : ∀ b, s.sinks b ≠ some false) (late : Bool) (b : Branch) :
    branchHealth s late b = true ↔ s.router b = true ∧ s.backend ≠ .liveMix ∧
      s.backend ≠ .ffmpegLocal ∧
      ¬(b = .local ∧ FeedsSinks s ∧ localMonitorProcess s ≠ some true) := by
  have hrunning : programRunning s = false := by simp [programRunning, hexited]
  have hsink : FeedsSinks s → s.router b = true → sinkRunning s b = true := by
    intro hbackend hb
    obtain ⟨runs, hruns⟩ := Option.isSome_iff_exists.mp (h.fed hbackend b hb)
    cases runs with
    | true => simp [sinkRunning, hruns]
    | false => exact absurd hruns (hsinks b)
  cases hbackend : s.backend <;> cases b <;>
    simp_all [branchHealth, FeedsSinks, programPcmStalled, localProgramRunning]

/-- The status tells of a required output that is healthy, or of a program that runs. -/
lemma playbackAlive_iff (hregistered : s.registered = true) (hexited : s.process = some false)
    (late : Bool) : (runtimeStatus s late).playbackAlive = true ↔
      ∃ b, Requires s b ∧ branchHealth s late b = true := by
  have hrunning : programRunning s = false := by simp [programRunning, hexited]
  simp only [RuntimeStatus.playbackAlive, runtimeStatus, hregistered, if_true, hrunning,
    Option.getD_some, Bool.or_false, List.any_eq_true, List.any_cons, List.any_nil,
    Bool.and_eq_true, Bool.or_eq_true, decide_eq_true_eq, Requires]
  constructor
  · rintro ⟨⟨name, enabled⟩, ho, henabled, ⟨hname, hhealth⟩ | ⟨hname, hhealth⟩⟩
    · dsimp only at henabled hname
      subst henabled hname
      exact ⟨.icecast, ho, hhealth⟩
    · dsimp only at henabled hname
      subst henabled hname
      exact ⟨.local, ho, hhealth⟩
  · rintro ⟨b, ho, hhealth⟩
    refine ⟨_, ho, rfl, ?_⟩
    cases b with
    | icecast => exact .inl ⟨rfl, hhealth⟩
    | «local» => exact .inr ⟨rfl, hhealth⟩

/-- The worker takes the playback as over. -/
lemma over_iff (h : Sound s) (hexited : s.process = some false)
    (hsinks : ∀ b, s.sinks b ≠ some false) (late : Bool) :
    (runtimeStatus s late).playbackAlive = false ↔ EndsWithProgram s := by
  have hregistered : s.registered = true := h.registered (by simp [hexited])
  rw [← Bool.not_eq_true, playbackAlive_iff hregistered hexited]
  simp only [branchHealth_of_exited h hexited hsinks, EndsWithProgram]
  constructor
  · intro hno
    by_cases hmix : s.backend = .liveMix
    · exact .inl hmix
    by_cases hlocal : s.backend = .ffmpegLocal
    · exact .inr (.inl hlocal)
    refine .inr (.inr fun b hrequired hon => ?_)
    by_contra hstays
    exact hno ⟨b, hrequired, hon, hmix, hlocal, hstays⟩
  · rintro hends ⟨b, hrequired, hon, hmix, hlocal, hstays⟩
    rcases hends with hmix' | hlocal' | hall
    · exact hmix hmix'
    · exact hlocal hlocal'
    · exact hstays (hall b hrequired hon)

/-! ### The phases of a tick -/

section Tick

variable {w : Worker} {env : Env} {e e' : Engine} {item id : ℤ} {r : RuntimeStatus}

/-- The queue is filled, and nothing else is touched. -/
structure BesideShows (e e' : Engine) : Prop where
  program : e'.programQueueItems = e.programQueueItems
  playout : e'.playoutState = e.playoutState
  sessions : e'.showSessions = e.showSessions

lemma besideShows_ensureFilled (j : ℤ) (e : Engine) :
    BesideShows e (BroadcastQueue.ensureFilled j e) := by
  unfold BroadcastQueue.ensureFilled BroadcastQueue.ensureReadyForPlayback
  dsimp only
  split
  · exact ⟨rfl, rfl, rfl⟩
  split
  · exact ⟨rfl, rfl, rfl⟩
  · refine inv_of_foldl (P := BesideShows e) (fun e' _ h => ?_) _ ⟨rfl, rfl, rfl⟩
    unfold enqueue
    split
    · exact h
    · exact ⟨h.program, h.playout, h.sessions⟩

lemma ends_broadcastQueue {site : WorkerEnv.Site} (e : Engine) :
    Ends (broadcastQueue w env site) e (fun _ => BesideShows e) (BesideShows e) := by
  unfold broadcastQueue
  refine Ends.ite (fun _ => besideShows_ensureFilled _ e) fun _ => ⟨rfl, rfl, rfl⟩

/-- The host's item is taken from the queue, and nothing of the host is on air. -/
def Popped (w : Worker) (item : ℤ) (e : Engine) : Prop :=
  e.programQueueItems[item]? = none ∧ (current w.stationId e).source = .none

lemma advanceHostTrack_over (hhost : current w.stationId e = ⟨.host, some item⟩)
    (hstatus : ∀ site uri, env.status site uri = some r) (hr : r.playbackAlive = false) :
    Popped w item (final (advanceHostTrack w env e)) := by
  have hends : Ends (advanceHostTrack w env) e (fun _ => Popped w item) (Popped w item) := by
    unfold advanceHostTrack
    rw [ends_bind, ends_get]
    simp only [hhost, if_true, hstatus, playbackAlive, Option.any_some, hr, Bool.and_false,
      Bool.false_eq_true, if_false]
    refine (ends_broadcastQueue _).mono (fun _ t ht => ?_) fun t ht => ?_
    all_goals
      rw [Popped, ht.program, current, ht.playout]
      simp [popHostItem, setCurrent]
  exact hends.final

lemma advanceHostTrack_alive (hhost : current w.stationId e = ⟨.host, some item⟩)
    (hruntime : w.hasRuntime = true) (hstatus : ∀ site uri, env.status site uri = some r)
    (hr : r.playbackAlive = true) : final (advanceHostTrack w env e) = e := by
  have hends : Ends (advanceHostTrack w env) e (fun _ t => t = e) (fun t => t = e) := by
    unfold advanceHostTrack
    rw [ends_bind, ends_get]
    simp only [hhost, if_true, hstatus, playbackAlive, Option.any_some, hr, hruntime]
    exact rfl
  exact hends.final

/-- The states in which a file of the show plays. -/
def audioStates : List ShowStatus := [.introPlaying, .breakOutro, .breakIntro, .outroPlaying]

def statusOf (id : ℤ) (e : Engine) : Option ShowStatus := e.showSessions[id]?.map (·.status)

lemma statusOf_updateStatus {status : ShowStatus} (h : (statusOf id e).isSome) :
    statusOf id (updateStatus id status e) = some status := by
  unfold statusOf updateStatus at *
  cases hrow : e.showSessions[id]? with
  | none => simp [hrow] at h
  | some row => simp [hrow]

lemma endShowSession_ended {session : Session} (h : (statusOf session.1 e).isSome) :
    Ends (endShowSession w env session) e (fun _ t => statusOf session.1 t = some .ended)
      (fun t => statusOf session.1 t = some .ended) := by
  unfold endShowSession
  refine (ends_broadcastQueue _).mono (fun _ t ht => ?_) fun t ht => ?_
  all_goals
    rw [statusOf, ht.sessions]
    exact statusOf_updateStatus h

lemma lifecycle_eq {session : Session} (h : session.2.status ∈ audioStates) :
    processShowLifecycle w env (some session) = handleShowAudioState w env session := by
  unfold audioStates at h
  unfold processShowLifecycle
  cases hst : session.2.status <;> simp_all

/-- The status is asked for, and a program goes on with what it is. -/
lemma ends_runtimeStatus {site : WorkerEnv.Site} {β : Type} {f : Option RuntimeStatus → WorkerM β}
    {Q : β → Engine → Prop} {E : Engine → Prop}
    (hstatus : ∀ site uri, env.status site uri = some r) (hf : Ends (f (some r)) e Q E) :
    Ends (WorkerEnv.runtimeStatus w env site >>= f) e Q E := by
  rw [ends_bind]
  change Ends (f (env.status site _)) e Q E
  rwa [hstatus]

lemma lifecycle_over {session : Session} (h : session.2.status ∈ audioStates)
    (hrow : statusOf session.1 e = some session.2.status)
    (hstatus : ∀ site uri, env.status site uri = some r) (hr : r.playbackAlive = false) :
    statusOf session.1 (final (processShowLifecycle w env (some session) e)) ≠
      some session.2.status := by
  have hsome : (statusOf session.1 e).isSome := by rw [hrow]; rfl
  have hends : Ends (handleShowAudioState w env session) e
      (fun _ t => statusOf session.1 t ≠ some session.2.status)
      (fun t => statusOf session.1 t ≠ some session.2.status) := by
    refine ends_runtimeStatus hstatus ?_
    rw [if_neg (by simp [playbackAlive, hr])]
    unfold audioStates at h
    cases hst : session.2.status with
    | introPlaying | breakIntro | breakOutro =>
      dsimp only
      rw [ends_bind, ends_modify, ends_pure, statusOf_updateStatus hsome]
      simp
    | outroPlaying =>
      dsimp only
      rw [ends_bind]
      refine (endShowSession_ended hsome).mono (fun _ t ht => ?_) fun t ht => ?_
      · rw [ends_pure, ht]
        simp
      · rw [ht]
        simp
    | preparing | goingLive | live | onBreak | ended => simp [hst] at h
  rw [lifecycle_eq h]
  exact hends.final

lemma lifecycle_alive {session : Session} (h : session.2.status ∈ audioStates)
    (hruntime : w.hasRuntime = true) (hstatus : ∀ site uri, env.status site uri = some r)
    (hr : r.playbackAlive = true) :
    final (processShowLifecycle w env (some session) e) = e := by
  have hends : Ends (handleShowAudioState w env session) e (fun _ t => t = e)
      (fun t => t = e) := by
    refine ends_runtimeStatus hstatus ?_
    rw [if_pos (by simp [playbackAlive, hr, hruntime])]
    exact rfl
  rw [lifecycle_eq h]
  exact hends.final

end Tick

/-! ### Every run -/

def request (icecast loc : Bool) : Cfg where
  inputUri := "/outro.mp3"
  icecastEnabled := icecast
  icecastHost := "127.0.0.1"
  icecastPort := 8000
  icecastMount := "/live"
  icecastUser := "source"
  icecastPassword := ""
  streamCodecProfile := "aac_plus_196"
  streamBitrateKbps := 196
  localOutputEnabled := loc
  outputDeviceId := ""
  outputGainDb := 0
  streamTitle := ""
  streamArtist := ""
  trackType := "jingle"
  crossfadeSeconds := 0

/-- A file is started to Icecast or to a player, without a live mix and without GStreamer, and
ends. -/
def ended (icecast loc : Bool) : List Event :=
  [.startStation (request icecast loc) [] false [.ok, .ok, .missing, if loc then .missing else .ok],
    .exit .program]

/-- A world that knows one status. -/
def statusWorld (r : RuntimeStatus) : Env where
  clock _ := 0
  monotonic _ := 0
  status _ _ := some r
  startError _ := none
  fanOut _ := false
  mediaPath path := path
  isFile _ := true
  exists_ _ := true
  probeDuration _ := none
  announcements := []
  aiService := none
  datetime _ := none
  fromIso _ := none
  strptime _ := none
  stampText _ := ""
  bucketText _ := ""
  isoText _ := ""
  unquote text := text
  casefold text := text
  sha256 _ := 0

def worker : Worker := ⟨1, "worker", true, ""⟩

/-- The host's item 7 is on air, in a session whose outro plays. -/
def outro : Engine :=
  { Engine.empty with
    programQueueItems := Engine.empty.programQueueItems.insert 7 ⟨1, 3, 1⟩
    showSessions := Engine.empty.showSessions.insert 1 ⟨1, 1, .outroPlaying⟩
    playoutState := Engine.empty.playoutState.insert 1 ⟨.host, some 7⟩ }

end OnAir.FinishedAudio
