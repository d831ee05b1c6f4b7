import OnAir.CallTurns

/-!
The calls of a station, made one at a time: each of them leaves alive only the producers that the
attributes name, and a stop leaves none.
-/

namespace OnAir.StationCalls

open Resumption Runs StationRuntime ProducerTurns CallTurns

variable {s t : Store} {k : ℕ} {cfg : Cfg} {α : Type} {held named : Role → Option ℕ}
  {free : SinkKind → Prop} {role : Role} {P : Store → Prop} {E : Raised → Store → Prop}
  {n : ℕ} {atOffset : Bool}

/-! ### Launches -/

/-- One producer for a role, and none for the other. -/
abbrev only (role : Role) (k : ℕ) : Role → Option ℕ :=
  Function.update (fun _ => none) role (some k)

/-- The producer was started last, and reads no sink. -/
abbrev Last (k : ℕ) (s : Store) : Prop :=
  At (only .program k) (only .program k) (fun _ => True) s ∧ s.producers.length = k + 1

lemma stable_last : Stable Beside (Last k) := stable_and stable_at stable_length

lemma markActiveRequest_does :
    Does (fun s => At held named free s ∧ s.producers.length = n) (markActiveRequest cfg)
      (fun _ s => (At held named free s ∧ s.producers.length = n) ∧ Fresh s) E := by
  have hP : Stable Beside fun s =>
      (At held named free s ∧ s.producers.length = n) ∧ Fresh s :=
    stable_and (stable_and stable_at stable_length) stable_fresh
  refine then_does nextPlayoutGeneration_does fun _ => ?_
  refine then_does (setCfg_does hP fun _ => ⟨rfl, rfl, rfl, .inl rfl, .inl rfl⟩) fun _ => ?_
  exact setCfg_does hP fun _ => ⟨rfl, rfl, rfl, .inl rfl, .inl rfl⟩

lemma markActive_does :
    Does (At held named free) (markActiveRequest cfg) (fun _ => At held named free) E :=
  fun s h => (markActiveRequest_does s ⟨h, rfl⟩).mono (fun _ _ h' => h'.1.1) fun _ _ h' => h'

lemma startLoop_does {kind : LoopKind} {g : ℕ} :
    Does (fun s => (Last k s ∧ Fresh s) ∧ s.runtime.playoutGeneration = g)
      (perform (.startLoop kind k g))
      (fun _ => At (only .program k) (only .program k) fun _ => True) E := by
  have hgeneration : Stable Beside fun s => s.runtime.playoutGeneration = g :=
    fun s t ht h => ht.generation.trans h
  have hP := stable_apart (stable_and (stable_and (stable_last (k := k)) stable_fresh) hgeneration)
  refine Triple.perform (stable_others hP) (fun _ => stable_others (stable_apart stable_at)) ?_
  rintro s w a u hinv ⟨⟨⟨h, hlength⟩, hfresh⟩, rfl⟩ hrun
  obtain ⟨-, rfl⟩ := Prod.mk.inj (Option.some.inj hrun)
  refine ⟨inv_startLoop hinv hfresh hlength fun j p x r hp halive hout => ?_, h.registered,
    h.attributes, h.alive, h.free⟩
  exact absurd hout (h.noSink hp halive)

/-- The loop of the live mix, whose producer was started last. -/
lemma startLiveMixWorker_does :
    Does (fun s => Last k s ∧ Fresh s) (startLiveMixWorker (some k))
      (fun _ => At (only .program k) (only .program k) fun _ => True) E := by
  have hP : Stable Apart fun s => Last k s ∧ Fresh s :=
    stable_apart (stable_and stable_last stable_fresh)
  refine then_does (set_does hP (fun _ => ⟨rfl, rfl, rfl, .inl rfl, .inl rfl⟩) fun _ => rfl)
    fun _ => ?_
  intro s hs t ht hinv w r u hrun
  obtain ⟨rfl, rfl⟩ := Prod.mk.inj (Option.some.inj hrun)
  exact ⟨hinv, startLoop_does t ⟨stable_others hP s t ht hs, rfl⟩⟩

lemma stable_idle : Stable Apart Idle := stable_apart stable_at

/-- A producer that is read through a pipe, before it is assigned. -/
abbrev Started (k : ℕ) (s : Store) : Prop :=
  At (only .program k) (fun _ => none) (fun _ => True) s ∧ s.producers.length = k + 1

lemma spawnLiveMixProducer_does : Does Idle spawnLiveMixProducer Started fun _ => Idle := by
  refine get_does (stable_others stable_idle) fun s₀ _ => ?_
  split
  · exact raise_does stable_idle fun _ h => h
  · exact spawnAside_does rfl fun _ _ ho => by cases ho

lemma spawnIcecastPcmProducer_does :
    Does Idle (spawnIcecastPcmProducer cfg) Started fun _ => Idle := by
  refine then_does (ensureIcecastSink_does stable_idle) fun enabled => ?_
  split
  · exact raise_does stable_idle fun _ h => h
  · refine get_does (stable_others stable_idle) fun s₀ _ => ?_
    split
    · exact raise_does stable_idle fun _ h => h
    · refine getNames_does (stable_others stable_idle) fun s₁ _ => ?_
      have hP : Stable Apart fun s => Idle s ∧ Names s₁.runtime s :=
        stable_and stable_idle (stable_apart stable_names)
      have hstdin : Does (fun s => Idle s ∧ Names s₁.runtime s)
          (sinkStdin s₁.runtime.icecastSink) (fun _ => Idle) fun _ => Idle :=
        (sinkStdin_does hP fun x hx s h => h.2.icecast x hx).conseq (fun _ h => h)
          (fun _ _ h => h.1.1) fun _ _ h => h.1
      refine then_does hstdin fun _ => spawnAside_does rfl fun _ _ ho => by cases ho

/-- A producer that writes to the local sink itself. -/
lemma spawnLocalPcmProducer_does (hheld : held role = none) :
    Does (At held named fun _ => True) (spawnLocalPcmProducer cfg role)
      (fun k => At (Function.update held role (some k)) named fun kind => kind ≠ .local)
      fun _ => At held named fun _ => True := by
  have hat : Stable Apart (At held named fun _ => True) := stable_apart stable_at
  refine then_does (ensureLocalSink_does hat) fun enabled => ?_
  split
  · exact raise_does hat fun _ h => h
  · refine get_does (stable_others hat) fun s₀ _ => ?_
    split
    · exact raise_does hat fun _ h => h
    · refine getNames_does (stable_others hat) fun s₁ _ => ?_
      refine weaken_does (spawnDirect_does hheld trivial
        (stable_and hat (stable_apart stable_names)) (fun _ h => h.1)
        fun x hx s h => h.2.localSink x hx) fun _ _ h => h.mono fun _ hk => ⟨trivial, hk⟩

lemma launchLiveMixState_does :
    Does Idle (launchLiveMixState cfg) (fun _ => Owned) fun _ => Owned := by
  have howned : ∀ s, Idle s → Owned s := fun _ h => h.owned
  unfold launchLiveMixState
  split
  · exact raise_does stable_idle howned
  · refine then_does (ensureIcecastSink_does stable_idle) fun icecastEnabled => ?_
    refine then_does ((ensureLocalSink_does stable_idle).conseq (fun _ h => h) (fun _ _ h => h)
      fun _ => howned) fun localEnabled => ?_
    split
    · exact raise_does stable_idle howned
    · refine then_does (setNamed_does (assigns_localProcess none)) fun _ => ?_
      rw [Function.update_eq_self]
      refine then_does (spawnLiveMixProducer_does.conseq (fun _ h => h) (fun _ _ h => h)
        fun _ => howned) fun k => ?_
      have hlast : Stable Apart (Last k) := stable_apart stable_last
      refine then_does (setLast_does (assigns_process (some k))) fun _ => ?_
      refine then_does (set_does hlast (fun _ => ⟨rfl, rfl, rfl, .inl rfl, .inl rfl⟩) fun _ => rfl)
        fun _ => ?_
      refine then_does markActiveRequest_does fun _ => ?_
      have hfresh : Stable Apart fun s => Last k s ∧ Fresh s :=
        stable_and hlast (stable_apart stable_fresh)
      refine get_does (stable_others hfresh) fun s₀ h₀ => ?_
      have hprocess : s₀.runtime.process = some k := congrFun h₀.1.1.attributes .program
      rw [hprocess]
      exact weaken_does startLiveMixWorker_does fun _ _ h => h.owned

/-- The thread of an Icecast stream is started for the producer that was started last. -/
lemma launchIcecast_does :
    Does (Last k) (launchIcecast cfg)
      (fun _ => At (only .program k) (only .program k) fun _ => True) E := by
  have hlast : Stable Apart (Last k) := stable_apart stable_last
  have hfresh : Stable Apart fun s => Last k s ∧ Fresh s :=
    stable_and hlast (stable_apart stable_fresh)
  refine then_does (set_does hlast (fun _ => ⟨rfl, rfl, rfl, .inl rfl, .inl rfl⟩) fun _ => rfl)
    fun _ => ?_
  refine then_does markActiveRequest_does fun _ => ?_
  refine get_does (stable_others hfresh) fun s₀ h₀ => ?_
  have hprocess : s₀.runtime.process = some k := congrFun h₀.1.1.attributes .program
  refine get_does (stable_others hfresh) fun s₁ _ => ?_
  intro s hs t ht hinv w r u hrun
  obtain ⟨rfl, rfl⟩ := Prod.mk.inj (Option.some.inj hrun)
  refine ⟨hinv, ?_⟩
  -- from here on the generation is the one that was read
  have hgeneration : Stable Beside fun s' =>
      s'.runtime.playoutGeneration = t.runtime.playoutGeneration :=
    fun _ _ hb h => hb.generation.trans h
  have hP := stable_and hfresh (stable_apart hgeneration)
  have hworker : Does (fun s' => (Last k s' ∧ Fresh s') ∧
      s'.runtime.playoutGeneration = t.runtime.playoutGeneration)
      (startIcecastPipeWorker s₀.runtime.process s₁.runtime.icecastSink
        t.runtime.playoutGeneration)
      (fun _ => At (only .program k) (only .program k) fun _ => True) E := by
    rw [hprocess]
    refine then_does (stopIcecastPipeWorker_does hP) fun _ => ?_
    refine then_does (set_does hP (fun _ => ⟨rfl, rfl, rfl, .inl rfl, .inl rfl⟩) fun _ => rfl)
      fun _ => ?_
    split
    · next k' x hk hx =>
        obtain rfl := Option.some.inj hk
        exact startLoop_does
    · exact pure_does hP fun _ h => h.1.1.1
  exact hworker t ⟨stable_others hfresh s t ht hs, rfl⟩

lemma spawnGst_does :
    Does Idle (spawnGst cfg atOffset) (fun b s => b = true ∧ Owned s) fun _ => Idle := by
  unfold spawnGst
  split
  · exact raise_does stable_idle fun _ h => h
  · refine then_does (spawnAside_does rfl fun _ _ ho => by cases ho) fun k => ?_
    refine then_does (setLast_does (assigns_process (some k))) fun _ => ?_
    refine then_does (set_does (stable_apart stable_last)
      (fun _ => ⟨rfl, rfl, rfl, .inl rfl, .inl rfl⟩) fun _ => rfl) fun _ => ?_
    refine then_does markActiveRequest_does fun _ => ?_
    exact pure_does (stable_apart (stable_and stable_last stable_fresh))
      fun _ h => ⟨rfl, h.1.1.owned⟩

lemma launchGst_does :
    Does Idle (launchGst cfg atOffset)
      (fun b s => (b = true ∧ Owned s) ∨ (b = false ∧ Idle s)) fun _ => Idle := by
  refine catch_does (weaken_does spawnGst_does fun _ _ h => .inl h) fun e => ?_
  cases e with
  | missing => exact pure_does stable_idle fun _ h => .inr ⟨rfl, h⟩
  | failed => exact raise_does stable_idle fun _ h => h

lemma launchIcecastOnly_does :
    Does Idle (launchIcecastOnly cfg) (fun _ s => ∃ k, Last k s) fun _ => Idle := by
  refine then_does (ensureIcecastSink_does stable_idle) fun enabled => ?_
  split
  · exact raise_does stable_idle fun _ h => h
  · refine then_does spawnIcecastPcmProducer_does fun k => ?_
    exact weaken_does (setLast_does (assigns_process (some k))) fun _ s h => ⟨k, h⟩

lemma launchMonitor_does :
    Does (At (only .program k) (only .program k) fun _ => True) (launchMonitor cfg)
      (fun _ => Owned) (fun _ => At (only .program k) (only .program k) fun _ => True) := by
  have hheld : only .program k .monitor = none := Function.update_of_ne (by simp) ..
  refine then_does (spawnLocalPcmProducer_does hheld) fun j => ?_
  exact weaken_does (setNamed_does (assigns_localProcess (some j))) fun _ _ h => h.owned

/-- What is left of a program whose producer could not be started. -/
lemma forget_does : Does Idle clearActive (fun _ => Idle) E := by
  have hidle : Stable Beside Idle := stable_at
  refine then_does (setCfg_does hidle fun _ => ⟨rfl, rfl, rfl, .inl rfl, .inl rfl⟩) fun _ => ?_
  refine then_does (setCfg_does hidle fun _ => ⟨rfl, rfl, rfl, .inl rfl, .inl rfl⟩) fun _ => ?_
  exact setCfg_does hidle fun _ => ⟨rfl, rfl, rfl, .inl rfl, .inl rfl⟩

lemma setNone_does {f : Runtime → Runtime} (hf : ∀ r, Assigns role none r (f r)) :
    Does Idle (set f) (fun _ => Idle) E :=
  weaken_does (setNamed_does hf) fun _ s h => by rwa [Function.update_eq_self] at h

lemma launchSteadyState_does :
    Does Idle (launchSteadyState cfg atOffset) (fun _ => Owned) fun _ => Owned := by
  have howned : ∀ s, Idle s → Owned s := fun _ h => h.owned
  have hidle : ∀ {α : Type} {p : Program α} {Q : α → Store → Prop},
      Does Idle p Q (fun _ => Idle) → Does Idle p Q fun _ => Owned :=
    fun h => h.conseq (fun _ h => h) (fun _ _ h => h) fun _ => howned
  unfold launchSteadyState
  split
  · exact raise_does stable_idle howned
  · split
    · have hlaunch : Does Idle ((launchIcecastOnly cfg).tryCatch fun e => do
          set fun r => { r with process := none }
          clearActive
          .raise e) (fun _ s => ∃ k, Last k s) fun _ => Owned := by
        refine catch_does launchIcecastOnly_does fun e => ?_
        refine then_does (setNone_does (assigns_process none)) fun _ => ?_
        exact then_does forget_does fun _ => raise_does stable_idle howned
      refine then_does hlaunch fun _ => ?_
      rintro s ⟨k, h⟩
      exact weaken_does launchIcecast_does (fun _ _ h' => h'.owned) s h
    · refine then_does (hidle launchGst_does) fun gst => ?_
      cases gst with
      | true =>
        have howned' : Stable Beside fun s => (true = true ∧ Owned s) ∨
            (true = false ∧ Idle s) := fun s t ht h =>
          h.imp (fun h => ⟨h.1, stable_owned s t ht h.2⟩) fun h => ⟨h.1, stable_at s t ht h.2⟩
        exact pure_does (stable_apart howned') fun s h =>
          h.elim (fun h => h.2) fun h => by cases h.1
      | false =>
        have hpre : ∀ s, (false = true ∧ Owned s) ∨ (false = false ∧ Idle s) → Idle s :=
          fun s h => h.elim (fun h => by cases h.1) fun h => h.2
        refine Triple.conseq (P := Idle) (Q := fun _ => Owned) (E := fun _ => Owned) ?_ hpre
          (fun _ _ h => h) fun _ _ h => h
        refine then_does (ensureIcecastSink_does stable_idle) fun icecastEnabled => ?_
        refine then_does (hidle (ensureLocalSink_does stable_idle)) fun localEnabled => ?_
        refine then_does (setNone_does (assigns_localProcess none)) fun _ => ?_
        split
        · split
          · exact raise_does stable_idle howned
          · refine then_does (hidle spawnIcecastPcmProducer_does) fun k => ?_
            refine then_does (setLast_does (assigns_process (some k))) fun _ => ?_
            refine then_does launchIcecast_does fun _ => ?_
            have hat : Stable Apart (At (only .program k) (only .program k) fun _ => True) :=
              stable_apart stable_at
            split
            · refine catch_does launchMonitor_does fun e => ?_
              refine weaken_does (setNamed_does (assigns_localProcess none)) fun _ s h => ?_
              have hnone : Function.update (only .program k) .monitor none = only .program k :=
                funext fun role => by cases role <;> rfl
              rw [hnone] at h
              exact h.owned
            · exact pure_does hat fun _ h => h.owned
        · refine get_does (stable_others stable_idle) fun s₀ _ => ?_
          split
          · exact raise_does stable_idle howned
          · refine then_does (hidle (spawnLocalPcmProducer_does rfl)) fun k => ?_
            refine then_does (setNamed_does (assigns_process (some k))) fun _ => ?_
            refine then_does (set_does (stable_apart stable_at)
              (fun _ => ⟨rfl, rfl, rfl, .inl rfl, .inl rfl⟩) fun _ => rfl) fun _ => ?_
            exact weaken_does markActive_does fun _ _ h => h.owned

/-! ### Calls -/

/-- What every call keeps. -/
abbrev Keeping (p : Program α) : Prop := Does Owned p (fun _ => Owned) fun _ => Owned

lemma stable_owned' : Stable Apart Owned := stable_apart stable_owned

lemma stopProducers_idle : Does Owned stopProducers (fun _ => Idle) E := by
  rintro s ⟨held, h⟩
  exact weaken_does stopProducers_does (fun _ _ h' => h'.1) s h

lemma restartWith_keeping : Keeping (restartWith cfg atOffset) := by
  refine then_does stopProducers_idle fun _ => ?_
  refine then_does (releaseDisabledSinks_does stable_idle) fun _ => ?_
  refine then_does (ask_does stable_idle) fun liveMix => ?_
  split
  · exact launchLiveMixState_does
  · exact launchSteadyState_does

lemma spawnCrossfadePcmProducer_does {sink : Option ℕ} {kind : SinkKind}
    (hheld : held role = none) (hfree : free kind) (hP : Stable Apart P)
    (hat : ∀ s, P s → At held named free s)
    (hkind : ∀ x, sink = some x → ∀ s, P s → IsKind s x kind) :
    Does P (spawnCrossfadePcmProducer sink role)
      (fun k => At (Function.update held role (some k)) named fun kind' =>
        free kind' ∧ kind' ≠ kind)
      fun _ => At held named free := by
  refine get_does (stable_others hP) fun s₀ _ => ?_
  split
  · exact raise_does hP hat
  · exact spawnDirect_does hheld hfree hP hat hkind

/-- Who is held after a transition has been started. -/
abbrev both (k : ℕ) (j : Option ℕ) : Role → Option ℕ :=
  Function.update (only .program k) .monitor j

lemma both_none (k : ℕ) : both k none = only .program k :=
  funext fun role => by cases role <;> rfl

lemma startTransition_does {icecastEnabled localEnabled : Bool} :
    Does Idle (startTransition icecastEnabled localEnabled)
      (fun new => At (both new.1 new.2) (fun _ => none) fun _ => False) fun _ => Idle := by
  have hnames : ∀ r, Stable Apart fun s => Idle s ∧ Names r s := fun r =>
    stable_and stable_idle (stable_apart stable_names)
  unfold startTransition
  split
  · refine getNames_does (stable_others stable_idle) fun s₀ _ => ?_
    refine then_does (spawnCrossfadePcmProducer_does rfl trivial (hnames _) (fun _ h => h.1)
      fun x hx s h => h.2.icecast x hx) fun k => ?_
    have hat : Stable Apart (At (only .program k) (fun _ => none) fun kind =>
      True ∧ kind ≠ .icecast) := stable_apart stable_at
    split
    · refine getNames_does (stable_others hat) fun s₁ _ => ?_
      have hmonitor : Does (fun s => At (only .program k) (fun _ => none)
          (fun kind => True ∧ kind ≠ .icecast) s ∧ Names s₁.runtime s)
          ((spawnCrossfadePcmProducer s₁.runtime.localSink .monitor).tryCatch fun e => do
            perform (.terminate k)
            Prog.raise e)
          (fun j => At (both k (some j)) (fun _ => none) fun _ => False) fun _ => Idle := by
        refine catch_does (weaken_does (spawnCrossfadePcmProducer_does
          (Function.update_of_ne (by simp) ..) ⟨trivial, by simp⟩
          (stable_and hat (stable_apart stable_names)) (fun _ h => h.1)
          fun x hx s h => h.2.localSink x hx) fun _ _ h => h.mono fun _ hf => hf.elim) fun e => ?_
        refine then_does (terminate_does (Function.update_self ..)) fun _ => ?_
        refine raise_does (stable_apart stable_at) fun s h => ?_
        have hnone : Function.update (only .program k) .program none = fun _ => none :=
          funext fun role => by cases role <;> rfl
        exact At.idle (hnone ▸ h)
      refine then_does hmonitor fun j => ?_
      exact pure_does (stable_apart stable_at) fun _ h => h
    · exact pure_does hat fun s h => by
        rw [both_none]
        exact h.mono fun _ hf => hf.elim
  · split
    · refine getNames_does (stable_others stable_idle) fun s₀ _ => ?_
      refine then_does (spawnCrossfadePcmProducer_does rfl trivial (hnames _) (fun _ h => h.1)
        fun x hx s h => h.2.localSink x hx) fun k => ?_
      refine pure_does (stable_apart stable_at) fun s h => ?_
      rw [both_none]
      exact h.mono fun _ hf => hf.elim
    · exact raise_does stable_idle fun _ h => h

/-- The producers of the runtime are swapped for those of a transition. -/
lemma swapProducers_does {icecastEnabled localEnabled : Bool} :
    Does (At held held free)
      (swapProducers cfg (held .program) (held .monitor) icecastEnabled localEnabled)
      (fun _ => Owned) fun _ => Idle := by
  refine then_does (terminateProcess_does .monitor) fun _ => ?_
  refine then_does (setNamed_does (assigns_localProcess none)) fun _ => ?_
  have hprogram : held .program = Function.update held .monitor none .program :=
    (Function.update_of_ne (by simp) ..).symm
  rw [hprogram]
  refine then_does (terminateProcess_does .program) fun _ => ?_
  refine then_does (setNamed_does (assigns_process none)) fun _ => ?_
  have hnone : Function.update (Function.update held .monitor none) .program none = fun _ => none :=
    funext fun role => by cases role <;> rfl
  rw [hnone]
  refine then_does (startTransition_does.conseq (fun _ h => h.idle) (fun _ _ h => h)
    fun _ _ h => h) fun new => ?_
  refine then_does (setNamed_does (assigns_process (some new.1))) fun _ => ?_
  refine then_does (setNamed_does (assigns_localProcess new.2)) fun _ => ?_
  refine then_does (set_does (stable_apart stable_at)
    (fun _ => ⟨rfl, rfl, rfl, .inl rfl, .inl rfl⟩) fun _ => rfl) fun _ => ?_
  exact weaken_does markActive_does fun _ _ h => h.owned

lemma startCrossfade_keeping : Keeping (startCrossfade cfg) := by
  refine get_does (stable_others stable_owned') fun s₀ _ => ?_
  split
  · exact raise_does stable_owned' fun _ h => h
  · refine then_does (ensureIcecastSink_does stable_owned') fun icecastEnabled => ?_
    refine then_does (ensureLocalSink_does stable_owned') fun localEnabled => ?_
    split
    · exact raise_does stable_owned' fun _ h => h
    · split
      · exact raise_does stable_owned' fun _ h => h
      · rintro s ⟨held, h⟩
        have hat : Stable Others (At held held fun _ => False) :=
          stable_others (stable_apart stable_at)
        refine (get_does hat fun s₁ h₁ => get_does hat fun s₂ h₂ => ?_ :
          Does (At held held fun _ => False) _ _ _) s h
        have hprogram : s₁.runtime.process = held .program := congrFun h₁.attributes .program
        have hmonitor : s₂.runtime.localProcess = held .monitor := congrFun h₂.attributes .monitor
        rw [hprogram, hmonitor]
        refine catch_does swapProducers_does fun e => ?_
        refine then_does (setNone_does (assigns_process none)) fun _ => ?_
        refine then_does (setNone_does (assigns_localProcess none)) fun _ => ?_
        exact then_does forget_does fun _ => raise_does stable_idle fun _ h => h.owned

lemma isRunning_does (hP : Stable Apart P) : Does P isRunning (fun _ => P) E := by
  refine get_does (stable_others hP) fun s₀ _ => ?_
  split
  · exact pure_does hP fun _ h => h
  · exact isAlive_does hP

lemma mayCrossfade_does (hP : Stable Apart P) {current : Option Cfg} :
    Does P (mayCrossfade current cfg atOffset) (fun _ => P) E := by
  unfold mayCrossfade
  split
  · exact pure_does hP fun _ h => h
  · split
    · exact pure_does hP fun _ h => h
    · refine then_does (then_does (isRunning_does hP) fun running =>
        pure_does (Q := fun _ => P) hP fun _ h => h) fun fades => ?_
      split
      · refine get_does (stable_others hP) fun s₀ _ => ?_
        split
        · exact pure_does hP fun _ h => h
        · split
          · exact pure_does hP fun _ h => h
          · exact then_does (ask_does hP) fun _ => pure_does hP fun _ h => h
      · exact pure_does hP fun _ h => h

lemma replace_keeping {liveMixRequested : Bool} :
    Keeping (replace cfg atOffset liveMixRequested) := by
  refine get_does (stable_others stable_owned') fun s₀ _ => ?_
  split
  · refine then_does (setCfg_does stable_owned fun _ => ⟨rfl, rfl, rfl, .inl rfl, .inl rfl⟩)
      fun _ => ?_
    split
    · exact restartWith_keeping
    · refine get_does (stable_others stable_owned') fun s₁ _ => ?_
      split
      · exact then_does (ask_does stable_owned') fun offset => restartWith_keeping
      · exact pure_does stable_owned' fun _ h => h
  · split
    · exact restartWith_keeping
    · refine then_does (mayCrossfade_does stable_owned') fun fades => ?_
      split
      · exact catch_does startCrossfade_keeping fun _ => restartWith_keeping
      · exact restartWith_keeping

/-- Either what is left is stopped, or the attributes name no producer. -/
lemma clearEnded_does : Does Owned (clearEnded cfg) (fun _ => Idle) E := by
  rintro s ⟨held, h⟩
  have hat : Stable Others (At held held fun _ => False) :=
    stable_others (stable_apart stable_at)
  refine (get_does hat fun s₁ h₁ => get_does hat fun s₂ h₂ => ?_ :
    Does (At held held fun _ => False) _ _ _) s h
  split
  · refine then_does (weaken_does stopProducers_does fun _ _ h' => h'.1) fun _ => ?_
    exact releaseDisabledSinks_does stable_idle
  · next hnone =>
      have hprogram : s₁.runtime.process = held .program := congrFun h₁.attributes .program
      have hmonitor : s₂.runtime.localProcess = held .monitor := congrFun h₂.attributes .monitor
      rw [hprogram, hmonitor] at hnone
      have hheld : held = fun _ => none := by
        funext role
        cases role <;> simp_all
      subst hheld
      exact pure_does (stable_apart stable_at) fun _ h' => h'.idle

lemma start_keeping : Keeping (start cfg atOffset) := by
  refine then_does (ask_does stable_owned') fun ffmpeg => ?_
  refine then_does (ask_does stable_owned') fun ffplay => ?_
  refine then_does (set_does stable_owned' (fun _ => ⟨rfl, rfl, rfl, .inl rfl, .inl rfl⟩)
    fun _ => rfl) fun _ => ?_
  refine then_does (ask_does stable_owned') fun liveMixRequested => ?_
  refine then_does (isRunning_does stable_owned') fun running => ?_
  split
  · exact replace_keeping
  · refine then_does clearEnded_does fun _ => ?_
    split
    · exact launchLiveMixState_does
    · exact launchSteadyState_does

lemma promoteLiveMix_keeping : Keeping promoteLiveMix := by
  have hdone : Keeping (pure ()) := pure_does stable_owned' fun _ h => h
  refine get_does (stable_others stable_owned') fun s₀ _ => ?_
  split
  · exact hdone
  · refine then_does (isRunning_does stable_owned') fun running => ?_
    split
    · exact hdone
    · refine get_does (stable_others stable_owned') fun s₁ _ => ?_
      split
      · exact hdone
      · refine then_does (ask_does stable_owned') fun liveMix => ?_
        split
        · exact hdone
        · refine get_does (stable_others stable_owned') fun s₂ _ => ?_
          split
          · exact raise_does stable_owned' fun _ h => h
          · exact then_does (ask_does stable_owned') fun offset => restartWith_keeping

lemma recoverOutputs_keeping : Keeping recoverOutputs := by
  refine get_does (stable_others stable_owned') fun s₀ _ => ?_
  split
  · exact raise_does stable_owned' fun _ h => h
  · exact then_does (ask_does stable_owned') fun offset => restartWith_keeping

/-! ### Stopped stations -/

/-- No producer is alive, and nothing is there that a recovery or a microphone could start. -/
def Stopped (s : Store) : Prop := Idle s ∧ s.runtime.activeCfg = none

lemma stable_stopped : Stable Apart Stopped := fun s t ht h =>
  ⟨stable_idle s t ht h.1, ht.activeCfg.trans h.2⟩

lemma terminateAll_does (hP : Stable Apart P) (ks : List ℕ) :
    Does P (terminateAll ks) (fun _ => P) E := by
  induction ks with
  | nil => exact pure_does hP fun _ h => h
  | cons k ks ih =>
    refine then_does (perform_does hP fun s w a u hinv _ hrun => ?_) fun _ => ih
    obtain ⟨-, rfl⟩ := Prod.mk.inj (Option.some.inj hrun)
    refine ⟨inv_terminate hinv k, ⟨rfl, rfl, rfl, length_terminate, fun j p' hp' => ?_,
      fun _ _ hk => hk, fun l hl => ⟨l, hl, rfl⟩⟩, rfl⟩
    obtain ⟨p, hp, hrole, hout, hbefore⟩ := lookup_terminate hp'
    exact ⟨p, hp, hrole, hout, fun halive => (hbefore halive).1⟩

lemma stop_does : Does Owned stop (fun _ => Stopped) E := by
  have hstop : Does Owned stopProducers (fun _ => Stopped) E := by
    rintro s ⟨held, h⟩
    exact stopProducers_does s h
  refine then_does hstop fun _ => ?_
  refine then_does (stopSinks_does stable_stopped) fun _ => ?_
  refine get_does (stable_others stable_stopped) fun s₀ _ => ?_
  refine then_does (set_does stable_stopped (fun _ => ⟨rfl, rfl, rfl, .inl rfl, .inl rfl⟩)
    fun _ => rfl) fun _ => ?_
  exact terminateAll_does stable_stopped _

lemma recoverOutputs_stopped :
    Does Stopped recoverOutputs (fun _ => Stopped) fun _ => Stopped := by
  refine get_does (stable_others stable_stopped) fun s₀ h₀ => ?_
  rw [h₀.2]
  exact raise_does stable_stopped fun _ h => h

lemma promoteLiveMix_stopped :
    Does Stopped promoteLiveMix (fun _ => Stopped) fun _ => Stopped := by
  have hdone : Does Stopped (pure ()) (fun _ => Stopped) fun _ => Stopped :=
    pure_does stable_stopped fun _ h => h
  refine get_does (stable_others stable_stopped) fun s₀ _ => ?_
  split
  · exact hdone
  · have hrunning : Does Stopped isRunning (fun b s => b = false ∧ Stopped s) fun _ => Stopped := by
      refine get_does (stable_others stable_stopped) fun s₁ h₁ => ?_
      have hprocess : s₁.runtime.process = none := congrFun h₁.1.attributes .program
      rw [hprocess]
      exact pure_does stable_stopped fun _ h => ⟨rfl, h⟩
    refine then_does hrunning fun running => ?_
    rintro s ⟨rfl, h⟩
    exact hdone s h

/-! ### Calls of the registry -/

/-- No start has made the station known. -/
structure Unknown (s : Store) : Prop where
  registered : s.runtime.registered = false
  named : producerOf s.runtime = fun _ => none
  producers : s.producers = []

lemma stable_unknown : Stable Apart Unknown := fun s t ht h =>
  ⟨ht.registered.trans h.registered, ht.attributes.trans h.named, by
    rw [← List.length_eq_zero_iff, ht.length, h.producers, List.length_nil]⟩

/-- What holds of a station between calls. -/
def Settled (s : Store) : Prop := Unknown s ∨ Owned s

/-- What holds of it between the calls after a stop. -/
def Silent (s : Store) : Prop := Unknown s ∨ Stopped s

lemma stable_settled : Stable Apart Settled := fun s t ht h =>
  h.imp (stable_unknown s t ht) (stable_owned' s t ht)

lemma stable_silent : Stable Apart Silent := fun s t ht h =>
  h.imp (stable_unknown s t ht) (stable_stopped s t ht)

lemma Stopped.owned (h : Stopped s) : Owned s := h.1.owned

/-- A call on a station that is not known does nothing. -/
lemma unknown_does {p : Program Unit} : Does Unknown
    (do if (← get).registered then p else pure ()) (fun _ => Unknown) E := by
  refine get_does (stable_others stable_unknown) fun s₀ h₀ => ?_
  rw [h₀.registered]
  exact pure_does stable_unknown fun _ h => h

lemma known_does {p : Program Unit} {Q : Store → Prop} (hP : Stable Others P)
    (hknown : ∀ s, P s → s.runtime.registered = true) (hp : Does P p (fun _ => Q) E) :
    Does P (do if (← get).registered then p else pure ()) (fun _ => Q) E := by
  refine get_does hP fun s₀ h₀ => ?_
  rw [hknown s₀ h₀]
  exact hp

lemma registered_of_owned (h : Owned s) : s.runtime.registered = true :=
  h.choose_spec.registered

lemma startStation_settled :
    Does Settled (startStation cfg atOffset) (fun _ => Settled) fun _ => Settled := by
  have hregister : Does Settled (set fun r => { r with registered := true }) (fun _ => Owned)
      fun _ => Settled := by
    refine assign_does (stable_others stable_settled) (stable_others stable_owned')
      fun s hinv h => ⟨inv_set (f := fun r => { r with registered := true }) hinv hinv.icecast
        hinv.localSink (.inl rfl), ?_⟩
    rcases h with h | ⟨held, h⟩
    · refine ⟨fun _ => none, rfl, h.named, fun k p hp => ?_, fun _ hf => hf.elim⟩
      change s.producers[k]? = some p at hp
      rw [h.producers] at hp
      cases hp
    · exact ⟨held, rfl, h.attributes, h.alive, h.free⟩
  refine then_does hregister fun _ => ?_
  exact start_keeping.conseq (fun _ h => h) (fun _ _ h => .inr h) fun _ _ h => .inr h

lemma stopStation_does : Does Settled stopStation (fun _ => Silent) fun _ => Silent := by
  rintro s (h | h)
  · exact weaken_does unknown_does (fun _ _ h' => .inl h') s h
  · exact weaken_does (known_does (stable_others stable_owned') (fun _ h => registered_of_owned h)
      stop_does) (fun _ _ h' => .inr h') s h

lemma recoverStation_settled :
    Does Settled recoverStation (fun _ => Settled) fun _ => Settled := by
  have hrecover : Keeping (do if ← ask then recoverOutputs else pure ()) := by
    refine then_does (ask_does stable_owned') fun due => ?_
    split
    · exact recoverOutputs_keeping
    · exact pure_does stable_owned' fun _ h => h
  rintro s (h | h)
  · exact weaken_does unknown_does (fun _ _ h' => .inl h') s h
  · exact (known_does (stable_others stable_owned') (fun _ h => registered_of_owned h)
      hrecover).conseq
      (fun _ h => h) (fun _ _ h => .inr h) (fun _ _ h => .inr h) s h

lemma recoverStation_silent :
    Does Silent recoverStation (fun _ => Silent) fun _ => Silent := by
  have hrecover : Does Stopped (do if ← ask then recoverOutputs else pure ()) (fun _ => Stopped)
      fun _ => Stopped := by
    refine then_does (ask_does stable_stopped) fun due => ?_
    split
    · exact recoverOutputs_stopped
    · exact pure_does stable_stopped fun _ h => h
  rintro s (h | h)
  · exact weaken_does unknown_does (fun _ _ h' => .inl h') s h
  · exact (known_does (stable_others stable_stopped) (fun _ h => registered_of_owned h.owned)
      hrecover).conseq (fun _ h => h) (fun _ _ h => .inr h) (fun _ _ h => .inr h) s h

lemma handleLiveMicStart_settled :
    Does Settled handleLiveMicStart (fun _ => Settled) fun _ => Settled := by
  rintro s (h | h)
  · exact weaken_does unknown_does (fun _ _ h' => .inl h') s h
  · exact (known_does (stable_others stable_owned') (fun _ h => registered_of_owned h)
      promoteLiveMix_keeping).conseq (fun _ h => h) (fun _ _ h => .inr h) (fun _ _ h => .inr h) s h

lemma handleLiveMicStart_silent :
    Does Silent handleLiveMicStart (fun _ => Silent) fun _ => Silent := by
  rintro s (h | h)
  · exact weaken_does unknown_does (fun _ _ h' => .inl h') s h
  · exact (known_does (stable_others stable_stopped) (fun _ h => registered_of_owned h.owned)
      promoteLiveMix_stopped).conseq (fun _ h => h) (fun _ _ h => .inr h) (fun _ _ h => .inr h) s h

/-! ### Runs -/

def callOf : Event → Option (Program Unit)
  | .startStation cfg atOffset => some (startStation cfg atOffset)
  | .stopStation => some stopStation
  | .recoverStation => some recoverStation
  | .liveMicStart => some handleLiveMicStart
  | _ => none

/-- Nobody calls while another call is in progress. -/
def oneAtATime (s : Store) (e : Event) : Bool :=
  (callOf e).isNone || s.calls.all fun c => !c.program.waits

/-- At most one call is in progress, and it leaves what holds between calls. -/
structure InTurn (between : Store → Prop) (s : Store) : Prop where
  orderly : Orderly s
  call : ∃ i, (∀ (j : ℕ) (c : Call), s.calls[j]? = some c → c.program.waits = true → j = i) ∧
    (∀ c, s.calls[i]? = some c →
      Safe run Orderly Others (fun _ => between) (fun _ => between) c.program s) ∧
    (s.calls[i]? = none → between s)

variable {between between' : Store → Prop}

lemma InTurn.rest (h : InTurn between s) (hnone : ∀ c ∈ s.calls, c.program.waits = false) :
    between s := by
  obtain ⟨i, -, hsafe, hrest⟩ := h.call
  cases hc : s.calls[i]? with
  | none => exact hrest hc
  | some c =>
    have hc' := hsafe c hc
    have hwaits := hnone c (List.mem_of_getElem? hc)
    cases hp : c.program with
    | pure a =>
      rw [hp] at hc'
      exact hc' s (.refl s)
    | raise e =>
      rw [hp] at hc'
      exact hc' s (.refl s)
    | op o k =>
      rw [hp] at hwaits
      cases hwaits

/-- The threads and the processes take a turn. -/
lemma InTurn.interfere (h : InTurn between s) (hstable : Stable Others between)
    (ht : Others s t) (hcalls : t.calls = s.calls) (horderly : Orderly t) :
    InTurn between t := by
  obtain ⟨i, hone, hsafe, hrest⟩ := h.call
  refine ⟨horderly, i, fun j c hj => ?_, fun c hc => ?_, fun hnone => ?_⟩
  · rw [hcalls] at hj
    exact hone j c hj
  · rw [hcalls] at hc
    exact (hsafe c hc).interfere Others.trans ht
  · rw [hcalls] at hnone
    exact hstable s t ht (hrest hnone)

lemma orderly_calls (h : Orderly s) (calls : List Call) : Orderly { s with calls := calls } := by
  refine ⟨h.icecast, h.localSink, h.generations, h.order, h.lock, h.aims, h.known, h.reads,
    h.writers, h.pipes, h.localQueue, fun hclean => ?_⟩
  have hc := h.clean hclean
  refine ⟨fun x y hy => ?_, hc.writer, hc.loops, fun k p x r hp halive hout => ?_, hc.alone⟩
  · have hsorted := hc.sorted x y hy
    exact ⟨hsorted.written, hsorted.queue, hsorted.next, hsorted.hand⟩
  · obtain ⟨hquiet, hafter⟩ := hc.direct k p x r hp halive hout
    exact ⟨⟨hquiet.queue, hquiet.hands, hquiet.loops⟩, hafter⟩

lemma others_calls (s : Store) (calls : List Call) : Others s { s with calls := calls } :=
  ⟨⟨rfl, rfl, rfl, rfl, fun _ p hp => ⟨p, hp, rfl, rfl, id⟩, fun _ _ h => h,
    fun l hl => ⟨l, hl, rfl⟩⟩, rfl, rfl⟩

lemma InTurn.begin {locks : Bool} {p : Program Unit} (h : InTurn between s)
    (hnone : ∀ c ∈ s.calls, c.program.waits = false)
    (hp : Does between p (fun _ => between') fun _ => between')
    (hs : begin s locks p = some t) : InTurn between' t := by
  unfold StationRuntime.begin at hs
  split at hs
  · cases hs
  · obtain rfl := Option.some.inj hs
    refine ⟨orderly_calls h.orderly _, s.calls.length, fun j c hj hw => ?_, fun c hc => ?_,
      fun hc => ?_⟩
    · rcases lookup_concat hj with hj | ⟨rfl, -⟩
      · rw [hnone c (List.mem_of_getElem? hj)] at hw
        cases hw
      · rfl
    · obtain rfl := Option.some.inj (List.getElem?_concat_length.symm.trans hc)
      exact (hp s (h.rest hnone)).interfere Others.trans (others_calls s _)
    · cases List.getElem?_concat_length.symm.trans hc

/-- The call in progress takes a turn. -/
lemma InTurn.advance {i : ℕ} {w : Outcome} (h : InTurn between s)
    (hs : advance s i w = some t) : InTurn between t := by
  unfold StationRuntime.advance at hs
  obtain ⟨c, hc, hs⟩ := Option.bind_eq_some_iff.mp hs
  obtain ⟨⟨p, u⟩, hturn, rfl⟩ := Option.map_eq_some_iff.mp hs
  obtain ⟨i', hone, hsafe, -⟩ := h.call
  cases hp : c.program with
  | pure a =>
    rw [hp] at hturn
    cases hturn
  | raise e =>
    rw [hp] at hturn
    cases hturn
  | op o k =>
    obtain rfl : i = i' := hone i c hc (by rw [hp]; rfl)
    have hc' := hsafe c hc
    rw [hp] at hc' hturn
    obtain ⟨⟨b, v⟩, hrun, heq⟩ := Option.map_eq_some_iff.mp hturn
    obtain ⟨rfl, rfl⟩ := Prod.mk.inj heq
    obtain ⟨hv, hk⟩ := hc' s (.refl s) h.orderly w b v hrun
    refine ⟨orderly_calls hv _, i, fun j c' hj hw => ?_, fun c' hj => ?_, fun hnone => ?_⟩
    · rw [List.getElem?_modify] at hj
      obtain ⟨c₀, hc₀, rfl⟩ := Option.map_eq_some_iff.mp hj
      by_cases he : i = j
      · exact he.symm
      · rw [if_neg he] at hw
        exact hone j c₀ hc₀ hw
    · rw [List.getElem?_modify_eq, hc] at hj
      obtain rfl := Option.some.inj hj
      exact hk.interfere Others.trans (others_calls v _)
    · rw [List.getElem?_modify_eq, hc] at hnone
      cases hnone

lemma others_setSink {x : ℕ} {f : Sink → Sink} (hf : ∀ y, (f y).kind = y.kind) :
    Others s (setSink s x f) :=
  ⟨⟨rfl, rfl, rfl, rfl, fun _ p hp => ⟨p, hp, rfl, rfl, id⟩, fun _ _ hk => kind_setSink hf hk,
    fun l hl => ⟨l, hl, rfl⟩⟩, rfl, rfl⟩

lemma others_setLoop {i : ℕ} {p : LoopPhase} : Others s (setLoop s i p) := by
  refine ⟨⟨rfl, rfl, rfl, rfl, fun _ p hp => ⟨p, hp, rfl, rfl, id⟩, fun _ _ hk => hk,
    fun l' hl' => ?_⟩, rfl, rfl⟩
  obtain ⟨j, hj⟩ := List.mem_iff_getElem?.mp hl'
  obtain ⟨l, hl, rfl⟩ := lookup_setLoop hj
  exact ⟨l, List.mem_of_getElem? hl, by split <;> rfl⟩

lemma others_setWriter {i : ℕ} {p : WriterPhase} : Others s (setWriter s i p) :=
  ⟨⟨rfl, rfl, rfl, rfl, fun _ p hp => ⟨p, hp, rfl, rfl, id⟩, fun _ _ hk => hk,
    fun l hl => ⟨l, hl, rfl⟩⟩, rfl, rfl⟩

lemma others_exit : Others s (setProducer s k fun p => { p with alive := false }) := by
  refine ⟨⟨rfl, rfl, rfl, length_terminate, fun j p' hp' => ?_, fun _ _ hk => hk,
    fun l hl => ⟨l, hl, rfl⟩⟩, rfl, rfl⟩
  obtain ⟨p, hp, hrole, hout, hbefore⟩ := lookup_terminate hp'
  exact ⟨p, hp, hrole, hout, fun halive => (hbefore halive).1⟩

lemma kind_writePcm (c : ℕ) (ok : Bool) (y : Sink) : (writePcm c ok y).kind = y.kind := by
  unfold writePcm
  split <;> split <;> rfl

lemma others_stepLoop {i : ℕ} {w : Outcome} (hs : stepLoop s i w = some t) :
    Others s t ∧ t.calls = s.calls := by
  unfold stepLoop at hs
  obtain ⟨l, hl, hs⟩ := Option.bind_eq_some_iff.mp hs
  dsimp only at hs
  split at hs
  · obtain rfl := Option.some.inj hs
    exact ⟨others_setLoop, rfl⟩
  · obtain rfl := Option.some.inj hs
    exact ⟨others_setLoop, rfl⟩
  · split at hs <;> obtain rfl := Option.some.inj hs
    · exact ⟨others_setLoop, rfl⟩
    · exact ⟨others_setLoop, rfl⟩
  · split at hs
    · obtain rfl := Option.some.inj hs
      exact ⟨others_setLoop, rfl⟩
    · split at hs
      · cases hs
      · obtain rfl := Option.some.inj hs
        exact ⟨others_setLoop, rfl⟩
  · obtain rfl := Option.some.inj hs
    exact ⟨(others_setSink (kind_writePcm _ _)).trans others_setLoop, rfl⟩
  · obtain rfl := Option.some.inj hs
    exact ⟨others_setLoop, rfl⟩
  · cases hs

lemma others_stepWriter {i : ℕ} {w : Outcome} (hs : stepWriter s i w = some t) :
    Others s t ∧ t.calls = s.calls := by
  unfold stepWriter at hs
  obtain ⟨v, hv, hs⟩ := Option.bind_eq_some_iff.mp hs
  obtain ⟨y, hy, hs⟩ := Option.bind_eq_some_iff.mp hs
  split at hs
  · obtain rfl := Option.some.inj hs
    exact ⟨others_setWriter, rfl⟩
  · split at hs
    · obtain rfl := Option.some.inj hs
      exact ⟨others_setWriter, rfl⟩
    · next chunk rest hq =>
        obtain rfl := Option.some.inj hs
        exact ⟨(others_setSink (f := fun y => { y with queue := rest }) fun _ => rfl).trans
          others_setWriter, rfl⟩
  · split at hs
    · obtain rfl := Option.some.inj hs
      exact ⟨others_setWriter, rfl⟩
    · split at hs <;> obtain rfl := Option.some.inj hs
      · exact ⟨(others_setSink (f := fun y => { y with written := _ :: y.written })
          fun _ => rfl).trans others_setWriter, rfl⟩
      · exact ⟨others_setWriter, rfl⟩
  · cases hs

lemma others_emit (hs : emit s k = some t) : Others s t ∧ t.calls = s.calls := by
  unfold emit at hs
  obtain ⟨p, hp, hs⟩ := Option.bind_eq_some_iff.mp hs
  split at hs
  · split at hs
    · obtain ⟨y, hy, hs⟩ := Option.bind_eq_some_iff.mp hs
      split at hs
      · obtain rfl := Option.some.inj hs
        exact ⟨others_setSink fun _ => rfl, rfl⟩
      · cases hs
    · cases hs
  · cases hs

/-- What the threads and the processes do keeps the order of the audio, and is beside the call. -/
lemma world_step {e : Event} (h : Orderly s) (hcall : callOf e = none)
    (hadvance : ∀ i w, e ≠ .advance i w) (hs : step s e = some t) :
    Orderly t ∧ Others s t ∧ t.calls = s.calls := by
  cases e with
  | startStation cfg atOffset => cases hcall
  | stopStation => cases hcall
  | recoverStation => cases hcall
  | liveMicStart => cases hcall
  | advance i w => exact absurd rfl (hadvance i w)
  | loop i w => exact ⟨inv_stepLoop h hs, others_stepLoop hs⟩
  | writer i w => exact ⟨inv_stepWriter h hs, others_stepWriter hs⟩
  | emit k => exact ⟨inv_emit h hs, others_emit hs⟩
  | exit k =>
    obtain rfl := Option.some.inj hs
    exact ⟨inv_terminate h k, others_exit, rfl⟩
  | sinkExit x =>
    obtain rfl := Option.some.inj hs
    exact ⟨inv_setSink h fun y _ => ⟨rfl, rfl, .refl _⟩, others_setSink fun _ => rfl, rfl⟩

lemma step_call {e : Event} {p : Program Unit} (hcall : callOf e = some p)
    (hs : step s e = some t) : ∃ locks, StationRuntime.begin s locks p = some t := by
  cases e <;> cases hcall
  all_goals exact ⟨_, hs⟩

/-- **One call at a time.** When every call keeps what holds between calls, so does every step
at which nobody calls while another call is in progress. -/
theorem inTurn_step {e : Event} (h : InTurn between s) (hstable : Stable Others between)
    (hcalls : ∀ p, callOf e = some p → Does between p (fun _ => between) fun _ => between)
    (hone : oneAtATime s e = true) (hs : step s e = some t) : InTurn between t := by
  cases hcall : callOf e with
  | some p =>
    obtain ⟨locks, hbegin⟩ := step_call hcall hs
    refine h.begin (fun c hc => ?_) (hcalls p hcall) hbegin
    simp only [oneAtATime, hcall, Option.isNone_some, Bool.false_or, List.all_eq_true,
      Bool.not_eq_true'] at hone
    exact hone c hc
  | none =>
    by_cases hadvance : ∃ i w, e = .advance i w
    · obtain ⟨i, w, rfl⟩ := hadvance
      exact h.advance hs
    · push Not at hadvance
      obtain ⟨horderly, hothers, hsame⟩ := world_step h.orderly hcall hadvance hs
      exact h.interfere hstable hothers hsame horderly

lemma settled_calls {e : Event} {p : Program Unit} (hcall : callOf e = some p) :
    Does Settled p (fun _ => Settled) fun _ => Settled := by
  have hsettled : ∀ s, Silent s → Settled s := fun s h => h.imp_right fun h => h.owned
  cases e <;> cases hcall
  · exact startStation_settled
  · exact stopStation_does.conseq (fun _ h => h) (fun _ => hsettled) fun _ => hsettled
  · exact recoverStation_settled
  · exact handleLiveMicStart_settled

lemma inTurn_initial : InTurn Settled initial :=
  ⟨inv_initial, 0, fun j c hj => by simp [initial] at hj, fun c hc => by simp [initial] at hc,
    fun _ => .inl ⟨rfl, funext fun role => by cases role <;> rfl, rfl⟩⟩

end OnAir.StationCalls
