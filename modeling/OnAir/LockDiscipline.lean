import OnAir.MicRegistryLock

/-!
No operation of the live input registry waits for itself, but two.

Whatever is done under the lock leaves it held, and whatever is done with the lock gives it back,
so a program of such parts is safe. `snapshot` takes the lock; `stop_render_transmission` and
`stop_live_input` call it under the lock for a user who is not the active one. That user's stop
leaves the station as it was, also where it never returns.
-/

namespace OnAir.LockDiscipline

open Resumption MicRegistryLock
open LiveMicRegistry (Station isOwner)

variable {α β : Type}

/-! ### What an operation does to the lock -/

/-- The lock has never been taken by the thread that held it. -/
def Goes (s : State) : Prop := s.lock ≠ .waiting

/-- Wherever the program goes from these stations, it takes the lock only when it does not hold
it, and has given it back when it returns or raises. -/
def NeverWaits (c : Call) (stations : Stations) : Prop :=
  Safe execute Goes Eq (fun _ s => s.lock = .free) (fun _ s => s.lock = .free) c.program
    (State.start stations)

/-- As long as the lock is held, the station is what it was when the lock was taken. -/
def Unchanged (sid : ℤ) (s : State) : Prop :=
  s.lock ≠ .free → stationOf s.stations sid = stationOf s.found sid

/-- The station for which a user stops what another user has started. -/
def foreignStop (stations : Stations) : Call → Option ℤ
  | .stopTransmission sid userId | .stopRtcSession sid userId
  | .stopRenderTransmission sid userId | .stopLiveInput sid userId =>
    if isOwner (stationOf stations sid) userId then none else some sid
  | _ => none

/-- A stop by a user who is not the active one leaves the station unchanged. -/
def LeavesStation (c : Call) (stations : Stations) : Prop :=
  ∀ sid, foreignStop stations c = some sid →
    Safe execute (Unchanged sid) Eq (fun _ _ => True) (fun _ _ => True) c.program
      (State.start stations)

/-- The call asks for a snapshot while it holds the lock. -/
def asksUnderLock (stations : Stations) : Call → Bool
  | .stopRenderTransmission sid userId | .stopLiveInput sid userId =>
    !isOwner (stationOf stations sid) userId
  | _ => false

/-- The program starts and ends with the lock as it is. -/
def Keeps (l : Lock) (p : Program α) : Prop :=
  Triple execute Goes Eq (fun s => s.lock = l) p (fun _ s => s.lock = l) fun _ s => s.lock = l

/-- Only `with` does. -/
def touchesLock : {β : Type} → Op β → Bool
  | _, .acquire | _, .release => true
  | _, _ => false

lemma execute_eq_some {o : Op β} {w : World} {s t : State} {b : β}
    (h : execute o w s = some (b, t)) : perform o w s = (b, t) := by
  unfold execute at h
  split at h
  · cases h
  · exact Option.some.inj h

lemma perform_lock {o : Op β} {w : World} {s t : State} {b : β}
    (h : perform o w s = (b, t)) (ho : touchesLock o = false) : t.lock = s.lock := by
  cases o
  case acquire | release => cases ho
  all_goals
    cases h
    rfl

section Keeps

variable {l : Lock} {p : Program α}

lemma keeps_pure (a : α) : Keeps l (pure a) := Triple.pureAlone fun _ h => h

lemma keeps_raise (e : Raised) : Keeps l (.raise e : Program α) :=
  Triple.raiseAlone fun _ h => h

lemma Keeps.bind {f : α → Program β} (hp : Keeps l p) (hf : ∀ a, Keeps l (f a)) :
    Keeps l (p >>= f) :=
  Triple.bind (fun _ => rfl) hp hf

lemma Keeps.quietly {p : Program Unit} (hp : Keeps l p) : Keeps l (quietly p) :=
  Triple.tryCatch (fun _ => rfl) hp fun _ => keeps_pure ()

variable (hl : l ≠ .waiting)

include hl

lemma keeps_op {o : Op α} (ho : touchesLock o = false) : Keeps l (op o) := by
  refine Triple.performAlone fun s w a u _ hs hrun => ?_
  have hu : u.lock = l := (perform_lock (execute_eq_some hrun) ho).trans hs
  exact ⟨fun h => hl (hu.symm.trans h), hu⟩

lemma keeps_ask {o : Op (Answer α)} (ho : touchesLock o = false) : Keeps l (ask o) := by
  refine (keeps_op hl ho).bind fun r => ?_
  cases r with
  | ok a => exact keeps_pure a
  | error e => exact keeps_raise e

lemma keeps_stateFor (sid : ℤ) : Keeps l (stateFor sid) := by
  refine (keeps_op hl rfl).bind fun stations => ?_
  split
  · exact keeps_pure _
  · exact (keeps_op hl rfl).bind fun _ => keeps_pure _

lemma keeps_write (sid : ℤ) (st : Station) : Keeps l (write sid st) :=
  (keeps_op hl rfl).bind fun _ => keeps_op hl rfl

lemma keeps_isActive (k : Option ℕ) : Keeps l (isActive k) := by
  cases k with
  | none => exact keeps_pure _
  | some k => exact keeps_ask hl rfl

lemma keeps_stop (k : Option ℕ) : Keeps l (stop k) := by
  cases k with
  | none => exact keeps_pure _
  | some k => exact (keeps_ask hl rfl).quietly

lemma keeps_stopRtc (k : Option ℕ) : Keeps l (stopRtc k) := by
  cases k with
  | none => exact keeps_pure _
  | some k => exact keeps_op hl rfl

lemma keeps_anyActive (ks : List ℕ) : Keeps l (anyActive ks) := by
  induction ks with
  | nil => exact keeps_pure _
  | cons k ks ih =>
    refine (keeps_ask hl rfl).bind fun b => ?_
    split
    · exact keeps_pure _
    · exact ih

end Keeps

/-! ### With the lock -/

lemma release_frees (P : State → Prop) {E : Raised → State → Prop} :
    Triple execute Goes Eq P (op .release) (fun _ s => s.lock = .free) E := by
  intro s _ t _ _ w a u hrun
  obtain ⟨-, rfl⟩ := Prod.mk.inj (execute_eq_some hrun).symm
  refine ⟨by simp [Goes], ?_⟩
  rintro _ rfl
  rfl

/-- What is done under the lock may use what the thread has found. -/
lemma withLock_rule {F : Stations → Prop} {p : Program α}
    (hp : Triple execute Goes Eq (fun s => s.lock = .held ∧ F s.stations) p
      (fun _ s => s.lock = .held) fun _ s => s.lock = .held) :
    Triple execute Goes Eq (fun s => s.lock = .free ∧ F s.stations) (withLock p)
      (fun _ s => s.lock = .free) fun _ s => s.lock = .free := by
  refine Triple.bind (Q := fun _ s => s.lock = .held ∧ F s.stations) (fun _ => rfl) ?_ fun _ => ?_
  · refine Triple.performAlone fun s w a u _ hs hrun => ?_
    obtain ⟨-, rfl⟩ := Prod.mk.inj (execute_eq_some hrun).symm
    have hu : s.acquires = { s with lock := .held, found := s.stations } := by
      simp only [State.acquires, hs.1]
    rw [hu]
    exact ⟨by simp [Goes], rfl, hs.2⟩
  refine Triple.bind (Q := fun _ s => s.lock = .held) (fun _ => rfl) ?_ fun a => ?_
  · refine Triple.tryCatch (fun _ => rfl) hp fun e => ?_
    exact Triple.bind (fun _ => rfl) (release_frees _) fun _ =>
      Triple.raiseAlone fun _ h => h
  · exact Triple.bind (fun _ => rfl) (release_frees _) fun _ => keeps_pure a

lemma keeps_withLock {p : Program α} (hp : Keeps .held p) : Keeps .free (withLock p) :=
  (withLock_rule (F := fun _ => True) (hp.conseq (fun _ h => h.1) (fun _ _ h => h)
    fun _ _ h => h)).conseq (fun _ h => ⟨h, trivial⟩) (fun _ _ h => h) fun _ _ h => h

/-! ### The operations -/

lemma free_ne : Lock.free ≠ .waiting := by decide

lemma held_ne : Lock.held ≠ .waiting := by decide

lemma keeps_exchange (sid : ℤ) (f : Station → Station) : Keeps .free (exchange sid f) := by
  refine keeps_withLock ((keeps_stateFor held_ne sid).bind fun st => ?_)
  exact (keeps_write held_ne sid _).bind fun _ => keeps_pure st

lemma keeps_snapshot (sid : ℤ) : Keeps .free (snapshot sid) := by
  refine (keeps_withLock ((keeps_stateFor held_ne sid).bind fun st => ?_)).bind fun found => ?_
  · refine (keeps_isActive held_ne _).bind fun renderActive => ?_
    exact (keeps_isActive held_ne _).bind fun rtcActive => keeps_pure _
  · obtain ⟨status, source⟩ := found
    cases source with
    | none => exact keeps_pure _
    | some k => exact (keeps_ask free_ne rfl).bind fun _ => keeps_pure _

lemma keeps_announce (event : String) (sid : ℤ) : Keeps .free (announce event sid) :=
  (keeps_snapshot sid).bind fun p => (keeps_op free_ne rfl).bind fun _ => keeps_pure p

/-- The sessions of a station are stopped outside the lock, and the listeners are told. -/
lemma keeps_replace (event : String) (sid : ℤ) (k rtc render : Option ℕ) :
    Keeps .free (do
      stop k
      stopRtc rtc
      stop render
      announce event sid) :=
  (keeps_stop free_ne k).bind fun _ => (keeps_stopRtc free_ne rtc).bind fun _ =>
    (keeps_stop free_ne render).bind fun _ => keeps_announce event sid

lemma keeps_stopAll (stations : Stations) : Keeps .free (stopAll stations) := by
  induction stations with
  | nil => exact keeps_pure _
  | cons e rest ih =>
    exact (keeps_stop free_ne _).bind fun _ => (keeps_stopRtc free_ne _).bind fun _ =>
      (keeps_stop free_ne _).bind fun _ => ih

lemma keeps_reset : Keeps .free reset := by
  refine (keeps_withLock ?_).bind keeps_stopAll
  exact (keeps_op held_ne rfl).bind fun _ => (keeps_op held_ne rfl).bind fun _ => keeps_pure _

lemma keeps_ensureSession (sid : ℤ) : Keeps .free (ensureSession sid) := by
  refine (keeps_withLock ((keeps_stateFor held_ne sid).bind fun st => ?_)).bind fun session => ?_
  · split
    · exact keeps_pure _
    · exact (keeps_ask held_ne rfl).bind fun _ =>
        (keeps_write held_ne sid _).bind fun _ => keeps_pure _
  · split
    · exact keeps_raise _
    · refine (keeps_ask free_ne rfl).bind fun running => ?_
      split
      · exact keeps_pure _
      · exact (keeps_ask free_ne rfl).bind fun _ => keeps_pure _

lemma keeps_startTransmission (sid : ℤ) (user : LiveMicRegistry.User) :
    Keeps .free (startTransmission sid user) :=
  (keeps_exchange sid _).bind fun _ => (keeps_stopRtc free_ne _).bind fun _ =>
    (keeps_stop free_ne _).bind fun _ => keeps_announce _ _

lemma keeps_startRenderTransmission (sid : ℤ) (user : LiveMicRegistry.User) (o : RenderOptions) :
    Keeps .free (startRenderTransmission sid user o) := by
  refine (keeps_ask free_ne rfl).bind fun k => (keeps_ask free_ne rfl).bind fun running => ?_
  have hrest : Keeps .free (do
      let old ← exchange sid fun st =>
        (LiveMicRegistry.startRenderTransmission user o.sourceName k st).1
      stop old.session
      stopRtc old.rtcSession
      stop (old.renderSession.filter (· ≠ k))
      announce "start" sid) :=
    (keeps_exchange sid _).bind fun _ => keeps_replace _ _ _ _ _
  split
  · exact (keeps_ask free_ne rfl).bind fun _ => hrest
  · exact hrest

lemma keeps_pushRenderChunk (sid : ℤ) (chunk : List UInt8) :
    Keeps .free (pushRenderChunk sid chunk) := by
  refine (keeps_withLock (keeps_stateFor held_ne sid)).bind fun st => ?_
  split
  · exact keeps_raise _
  · refine (keeps_ask free_ne rfl).bind fun running => ?_
    split
    · exact (keeps_ask free_ne rfl).bind fun _ => keeps_snapshot sid
    · exact keeps_raise _

lemma keeps_pushChunk (sid : ℤ) (chunk : List UInt8) : Keeps .free (pushChunk sid chunk) := by
  refine (keeps_withLock (keeps_stateFor held_ne sid)).bind fun st =>
    (keeps_anyActive free_ne _).bind fun active => ?_
  split
  · exact keeps_snapshot sid
  · exact (keeps_ensureSession sid).bind fun _ => (keeps_ask free_ne rfl).bind fun _ =>
      keeps_snapshot sid

lemma keeps_readPcm (sid : ℤ) (numBytes : ℤ) : Keeps .free (readPcm sid numBytes) := by
  unfold readPcm
  split
  · exact keeps_pure _
  refine (keeps_withLock (keeps_stateFor held_ne sid)).bind fun st =>
    (keeps_isActive free_ne _).bind fun renderActive => ?_
  split
  · exact keeps_ask free_ne rfl
  refine (keeps_isActive free_ne _).bind fun rtcActive => ?_
  split
  · exact keeps_ask free_ne rfl
  split
  · exact keeps_pure _
  · exact keeps_ask free_ne rfl

/-! ### The owner's stop -/

/-- From stations of which something is known, the program gives back the lock. -/
def FreesFrom (F : Stations → Prop) (p : Program α) : Prop :=
  Triple execute Goes Eq (fun s => s.lock = .free ∧ F s.stations) p (fun _ s => s.lock = .free)
    fun _ s => s.lock = .free

lemma Keeps.freesFrom {p : Program α} (h : Keeps .free p) (F : Stations → Prop) : FreesFrom F p :=
  h.conseq (fun _ hs => hs.1) (fun _ _ h => h) fun _ _ h => h

lemma FreesFrom.bind {F : Stations → Prop} {p : Program α} {f : α → Program β}
    (hp : FreesFrom F p) (hf : ∀ a, Keeps .free (f a)) : FreesFrom F (p >>= f) :=
  Triple.bind (fun _ => rfl) hp hf

/-- Under the lock the station is what was found. -/
lemma stateFor_finds (sid : ℤ) (F : Station → Prop) :
    Triple execute Goes Eq (fun s => s.lock = .held ∧ F (stationOf s.stations sid)) (stateFor sid)
      (fun st s => s.lock = .held ∧ F st) fun _ s => s.lock = .held := by
  refine Triple.bind
    (Q := fun stations s => s.lock = .held ∧ F (stationOf stations sid)) (fun _ => rfl) ?_
    fun stations => ?_
  · refine Triple.performAlone fun s w a u _ hs hrun => ?_
    obtain ⟨rfl, rfl⟩ := Prod.mk.inj (execute_eq_some hrun).symm
    exact ⟨by rw [Goes, hs.1]; decide, hs⟩
  · unfold stationOf
    cases hst : stations.lookup sid with
    | some st => exact Triple.pureAlone fun _ h => h
    | none =>
      refine Triple.bind (Q := fun _ s => s.lock = .held ∧ F Station.unused) (fun _ => rfl) ?_
        fun _ => Triple.pureAlone fun _ h => h
      refine Triple.performAlone fun s w a u _ hs hrun => ?_
      obtain ⟨-, rfl⟩ := Prod.mk.inj (execute_eq_some hrun).symm
      exact ⟨fun h => held_ne (hs.1.symm.trans h), hs⟩

lemma releaseOwned_frees (sid : ℤ) (userId : Option ℤ) (f : Station → Station) :
    FreesFrom (fun stations => isOwner (stationOf stations sid) userId = true)
      (releaseOwned sid userId f) := by
  refine withLock_rule (F := fun stations => isOwner (stationOf stations sid) userId = true) ?_
  refine Triple.bind (fun _ => rfl)
    (stateFor_finds sid fun st => isOwner st userId = true) fun st => ?_
  by_cases howner : isOwner st userId = true
  · simp only [howner, if_true]
    exact ((keeps_write held_ne sid _).bind fun _ => keeps_pure _).conseq (fun _ h => h.1)
      (fun _ _ h => h) fun _ _ h => h
  · exact fun s hs => absurd hs.2 howner

lemma stopRenderTransmission_frees (sid : ℤ) (userId : Option ℤ) :
    FreesFrom (fun stations => isOwner (stationOf stations sid) userId = true)
      (stopRenderTransmission sid userId) := by
  refine (releaseOwned_frees sid userId _).bind fun r => ?_
  cases r with
  | inl p => exact keeps_pure _
  | inr old => exact (keeps_stop free_ne _).bind fun _ => keeps_announce _ _

lemma stopLiveInput_frees (sid : ℤ) (userId : Option ℤ) :
    FreesFrom (fun stations => isOwner (stationOf stations sid) userId = true)
      (stopLiveInput sid userId) := by
  refine (releaseOwned_frees sid userId _).bind fun r => ?_
  cases r with
  | inl p => exact keeps_pure _
  | inr old => exact keeps_replace _ _ _ _ _

/-- A call that does not ask for a snapshot under the lock gives the lock back. -/
lemma program_frees {c : Call} (stations : Stations) (hc : asksUnderLock stations c = false) :
    FreesFrom (· = stations) c.program := by
  cases c with
  | registerListener listener =>
    refine ((?_ : Keeps .free (registerListener listener)).bind fun _ => keeps_pure _).freesFrom _
    cases listener with
    | none => exact keeps_pure _
    | some listener => exact keeps_op free_ne rfl
  | reset => exact (keeps_reset.bind fun _ => keeps_pure _).freesFrom _
  | startTransmission sid user =>
    exact ((keeps_startTransmission sid user).bind fun _ => keeps_pure _).freesFrom _
  | stopTransmission sid userId =>
    exact (((keeps_exchange sid _).bind fun _ => keeps_announce _ _).bind
      fun _ => keeps_pure _).freesFrom _
  | startRtcSession sid k user =>
    exact (((keeps_exchange sid _).bind fun _ => keeps_replace _ _ _ _ _).bind
      fun _ => keeps_pure _).freesFrom _
  | stopRtcSession sid userId =>
    exact (((keeps_exchange sid _).bind fun _ => (keeps_stopRtc free_ne _).bind
      fun _ => keeps_announce _ _).bind fun _ => keeps_pure _).freesFrom _
  | getRtcSession sid =>
    exact ((keeps_withLock ((keeps_op held_ne rfl).bind fun _ => keeps_pure _)).bind
      fun _ => keeps_pure _).freesFrom _
  | startRenderTransmission sid user o =>
    exact ((keeps_startRenderTransmission sid user o).bind fun _ => keeps_pure _).freesFrom _
  | pushRenderChunk sid chunk =>
    exact ((keeps_pushRenderChunk sid chunk).bind fun _ => keeps_pure _).freesFrom _
  | stopRenderTransmission sid userId =>
    have howner : isOwner (stationOf stations sid) userId = true := by
      simpa [asksUnderLock] using hc
    refine FreesFrom.bind ((stopRenderTransmission_frees sid userId).conseq ?_ (fun _ _ h => h)
      fun _ _ h => h) fun _ => keeps_pure _
    rintro s ⟨hs, rfl⟩
    exact ⟨hs, howner⟩
  | stopLiveInput sid userId =>
    have howner : isOwner (stationOf stations sid) userId = true := by
      simpa [asksUnderLock] using hc
    refine FreesFrom.bind ((stopLiveInput_frees sid userId).conseq ?_ (fun _ _ h => h)
      fun _ _ h => h) fun _ => keeps_pure _
    rintro s ⟨hs, rfl⟩
    exact ⟨hs, howner⟩
  | pushChunk sid chunk =>
    exact ((keeps_pushChunk sid chunk).bind fun _ => keeps_pure _).freesFrom _
  | readPcm sid numBytes =>
    exact ((keeps_readPcm sid numBytes).bind fun _ => keeps_pure _).freesFrom _
  | snapshot sid => exact ((keeps_snapshot sid).bind fun _ => keeps_pure _).freesFrom _

/-! ### Another user's stop -/

section Unchanged

variable {sid : ℤ}

/-- From a station of which something is known, the program leaves it as it is under the lock. -/
def StaysFrom (sid : ℤ) (F : Station → Prop) (p : Program α) : Prop :=
  Triple execute (Unchanged sid) Eq (fun s => F (stationOf s.stations sid)) p (fun _ _ => True)
    fun _ _ => True

/-- The program leaves the station as it is, whatever that is. -/
def Stays (sid : ℤ) (p : Program α) : Prop := StaysFrom sid (fun _ => True) p

lemma stays_pure (a : α) : Stays sid (pure a) := Triple.pureAlone fun _ h => h

lemma stays_raise (e : Raised) : Stays sid (.raise e : Program α) :=
  Triple.raiseAlone fun _ h => h

lemma StaysFrom.bind {F : Station → Prop} {p : Program α} {f : α → Program β}
    (hp : StaysFrom sid F p) (hf : ∀ a, Stays sid (f a)) : StaysFrom sid F (p >>= f) :=
  Triple.bind (fun _ => rfl) hp fun a => (hf a).conseq (fun _ _ => trivial) (fun _ _ h => h)
    fun _ _ h => h

lemma Stays.bind {p : Program α} {f : α → Program β} (hp : Stays sid p)
    (hf : ∀ a, Stays sid (f a)) : Stays sid (p >>= f) :=
  StaysFrom.bind hp hf

lemma Stays.quietly {p : Program Unit} (hp : Stays sid p) : Stays sid (quietly p) :=
  Triple.tryCatch (F := fun _ _ => True) (fun _ => rfl) hp fun _ => stays_pure ()

/-- Only a write may change a station that is locked. -/
lemma stays_op {o : Op α} (ho : ∀ w s, Unchanged sid s → Unchanged sid (perform o w s).2) :
    Stays sid (op o) := by
  refine Triple.performAlone fun s w a u hs _ hrun => ?_
  have hu := ho w s hs
  rw [execute_eq_some hrun] at hu
  exact ⟨hu, trivial⟩

lemma stays_ask {o : Op (Answer α)}
    (ho : ∀ w s, Unchanged sid s → Unchanged sid (perform o w s).2) : Stays sid (ask o) := by
  refine (stays_op ho).bind fun r => ?_
  cases r with
  | ok a => exact stays_pure a
  | error e => exact stays_raise e

lemma unchanged_acquires {s : State} (h : Unchanged sid s) : Unchanged sid s.acquires := by
  unfold State.acquires
  split
  · exact fun _ => rfl
  case h_2 hlock => exact fun _ => h hlock

lemma withLock_stays {F : Station → Prop} {p : Program α} (hp : StaysFrom sid F p) :
    StaysFrom sid F (withLock p) := by
  have hrelease : Stays sid (op .release) := stays_op fun _ _ _ h => absurd rfl h
  refine Triple.bind (Q := fun _ s => F (stationOf s.stations sid)) (fun _ => rfl) ?_ fun _ => ?_
  · refine Triple.performAlone fun s w a u hs hF hrun => ?_
    obtain ⟨-, rfl⟩ := Prod.mk.inj (execute_eq_some hrun).symm
    refine ⟨unchanged_acquires hs, ?_⟩
    unfold State.acquires
    split <;> exact hF
  refine StaysFrom.bind ?_ fun a => hrelease.bind fun _ => stays_pure a
  exact Triple.tryCatch (F := fun _ _ => True) (fun _ => rfl) hp fun e =>
    hrelease.bind fun _ => stays_raise e

lemma stationOf_append_unused {stations : Stations} {other : ℤ} :
    stationOf (stations ++ [(other, Station.unused)]) sid = stationOf stations sid := by
  unfold stationOf
  rw [List.lookup_append]
  cases hsid : stations.lookup sid with
  | some st => rfl
  | none =>
    by_cases hother : sid = other
    · simp [hother]
    · simp [List.lookup_cons, beq_eq_false_iff_ne.mpr hother]

/-- The station that is locked is returned, and is as it was found. -/
lemma stateFor_stays (other : ℤ) (F : Station → Prop) :
    Triple execute (Unchanged sid) Eq (fun s => F (stationOf s.stations other)) (stateFor other)
      (fun st s => F st ∧ stationOf s.stations other = st) fun _ _ => True := by
  refine Triple.bind
    (Q := fun stations s => s.stations = stations ∧ F (stationOf stations other))
    (fun _ => rfl) ?_ fun stations => ?_
  · refine Triple.performAlone fun s w a u hs hF hrun => ?_
    obtain ⟨rfl, rfl⟩ := Prod.mk.inj (execute_eq_some hrun).symm
    exact ⟨hs, rfl, hF⟩
  · cases hst : stations.lookup other with
    | some st =>
      have hof : stationOf stations other = st := by rw [stationOf, hst]; rfl
      exact Triple.pureAlone fun s hs => ⟨hof ▸ hs.2, hs.1.symm ▸ hof⟩
    | none =>
      have hof : stationOf stations other = Station.unused := by rw [stationOf, hst]; rfl
      refine Triple.bind (Q := fun _ s => F Station.unused ∧
        stationOf s.stations other = Station.unused) (fun _ => rfl) ?_
        fun _ => Triple.pureAlone fun _ h => h
      refine Triple.performAlone fun s w a u hs hF hrun => ?_
      obtain ⟨-, rfl⟩ := Prod.mk.inj (execute_eq_some hrun).symm
      obtain ⟨rfl, hF⟩ := hF
      refine ⟨fun hlock => ?_, hof ▸ hF, stationOf_append_unused.trans hof⟩
      exact stationOf_append_unused.trans (hs hlock)

lemma stays_stateFor (other : ℤ) : Stays sid (stateFor other) :=
  (stateFor_stays other fun _ => True).conseq (fun _ h => h) (fun _ _ _ => trivial) fun _ _ h => h

lemma stays_isActive (k : Option ℕ) : Stays sid (isActive k) := by
  cases k with
  | none => exact stays_pure _
  | some k => exact stays_ask fun _ _ h => h

lemma stays_stop (k : Option ℕ) : Stays sid (stop k) := by
  cases k with
  | none => exact stays_pure _
  | some k => exact (stays_ask (o := .stopSession k) fun _ _ h => h).quietly

lemma stays_stopRtc (k : Option ℕ) : Stays sid (stopRtc k) := by
  cases k with
  | none => exact stays_pure _
  | some k => exact stays_op (o := .stopRtc k) fun _ _ h => h

lemma stays_snapshot (other : ℤ) : Stays sid (snapshot other) := by
  refine Stays.bind (withLock_stays ((stays_stateFor other).bind fun st => ?_)) fun found => ?_
  · refine (stays_isActive _).bind fun renderActive => ?_
    exact (stays_isActive _).bind fun rtcActive => stays_pure _
  · obtain ⟨status, source⟩ := found
    cases source with
    | none => exact stays_pure _
    | some k => exact (stays_ask (o := .levels k) fun _ _ h => h).bind fun _ => stays_pure _

lemma stays_announce (event : String) (other : ℤ) : Stays sid (announce event other) :=
  (stays_snapshot other).bind fun p =>
    (stays_op (o := .notify event p) fun _ _ h => h).bind fun _ => stays_pure p

lemma setStation_same {stations : Stations} :
    stationOf (setStation stations sid (stationOf stations sid)) sid = stationOf stations sid := by
  induction stations with
  | nil => rfl
  | cons e stations ih =>
    obtain ⟨other, st⟩ := e
    by_cases hother : other = sid
    · subst hother
      simp [stationOf, setStation]
    · have hne : (sid == other) = false := beq_eq_false_iff_ne.mpr (Ne.symm hother)
      simpa [stationOf, setStation, List.lookup_cons, hother, hne] using ih

/-- What would leave the station as it is may be written. -/
lemma exchange_stays {F : Station → Prop} {f : Station → Station} (hf : ∀ st, F st → f st = st) :
    StaysFrom sid F (exchange sid f) := by
  refine withLock_stays (Triple.bind (fun _ => rfl) (stateFor_stays sid F) fun st => ?_)
  refine Triple.bind (Q := fun _ _ => True) (fun _ => rfl) ?_ fun _ => stays_pure st
  refine Triple.bind (Q := fun stations s => s.stations = stations ∧
    f st = stationOf stations sid) (fun _ => rfl) ?_ fun stations => ?_
  · refine Triple.performAlone fun s w a u hs hF hrun => ?_
    obtain ⟨rfl, rfl⟩ := Prod.mk.inj (execute_eq_some hrun).symm
    exact ⟨hs, rfl, (hf st hF.1).trans hF.2.symm⟩
  · refine Triple.performAlone fun s w a u hs hF hrun => ?_
    obtain ⟨-, rfl⟩ := Prod.mk.inj (execute_eq_some hrun).symm
    obtain ⟨rfl, hfst⟩ := hF
    refine ⟨fun hlock => ?_, trivial⟩
    rw [hfst]
    exact setStation_same.trans (hs hlock)

lemma releaseOwned_stays {userId : Option ℤ} {f : Station → Station} :
    StaysFrom sid (fun st => isOwner st userId = false) (releaseOwned sid userId f) := by
  refine withLock_stays (Triple.bind (fun _ => rfl)
    (stateFor_stays sid fun st => isOwner st userId = false) fun st => ?_)
  by_cases howner : isOwner st userId = true
  · exact fun s hs => absurd (hs.1.symm.trans howner) (by decide)
  · rw [if_neg howner]
    exact ((stays_snapshot sid).bind fun _ => stays_pure _).conseq (fun _ _ => trivial)
      (fun _ _ h => h) fun _ _ h => h

/-- What is known is which station it is. -/
lemma StaysFrom.from_station {st : Station} {userId : Option ℤ} {p : Program α}
    (h : StaysFrom sid (fun st => isOwner st userId = false) p)
    (hst : ¬ isOwner st userId = true) : StaysFrom sid (· = st) p :=
  h.conseq (fun _ hs => hs ▸ Bool.eq_false_iff.mpr hst) (fun _ _ h => h) fun _ _ h => h

end Unchanged

lemma leavesStation (c : Call) (stations : Stations) : LeavesStation c stations := by
  intro sid hsid
  have hfrom : StaysFrom sid (· = stationOf stations sid) c.program := by
    cases c with
    | stopTransmission other userId =>
      simp only [foreignStop, Option.ite_none_left_eq_some, Option.some.injEq] at hsid
      obtain ⟨howner, rfl⟩ := hsid
      refine StaysFrom.bind (StaysFrom.bind (exchange_stays ?_) fun _ => stays_announce _ _)
        fun _ => stays_pure _
      rintro _ rfl
      exact if_neg howner
    | stopRtcSession other userId =>
      simp only [foreignStop, Option.ite_none_left_eq_some, Option.some.injEq] at hsid
      obtain ⟨howner, rfl⟩ := hsid
      refine StaysFrom.bind (StaysFrom.bind (exchange_stays ?_) fun old =>
        Stays.bind (stays_stopRtc _) fun _ => stays_announce _ _) fun _ => stays_pure _
      rintro _ rfl
      exact congrArg Prod.fst (if_neg howner)
    | stopRenderTransmission other userId =>
      simp only [foreignStop, Option.ite_none_left_eq_some, Option.some.injEq] at hsid
      obtain ⟨howner, rfl⟩ := hsid
      refine StaysFrom.bind (StaysFrom.bind (releaseOwned_stays.from_station howner) fun r => ?_)
        fun _ => stays_pure _
      cases r with
      | inl p => exact stays_pure p
      | inr old => exact (stays_stop _).bind fun _ => stays_announce _ _
    | stopLiveInput other userId =>
      simp only [foreignStop, Option.ite_none_left_eq_some, Option.some.injEq] at hsid
      obtain ⟨howner, rfl⟩ := hsid
      refine StaysFrom.bind (StaysFrom.bind (releaseOwned_stays.from_station howner) fun r => ?_)
        fun _ => stays_pure _
      cases r with
      | inl p => exact stays_pure p
      | inr old =>
        exact (stays_stop _).bind fun _ => (stays_stopRtc _).bind fun _ =>
          (stays_stop _).bind fun _ => stays_announce _ _
    | _ => cases hsid
  exact hfrom _ rfl

/-! ### The calls that wait for themselves -/

/-- What `stateFor` makes of the stations it has loaded. -/
def found (sid : ℤ) (stations : Stations) : Program Station :=
  match stations.lookup sid with
  | some st => pure st
  | none => do
    op (.store (stations ++ [(sid, Station.unused)]))
    return Station.unused

lemma found_of_lookup {sid : ℤ} {stations : Stations} {st : Station}
    (h : stations.lookup sid = some st) : found sid stations = pure st := by
  rw [found, h]

/-- Two of the stops take the lock that they hold. -/
lemma releaseOwned_waits {stations : Stations} {sid : ℤ} {userId : Option ℤ}
    {f : Station → Station} {Q : Payload ⊕ Station → State → Prop} {E : Raised → State → Prop}
    (howner : isOwner (stationOf stations sid) userId = false) :
    ¬ Safe execute Goes Eq Q E (releaseOwned sid userId f) (State.start stations) := by
  intro h
  let w : World := ⟨false, false, none, 0, [], Levels.default, []⟩
  have hacquired := (h _ rfl (by simp [Goes, State.start]) w _ _ rfl).2
  change Safe execute Goes Eq _ _ (Prog.bind (Prog.tryCatch _ _) _) _ at hacquired
  have hloaded := (hacquired.of_bind.of_tryCatch _ rfl
    (by simp [Goes, State.start, State.acquires]) w _ _ rfl).2
  unfold stationOf at howner
  cases hst : stations.lookup sid with
  | none => simp [hst, isOwner, Station.unused] at howner
  | some st =>
    simp only [hst, Option.getD_some] at howner
    change Safe execute Goes Eq _ _ (Prog.bind (found sid stations) _) _ at hloaded
    rw [found_of_lookup hst] at hloaded
    change Safe execute Goes Eq _ _ (if isOwner st userId = true then _ else _) _ at hloaded
    rw [if_neg (by simp [howner])] at hloaded
    have hgoes : Goes (State.start stations).acquires := by
      simp [Goes, State.start, State.acquires]
    exact (hloaded.of_bind _ rfl hgoes w _ _ rfl).1 rfl

/-- **No self-deadlock.** A public operation takes the lock only while it does not hold it and
gives it back, wherever its program goes, and a stop by a user who is not the active one leaves
the station unchanged, unless that user stops the render transmission or the live input. -/
theorem neverWaits_iff (c : Call) (stations : Stations) :
    (NeverWaits c stations ∧ LeavesStation c stations) ↔ asksUnderLock stations c = false := by
  constructor
  · rintro ⟨hgoes, -⟩
    cases c with
    | stopRenderTransmission sid userId =>
      by_contra howner
      refine releaseOwned_waits (by simpa [asksUnderLock] using howner) hgoes.of_bind.of_bind
    | stopLiveInput sid userId =>
      by_contra howner
      refine releaseOwned_waits (by simpa [asksUnderLock] using howner) hgoes.of_bind.of_bind
    | _ => rfl
  · intro hc
    exact ⟨program_frees stations hc _ ⟨rfl, rfl⟩, leavesStation c stations⟩

/-- Another user's stop of the live input never returns. -/
theorem stopLiveInput_waits :
    ¬ NeverWaits (.stopLiveInput 1 (some 8))
      [(1, ⟨some 0, none, none, true, some ⟨7, "host", "dj"⟩, ""⟩)] :=
  fun h => releaseOwned_waits (by decide +kernel) h.of_bind.of_bind

end OnAir.LockDiscipline
