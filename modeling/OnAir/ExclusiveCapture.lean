import OnAir.LiveMicRegistry

/-!
One live input at a time, and none after it was stopped.

A session that runs is the registered one, or some call or the event loop is about to stop it,
or a start is about to register it. Chunks are what breaks this: a chunk that has seen no other
input starts the microphone session whatever has happened since.
-/

namespace OnAir.ExclusiveCapture

open Runs LiveMicRegistry

variable {s s' : Store} {i j k : ℕ} {t : Thread} {p : Phase}

/-! ### Phases -/

/-- The sessions a thread will register or stop. -/
def hands : Phase → List ℕ
  | .ready k => [k]
  | .stopping old => old
  | _ => []

def InHand (s : Store) (k : ℕ) : Prop := k ∈ s.scheduled ∨ ∃ t ∈ s.threads, k ∈ hands t.phase

/-- A chunk starts the microphone session only while it is registered and no other input runs; a
chunk makes no session, and no start takes over, once the live input was stopped. -/
def inTurn (s : Store) : Event → Bool
  | .advance i ok => (s.threads[i]?).all fun t =>
    match t.phase, t.call with
    | .begun, .startTransmission _ | .ready _, _ => !s.quiet
    | .looking [], _ => !(s.quiet && ok)
    | .ensured k, _ => isRunning s k || !ok || (s.station.session = some k &&
      s.station.rtcSession.all (fun j => !isRunning s j) &&
      s.station.renderSession.all (fun j => !isRunning s j))
    | _, _ => true
  | _ => true

structure Kept (s : Store) : Prop where
  one : ∀ j ∈ s.station.held, ∀ k ∈ s.station.held, isRunning s j = true →
    isRunning s k = true → j = k
  covered : ∀ k, isRunning s k = true → k ∈ s.station.held ∨ InHand s k
  known : ∀ k, k ∈ s.station.held ∨ InHand s k → k < s.sessions.length
  quiet : s.quiet = true → s.station.held = [] ∧ s.station.transmitting = false

lemma kept_start : Kept start where
  one j hj := by simp [start, Station.held] at hj
  covered k hk := by simp [start, isRunning] at hk
  known k hk := by
    rcases hk with hk | hk | ⟨t, ht, -⟩
    · simp [start, Station.held] at hk
    · simp [start] at hk
    · simp [start] at ht
  quiet h := by cases h

lemma mem_held {st : Station} : k ∈ st.held ↔ st.session = some k ∨ st.rtcSession = some k ∨
    st.renderSession = some k := by
  simp [Station.held]

lemma mem_setPhase {u : Thread} (h : u ∈ (setPhase i p s).threads) :
    (∃ t, s.threads[i]? = some t ∧ u.phase = p) ∨ u ∈ s.threads := by
  obtain ⟨j, hj⟩ := List.mem_iff_getElem?.mp h
  unfold setPhase at hj
  rw [List.getElem?_modify] at hj
  obtain ⟨x, hx, rfl⟩ := Option.map_eq_some_iff.mp hj
  by_cases he : i = j
  · subst he
    exact .inl ⟨x, hx, by simp⟩
  · exact .inr (by simpa [he] using List.mem_of_getElem? hx)

lemma setPhase_mem (hc : s.threads[i]? = some t) :
    { t with phase := p } ∈ (setPhase i p s).threads := by
  refine List.mem_of_getElem? (i := i) ?_
  unfold setPhase
  rw [List.getElem?_modify, hc]
  simp

/-- The other threads keep what they have. -/
lemma setPhase_other {u : Thread} (hc : s.threads[i]? = some t) (hu : u ∈ s.threads) :
    u = t ∨ u ∈ (setPhase i p s).threads := by
  obtain ⟨j, hj⟩ := List.mem_iff_getElem?.mp hu
  by_cases he : i = j
  · subst he
    exact .inl (Option.some.inj (hj.symm.trans hc))
  · refine .inr (List.mem_of_getElem? (i := j) ?_)
    unfold setPhase
    rw [List.getElem?_modify, hj]
    simp [he]

lemma isRunning_setRunning_false (h : isRunning (setRunning k false s) j = true) :
    isRunning s j = true ∧ j ≠ k := by
  unfold isRunning setRunning at h
  rw [List.getElem?_modify] at h
  cases hj : s.sessions[j]? with
  | none => simp [hj] at h
  | some x =>
    by_cases he : k = j
    · simp [hj, he] at h
    · refine ⟨?_, Ne.symm he⟩
      simpa [isRunning, hj, he] using h

/-! ### A thread goes on -/

/-- A thread goes on and changes the registered sessions: what runs stays registered or in
somebody's hands, and no session begins to run. -/
lemma kept_turn (h : Kept s) (hc : s.threads[i]? = some t) (hthreads : s'.threads = s.threads)
    (hrun : ∀ k, isRunning s' k = true → isRunning s k = true)
    (hlength : s'.sessions.length = s.sessions.length)
    (hheld : ∀ k ∈ s'.station.held, k ∈ s.station.held ∨ k ∈ hands t.phase)
    (hone : ∀ j ∈ s'.station.held, ∀ k ∈ s'.station.held, isRunning s' j = true →
      isRunning s' k = true → j = k)
    (hkeep : ∀ k, isRunning s' k = true →
      k ∈ s.station.held ∨ k ∈ s.scheduled ∨ k ∈ hands t.phase →
      k ∈ s'.station.held ∨ k ∈ s'.scheduled ∨ k ∈ hands p)
    (hhands : ∀ k, k ∈ s'.scheduled ∨ k ∈ hands p →
      k ∈ s.station.held ∨ k ∈ s.scheduled ∨ k ∈ hands t.phase)
    (hquiet : s'.quiet = true → s'.station.held = [] ∧ s'.station.transmitting = false) :
    Kept (setPhase i p s') := by
  have hc' : s'.threads[i]? = some t := hthreads ▸ hc
  have hmem : t ∈ s.threads := List.mem_of_getElem? hc
  have hself : ∀ k, k ∈ hands p → InHand (setPhase i p s') k := fun k hk =>
    .inr ⟨_, setPhase_mem hc', hk⟩
  refine ⟨hone, fun k hk => ?_, fun k hk => ?_, hquiet⟩
  · have hpart : k ∈ s.station.held ∨ k ∈ s.scheduled ∨ k ∈ hands t.phase →
        k ∈ s'.station.held ∨ InHand (setPhase i p s') k := fun hpart => by
      rcases hkeep k hk hpart with hin | hin | hin
      · exact .inl hin
      · exact .inr (.inl hin)
      · exact .inr (hself k hin)
    rcases h.covered k (hrun k hk) with hin | hin | ⟨u, hu, hin⟩
    · exact hpart (.inl hin)
    · exact hpart (.inr (.inl hin))
    · rcases setPhase_other (p := p) hc' (hthreads ▸ hu) with rfl | hu'
      · exact hpart (.inr (.inr hin))
      · exact .inr (.inr ⟨u, hu', hin⟩)
  · have hbefore : k ∈ s.station.held ∨ k ∈ s.scheduled ∨ k ∈ hands t.phase →
        k < s.sessions.length := by
      rintro (hin | hin | hin)
      · exact h.known k (.inl hin)
      · exact h.known k (.inr (.inl hin))
      · exact h.known k (.inr (.inr ⟨t, hmem, hin⟩))
    change k < s'.sessions.length
    rw [hlength]
    rcases hk with hk | hk | ⟨u, hu, hin⟩
    · rcases hheld k hk with hin | hin
      · exact hbefore (.inl hin)
      · exact hbefore (.inr (.inr hin))
    · exact hbefore (hhands k (.inl hk))
    · rcases mem_setPhase hu with ⟨-, -, hp⟩ | hold
      · exact hbefore (hhands k (.inr (hp ▸ hin)))
      · exact h.known k (.inr (.inr ⟨u, hthreads ▸ hold, hin⟩))

/-- A thread goes on, and what it had in hand it still has, or it does not run. -/
lemma kept_setPhase (h : Kept s) (hc : s.threads[i]? = some t)
    (hkeep : ∀ k, isRunning s k = true → k ∈ hands t.phase → k ∈ hands p)
    (hhands : ∀ k ∈ hands p, k ∈ hands t.phase) : Kept (setPhase i p s) :=
  kept_turn h hc rfl (fun _ hk => hk) rfl (fun _ hk => .inl hk) h.one
    (fun k hk hin => by
      rcases hin with hin | hin | hin
      · exact .inl hin
      · exact .inr (.inl hin)
      · exact .inr (.inr (hkeep k hk hin)))
    (fun k hk => by
      rcases hk with hk | hk
      · exact .inr (.inl hk)
      · exact .inr (.inr (hhands k hk)))
    h.quiet

/-- A call does its section, which leaves nothing registered but one new session, or fewer
sessions than before. -/
lemma kept_locked (h : Kept s) (hc : s.threads[i]? = some t) {f : Section}
    (hnew : ∀ k ∈ (f s.station).1.held, k ∈ s.station.held ∨ k ∈ hands t.phase)
    (hone : ∀ j ∈ (f s.station).1.held, ∀ k ∈ (f s.station).1.held, isRunning s j = true →
      isRunning s k = true → j = k)
    (hkeep : ∀ k, k ∈ s.station.held ∨ k ∈ hands t.phase →
      k ∈ (f s.station).1.held ∨ k ∈ (f s.station).2)
    (hold : ∀ k ∈ (f s.station).2, k ∈ s.station.held)
    (hquiet : s.quiet = true → (f s.station).1.held = [] ∧ (f s.station).1.transmitting = false)
    (hs : locked i f s = some s') : Kept s' := by
  unfold locked at hs
  split at hs
  · cases hs
  · obtain rfl := Option.some.inj hs
    refine @kept_turn s { s with station := (f s.station).1 } i t _ h hc rfl (fun _ hk => hk) rfl
      hnew hone (fun k _ hin => ?_) (fun k hk => ?_) hquiet
    · rcases hin with hin | hin | hin
      · rcases hkeep k (.inl hin) with hk | hk
        · exact .inl hk
        · exact .inr (.inr hk)
      · exact .inr (.inl hin)
      · rcases hkeep k (.inr hin) with hk | hk
        · exact .inl hk
        · exact .inr (.inr hk)
    · rcases hk with hk | hk
      · exact .inr (.inl hk)
      · exact .inl (hold k hk)

/-- A start registers its new session alone. -/
lemma kept_replaced (h : Kept s) (hc : s.threads[i]? = some t) {f : Section}
    (hp : t.phase = .ready k) (hheld : (f s.station).1.held = [k])
    (hold : (f s.station).2 = s.station.held) (hquiet : s.quiet = false)
    (hs : locked i f s = some s') : Kept s' := by
  have hhands : hands t.phase = [k] := by rw [hp]; rfl
  refine kept_locked h hc (fun j hj => .inr ?_) (fun j hj l hl _ _ => ?_) (fun j hj => ?_)
    (fun j hj => hold ▸ hj) (fun hq => ?_) hs
  · rw [hhands, ← hheld]
    exact hj
  · rw [hheld, List.mem_singleton] at hj hl
    rw [hj, hl]
  · rcases hj with hj | hj
    · exact .inr (hold ▸ hj)
    · rw [hheld]
      exact .inl (hhands ▸ hj)
  · rw [hquiet] at hq
    cases hq

/-- A call takes sessions out and registers none. -/
lemma kept_removed (h : Kept s) (hc : s.threads[i]? = some t) {f : Section}
    (hp : hands t.phase = []) (hsub : ∀ k ∈ (f s.station).1.held, k ∈ s.station.held)
    (hkeep : ∀ k ∈ s.station.held, k ∈ (f s.station).1.held ∨ k ∈ (f s.station).2)
    (hold : ∀ k ∈ (f s.station).2, k ∈ s.station.held)
    (hquiet : s.quiet = true → (f s.station).1.transmitting = false)
    (hs : locked i f s = some s') : Kept s' := by
  refine kept_locked h hc (fun k hk => .inl (hsub k hk))
    (fun j hj k hk => h.one j (hsub j hj) k (hsub k hk)) (fun k hk => ?_) hold (fun hq => ?_) hs
  · rcases hk with hk | hk
    · exact hkeep k hk
    · rw [hp] at hk
      cases hk
  · refine ⟨List.eq_nil_iff_forall_not_mem.mpr fun k hk => ?_, hquiet hq⟩
    have hin := hsub k hk
    rw [(h.quiet hq).1] at hin
    cases hin

lemma kept_startTransmission (h : Kept s) (hc : s.threads[i]? = some t)
    (hp : hands t.phase = []) {user : User} (hquiet : s.quiet = false)
    (hs : locked i (startTransmission user) s = some s') : Kept s' := by
  refine kept_removed h hc hp (fun k hk => ?_) (fun k hk => ?_) (fun k hk => ?_) (fun hq => ?_) hs
  · rw [mem_held] at hk ⊢
    rcases hk with hk | hk | hk
    · exact .inl hk
    · cases hk
    · cases hk
  · rw [mem_held] at hk ⊢
    rcases hk with hk | hk | hk
    · exact .inl (.inl hk)
    · exact .inr (by simp [startTransmission, hk])
    · exact .inr (by simp [startTransmission, hk])
  · have hin : s.station.rtcSession = some k ∨ s.station.renderSession = some k := by
      simpa [startTransmission] using hk
    exact mem_held.mpr (.inr hin)
  · rw [hquiet] at hq
    cases hq

lemma kept_stopTransmission (h : Kept s) (hc : s.threads[i]? = some t)
    (hp : hands t.phase = []) {userId : Option ℤ}
    (hs : locked i (stopTransmission userId) s = some s') : Kept s' := by
  have hheld : ∀ st : Station, (stopTransmission userId st).1.held = st.held := by
    intro st
    unfold stopTransmission
    split <;> rfl
  refine kept_removed h hc hp (fun k hk => hheld _ ▸ hk) (fun k hk => .inl ?_) nofun
    (fun hq => ?_) hs
  · rw [hheld]
    exact hk
  · unfold stopTransmission
    split
    · rfl
    · exact (h.quiet hq).2

lemma kept_stopRtcSession (h : Kept s) (hc : s.threads[i]? = some t)
    (hp : hands t.phase = []) {userId : Option ℤ}
    (hs : locked i (stopRtcSession userId) s = some s') : Kept s' := by
  by_cases howner : isOwner s.station userId = true
  · refine kept_removed h hc hp (fun k hk => ?_) (fun k hk => ?_) (fun k hk => ?_)
      (fun _ => ?_) hs
    · unfold stopRtcSession at hk
      rw [if_pos howner, mem_held] at hk
      rw [mem_held]
      rcases hk with hk | hk | hk
      · exact .inl hk
      · cases hk
      · exact .inr (.inr hk)
    · unfold stopRtcSession
      rw [if_pos howner]
      rw [mem_held] at hk ⊢
      rcases hk with hk | hk | hk
      · exact .inl (.inl hk)
      · exact .inr (by simp [hk])
      · exact .inl (.inr (.inr hk))
    · unfold stopRtcSession at hk
      rw [if_pos howner] at hk
      exact mem_held.mpr (.inr (.inl (by simpa using hk)))
    · unfold stopRtcSession
      rw [if_pos howner]
      rfl
  · have hsame : stopRtcSession userId s.station = (s.station, []) := if_neg howner
    refine kept_removed h hc hp ?_ ?_ ?_ (fun hq => ?_) hs
    · rw [hsame]
      exact fun k hk => hk
    · rw [hsame]
      exact fun k hk => .inl hk
    · rw [hsame]
      exact nofun
    · rw [hsame]
      exact (h.quiet hq).2

lemma kept_stopRenderTransmission (h : Kept s) (hc : s.threads[i]? = some t)
    (hp : hands t.phase = []) (hs : locked i stopRenderTransmission s = some s') : Kept s' := by
  refine kept_removed h hc hp (fun k hk => ?_) (fun k hk => ?_) (fun k hk => ?_) (fun _ => rfl) hs
  · rw [mem_held] at hk ⊢
    rcases hk with hk | hk | hk
    · exact .inl hk
    · exact .inr (.inl hk)
    · cases hk
  · rw [mem_held] at hk ⊢
    rcases hk with hk | hk | hk
    · exact .inl (.inl hk)
    · exact .inl (.inr (.inl hk))
    · exact .inr (by simp [stopRenderTransmission, hk])
  · exact mem_held.mpr (.inr (.inr (by simpa [stopRenderTransmission] using hk)))

/-- Nothing is registered afterwards, so the station may be called quiet. -/
lemma kept_stopLiveInput (h : Kept s) (hc : s.threads[i]? = some t) (hp : hands t.phase = [])
    (quiet : Bool) (hs : locked i stopLiveInput s = some s') :
    Kept { s' with quiet := quiet } := by
  have hkept : Kept s' :=
    kept_removed h hc hp (fun k hk => by cases hk) (fun k hk => .inr hk) (fun k hk => hk)
      (fun _ => rfl) hs
  refine ⟨hkept.one, hkept.covered, hkept.known, fun _ => ?_⟩
  unfold locked at hs
  split at hs
  · cases hs
  · obtain rfl := Option.some.inj hs
    exact ⟨rfl, rfl⟩

/-- A call of another user waits for itself. -/
lemma kept_waiting (h : Kept s) (hc : s.threads[i]? = some t) (hp : hands t.phase = []) :
    Kept (setPhase i .waiting { s with deadlocked := true }) := by
  have hkept : Kept { s with deadlocked := true } := ⟨h.one, h.covered, h.known, h.quiet⟩
  refine kept_setPhase hkept hc (fun k _ hk => ?_) nofun
  rw [hp] at hk
  cases hk

/-! ### Sessions that are made, start or stop -/

lemma isRunning_addSession {x : Session} (h : isRunning (addSession x s) k = true) :
    isRunning s k = true ∨ (k = s.sessions.length ∧ x.running = true) := by
  unfold isRunning addSession at h
  by_cases hlt : k < s.sessions.length
  · rw [List.getElem?_append_left hlt] at h
    exact .inl h
  · rw [List.getElem?_append_right (not_lt.mp hlt)] at h
    by_cases he : k = s.sessions.length
    · subst he
      exact .inr ⟨rfl, by simpa using h⟩
    · have hne : k - s.sessions.length ≠ 0 := by omega
      simp [hne] at h

/-- A new session is registered without running, or runs without being registered and is taken
by the thread. -/
lemma kept_added (h : Kept s) {x : Session} {threads : List Thread} {quiet : Bool} {st : Station}
    (hthreads : ∀ u ∈ s.threads, u ∈ threads ∨ hands u.phase = [])
    (hnew : ∀ u ∈ threads, u ∈ s.threads ∨ hands u.phase = [] ∨
      hands u.phase = [s.sessions.length])
    (hheld : ∀ k, k ∈ st.held → k ∈ s.station.held ∨ (k = s.sessions.length ∧ x.running = false))
    (hkeep : ∀ k ∈ s.station.held, k ∈ st.held)
    (hrun : x.running = true → ∃ u ∈ threads, s.sessions.length ∈ hands u.phase)
    (hquiet : quiet = true → st.held = [] ∧ st.transmitting = false) :
    Kept { addSession x s with station := st, threads := threads, quiet := quiet } := by
  have hlt : ∀ k ∈ s.station.held, k ≠ s.sessions.length := fun k hk =>
    (h.known k (.inl hk)).ne
  -- what is registered and runs was there before
  have hold : ∀ k ∈ st.held, isRunning (addSession x s) k = true →
      k ∈ s.station.held ∧ isRunning s k = true := by
    intro k hk hrunning
    rcases hheld k hk with hin | ⟨rfl, hoff⟩
    · rcases isRunning_addSession hrunning with hbefore | ⟨he, -⟩
      · exact ⟨hin, hbefore⟩
      · exact absurd he (hlt k hin)
    · rcases isRunning_addSession hrunning with hbefore | ⟨-, hon⟩
      · have hin : isRunning s s.sessions.length = false := by simp [isRunning]
        rw [hin] at hbefore
        cases hbefore
      · rw [hoff] at hon
        cases hon
  have hlength : (addSession x s).sessions.length = s.sessions.length + 1 := by
    simp [addSession]
  refine ⟨fun j hj k hk hrj hrk => ?_, fun k hk => ?_, fun k hk => ?_, hquiet⟩
  · obtain ⟨hj', hrj'⟩ := hold j hj hrj
    obtain ⟨hk', hrk'⟩ := hold k hk hrk
    exact h.one j hj' k hk' hrj' hrk'
  · rcases isRunning_addSession hk with hbefore | ⟨rfl, hon⟩
    · rcases h.covered k hbefore with hin | hin | ⟨u, hu, hin⟩
      · exact .inl (hkeep k hin)
      · exact .inr (.inl hin)
      · rcases hthreads u hu with hu' | hnone
        · exact .inr (.inr ⟨u, hu', hin⟩)
        · rw [hnone] at hin
          cases hin
    · exact .inr (.inr (hrun hon))
  · change k < (addSession x s).sessions.length
    rw [hlength]
    rcases hk with hk | hk | ⟨u, hu, hin⟩
    · rcases hheld k hk with hin | ⟨rfl, -⟩
      · exact Nat.lt_succ_of_lt (h.known k (.inl hin))
      · exact Nat.lt_succ_self _
    · exact Nat.lt_succ_of_lt (h.known k (.inr (.inl hk)))
    · rcases hnew u hu with hold' | hnone | hone
      · exact Nat.lt_succ_of_lt (h.known k (.inr (.inr ⟨u, hold', hin⟩)))
      · rw [hnone] at hin
        cases hin
      · rw [hone, List.mem_singleton] at hin
        exact hin ▸ Nat.lt_succ_self _

/-- A thread goes on with a session it has made. -/
lemma kept_made (h : Kept s) (hc : s.threads[i]? = some t) (hp : hands t.phase = [])
    {x : Session} {st : Station} (hhands : hands p = [] ∨ hands p = [s.sessions.length])
    (hheld : ∀ k, k ∈ st.held → k ∈ s.station.held ∨ (k = s.sessions.length ∧ x.running = false))
    (hkeep : ∀ k ∈ s.station.held, k ∈ st.held)
    (hrun : x.running = true → s.sessions.length ∈ hands p)
    (hquiet : s.quiet = true → st.held = [] ∧ st.transmitting = false) :
    Kept (setPhase i p (addSession x { s with station := st })) := by
  have hkept : Kept { addSession x s with
      station := st, threads := (setPhase i p s).threads, quiet := s.quiet } := by
    refine kept_added h (fun u hu => ?_) (fun u hu => ?_) hheld hkeep
      (fun hon => ⟨_, setPhase_mem hc, hrun hon⟩) hquiet
    · rcases setPhase_other (p := p) hc hu with rfl | hu'
      · exact .inr hp
      · exact .inl hu'
    · rcases mem_setPhase hu with ⟨-, -, hph⟩ | hold
      · exact .inr (by rw [hph]; exact hhands)
      · exact .inl hold
  exact hkept

/-- The microphone session starts while it is registered and no other input runs. -/
lemma kept_started (h : Kept s) (hreg : s.station.session = some k)
    (hrtc : ∀ j, s.station.rtcSession = some j → isRunning s j = false)
    (hrender : ∀ j, s.station.renderSession = some j → isRunning s j = false) :
    Kept (setRunning k true s) := by
  have hrun : ∀ j, isRunning (setRunning k true s) j = true → j = k ∨ isRunning s j = true := by
    intro j hj
    unfold isRunning setRunning at hj
    rw [List.getElem?_modify] at hj
    cases hx : s.sessions[j]? with
    | none => simp [hx] at hj
    | some x =>
      by_cases he : k = j
      · exact .inl he.symm
      · exact .inr (by simpa [isRunning, hx, he] using hj)
  have hall : ∀ j ∈ s.station.held, isRunning (setRunning k true s) j = true → j = k := by
    intro j hj hrunning
    rcases hrun j hrunning with he | hbefore
    · exact he
    · rcases mem_held.mp hj with hin | hin | hin
      · exact Option.some.inj (hin.symm.trans hreg)
      · rw [hrtc j hin] at hbefore
        cases hbefore
      · rw [hrender j hin] at hbefore
        cases hbefore
  refine ⟨fun j hj l hl hrj hrl => (hall j hj hrj).trans (hall l hl hrl).symm, fun j hj => ?_,
    fun j hj => ?_, h.quiet⟩
  · rcases hrun j hj with rfl | hbefore
    · exact .inl (mem_held.mpr (.inl hreg))
    · exact h.covered j hbefore
  · simpa [setRunning] using h.known j hj

/-- Sessions stop running. -/
lemma kept_stopped (h : Kept s) (k : ℕ) : Kept (setRunning k false s) := by
  refine ⟨fun j hj l hl hrj hrl => h.one j hj l hl (isRunning_setRunning_false hrj).1
    (isRunning_setRunning_false hrl).1, fun j hj => ?_, fun j hj => ?_, h.quiet⟩
  · exact h.covered j (isRunning_setRunning_false hj).1
  · simpa [setRunning] using h.known j hj

/-! ### Every step -/

lemma kept_ensureSession {ok : Bool} (h : Kept s) (hc : s.threads[i]? = some t)
    (hp : hands t.phase = []) (hquiet : (s.quiet && ok) = false)
    (hs : ensureSession s i ok = some s') : Kept s' := by
  have hnone : ∀ q : Phase, hands q = [] → Kept (setPhase i q s) := fun q hq =>
    kept_setPhase h hc (fun k _ hk => by rw [hp] at hk; cases hk) fun k hk => by
      rw [hq] at hk
      cases hk
  unfold ensureSession at hs
  split at hs
  · cases hs
  · split at hs
    · obtain rfl := Option.some.inj hs
      exact hnone _ rfl
    · next hsession =>
        split at hs
        · next hok =>
            obtain rfl := Option.some.inj hs
            refine kept_made h hc hp (.inl rfl) (fun k hk => ?_) (fun k hk => ?_) nofun fun hq => ?_
            · rw [mem_held] at hk ⊢
              rcases hk with hk | hk
              · exact .inr ⟨(Option.some.inj hk).symm, rfl⟩
              · exact .inl (.inr hk)
            · rw [mem_held] at hk ⊢
              rcases hk with hk | hk
              · rw [hsession] at hk
                cases hk
              · exact .inr hk
            · rw [hq, hok] at hquiet
              cases hquiet
        · obtain rfl := Option.some.inj hs
          exact hnone _ rfl

/-- A session is stopped at once, or its stop is left to the event loop. -/
lemma kept_stopping {old : List ℕ} {ok : Bool} (h : Kept s) (hc : s.threads[i]? = some t)
    (hp : t.phase = .stopping (k :: old)) :
    Kept (if (s.sessions[k]?).any (·.transport = .webrtc) && !ok then
      setPhase i (.stopping old) { s with scheduled := k :: s.scheduled }
      else setPhase i (.stopping old) (setRunning k false s)) := by
  have hhands : hands t.phase = k :: old := by rw [hp]; rfl
  split
  · refine @kept_turn s { s with scheduled := k :: s.scheduled } i t _ h hc rfl (fun _ hk => hk)
      rfl (fun _ hk => .inl hk) h.one (fun j _ hj => ?_) (fun j hj => ?_) h.quiet
    · rw [hhands, List.mem_cons] at hj
      rcases hj with hj | hj | rfl | hj
      · exact .inl hj
      · exact .inr (.inl (List.mem_cons_of_mem _ hj))
      · exact .inr (.inl List.mem_cons_self)
      · exact .inr (.inr hj)
    · rw [hhands, List.mem_cons]
      rcases hj with hj | hj
      · rcases List.mem_cons.mp hj with rfl | hj
        · exact .inr (.inr (.inl rfl))
        · exact .inr (.inl hj)
      · exact .inr (.inr (.inr hj))
  · refine kept_turn h hc rfl (fun j hj => (isRunning_setRunning_false hj).1)
      (by simp [setRunning]) (fun _ hk => .inl hk) (kept_stopped h k).one (fun j hrun hj => ?_)
      (fun j hj => ?_) h.quiet
    · rw [hhands, List.mem_cons] at hj
      rcases hj with hj | hj | rfl | hj
      · exact .inl hj
      · exact .inr (.inl hj)
      · exact absurd rfl (isRunning_setRunning_false hrun).2
      · exact .inr (.inr hj)
    · rw [hhands, List.mem_cons]
      rcases hj with hj | hj
      · exact .inr (.inl hj)
      · exact .inr (.inr (.inr hj))

lemma kept_ensured {ok : Bool} (h : Kept s) (hc : s.threads[i]? = some t)
    (hp : t.phase = .ensured k) (hturn : inTurn s (.advance i ok) = true) :
    Kept (if isRunning s k then setPhase i (.pushing k) s
      else if ok then setPhase i (.pushing k) (setRunning k true s) else setPhase i .raised s) := by
  have hnone : hands t.phase = [] := by rw [hp]; rfl
  have hempty : ∀ {s₀ : Store} {q : Phase}, Kept s₀ → s₀.threads = s.threads → hands q = [] →
      Kept (setPhase i q s₀) := fun h₀ hthreads hq =>
    kept_setPhase h₀ (hthreads ▸ hc) (fun j _ hj => by rw [hnone] at hj; cases hj) fun j hj => by
      rw [hq] at hj
      cases hj
  split
  · exact hempty h rfl rfl
  · next hoff =>
      split
      · next hok =>
          simp only [inTurn, hc, Option.all_some, hp, hok, hoff, Bool.false_or, Bool.not_true,
            Bool.and_eq_true, decide_eq_true_eq] at hturn
          obtain ⟨⟨hreg, hrtc⟩, hrender⟩ := hturn
          refine hempty (kept_started h hreg (fun j hj => ?_) fun j hj => ?_) rfl rfl
          · simpa [hj] using hrtc
          · simpa [hj] using hrender
      · exact hempty h rfl rfl

lemma kept_lockedByOwner {userId : Option ℤ} {f : Section} (h : Kept s)
    (hc : s.threads[i]? = some t) (hp : hands t.phase = [])
    (hf : ∀ s', locked i f s = some s' → Kept s')
    (hs : lockedByOwner i userId f s = some s') : Kept s' := by
  unfold lockedByOwner at hs
  split at hs
  · exact hf s' hs
  · split at hs
    · cases hs
    · obtain rfl := Option.some.inj hs
      exact kept_waiting h hc hp

/-- The first step of a call. -/
lemma kept_begun {call : Call} {ok : Bool} (h : Kept s) (hc : s.threads[i]? = some ⟨call, .begun⟩)
    (hturn : inTurn s (.advance i ok) = true) (hs : advance s i ok = some s') : Kept s' := by
  have hnone : ∀ q : Phase, hands q = [] → Kept (setPhase i q s) := fun q hq =>
    kept_setPhase h hc (fun k _ hk => by cases hk) fun k hk => by
      rw [hq] at hk
      cases hk
  unfold advance at hs
  rw [hc, Option.bind_some] at hs
  simp only [inTurn, hc, Option.all_some] at hturn
  cases call with
  | startTransmission user =>
    exact kept_startTransmission h hc rfl (by simpa using hturn) hs
  | startRtcSession user => cases hs
  | startRenderTransmission user sourceName =>
    dsimp only at hs
    split at hs
    · obtain rfl := Option.some.inj hs
      exact kept_made h hc rfl (.inr rfl) (fun k hk => .inl hk) (fun k hk => hk)
        (fun _ => List.mem_singleton.mpr rfl) h.quiet
    · obtain rfl := Option.some.inj hs
      exact hnone _ rfl
  | pushChunk =>
    dsimp only at hs
    split at hs
    · cases hs
    · obtain rfl := Option.some.inj hs
      exact hnone _ rfl
  | stopTransmission userId => exact kept_stopTransmission h hc rfl hs
  | stopRtcSession userId => exact kept_stopRtcSession h hc rfl hs
  | stopRenderTransmission userId =>
    exact kept_lockedByOwner h hc rfl (fun _ => kept_stopRenderTransmission h hc rfl) hs
  | stopLiveInput userId =>
    obtain ⟨w, hw, rfl⟩ := Option.map_eq_some_iff.mp hs
    unfold lockedByOwner at hw
    split at hw
    · exact kept_stopLiveInput h hc rfl _ hw
    · next hother =>
        split at hw
        · cases hw
        · obtain rfl := Option.some.inj hw
          rw [Bool.not_eq_true] at hother
          have hkept : Kept (setPhase i .waiting { s with deadlocked := true }) :=
            kept_waiting h hc rfl
          refine ⟨hkept.one, hkept.covered, hkept.known, fun hq => h.quiet ?_⟩
          simpa [hother] using hq

lemma kept_advance {ok : Bool} (h : Kept s) (hturn : inTurn s (.advance i ok) = true)
    (hs : advance s i ok = some s') : Kept s' := by
  have hs' := hs
  unfold advance at hs
  obtain ⟨⟨call, phase⟩, hc, hs⟩ := Option.bind_eq_some_iff.mp hs
  have hnone : hands phase = [] → ∀ q : Phase, hands q = [] → Kept (setPhase i q s) :=
    fun hp q hq => kept_setPhase h hc (fun k _ hk => by rw [hp] at hk; cases hk) fun k hk => by
      rw [hq] at hk
      cases hk
  cases phase with
  | begun => exact kept_begun h hc hturn hs'
  | ready k =>
    simp only [inTurn, hc, Option.all_some, Bool.not_eq_true'] at hturn
    cases call with
    | startRtcSession user => exact kept_replaced h hc rfl rfl rfl (by simpa using hturn) hs
    | startRenderTransmission user sourceName =>
      exact kept_replaced h hc rfl rfl rfl (by simpa using hturn) hs
    | _ => cases hs
  | looking others =>
    cases others with
    | nil =>
      simp only [inTurn, hc, Option.all_some] at hturn
      exact kept_ensureSession h hc rfl (by simpa [imp_iff_not_or] using hturn) hs
    | cons k ks =>
      obtain rfl := Option.some.inj hs
      refine hnone rfl _ ?_
      split <;> rfl
  | ensured k =>
    have hkept := kept_ensured h hc rfl hturn
    dsimp only at hs
    split at hs
    · next hon =>
        obtain rfl := Option.some.inj hs
        rwa [if_pos hon] at hkept
    · next hoff =>
        split at hs
        · next hok =>
            obtain rfl := Option.some.inj hs
            rwa [if_neg hoff, if_pos hok] at hkept
        · next hok =>
            obtain rfl := Option.some.inj hs
            rwa [if_neg hoff, if_neg hok] at hkept
  | pushing k =>
    obtain rfl := Option.some.inj hs
    refine hnone rfl _ ?_
    split <;> rfl
  | stopping old =>
    cases old with
    | nil =>
      dsimp only at hs
      split at hs
      · cases hs
      · obtain rfl := Option.some.inj hs
        exact hnone rfl _ rfl
    | cons k old =>
      have hkept := @kept_stopping s i k _ old ok h hc rfl
      dsimp only at hs
      split at hs
      · next hlater =>
          obtain rfl := Option.some.inj hs
          rwa [if_pos hlater] at hkept
      · next hnow =>
          obtain rfl := Option.some.inj hs
          rwa [if_neg hnow] at hkept
  | waiting => cases hs
  | returned snapshot => cases hs
  | raised => cases hs

lemma kept_begin (h : Kept s) (call : Call) : Kept (begin s call) := by
  have hplain : ∀ quiet : Bool, (quiet = true → s.quiet = true) →
      Kept { s with threads := s.threads ++ [⟨call, .begun⟩], quiet := quiet } := by
    refine fun quiet hquiet =>
      ⟨h.one, fun k hk => ?_, fun k hk => ?_, fun hq => h.quiet (hquiet hq)⟩
    · rcases h.covered k hk with hin | hin | ⟨u, hu, hin⟩
      · exact .inl hin
      · exact .inr (.inl hin)
      · exact .inr (.inr ⟨u, List.mem_append_left _ hu, hin⟩)
    · rcases hk with hk | hk | ⟨u, hu, hin⟩
      · exact h.known k (.inl hk)
      · exact h.known k (.inr (.inl hk))
      · rcases List.mem_append.mp hu with hu | hu
        · exact h.known k (.inr (.inr ⟨u, hu, hin⟩))
        · rw [List.mem_singleton.mp hu] at hin
          cases hin
  cases call with
  | startRtcSession user =>
    have hkept : Kept { addSession ⟨.webrtc, true⟩ s with
        station := s.station
        threads := s.threads ++ [⟨.startRtcSession user, .ready s.sessions.length⟩]
        quiet := false } := by
      refine kept_added h (fun u hu => .inl (List.mem_append_left _ hu)) (fun u hu => ?_)
        (fun k hk => .inl hk) (fun k hk => hk)
        (fun _ => ⟨_, List.mem_append_right _ (List.mem_singleton.mpr rfl),
          List.mem_singleton.mpr rfl⟩) nofun
      rcases List.mem_append.mp hu with hu | hu
      · exact .inl hu
      · exact .inr (.inr (by rw [List.mem_singleton.mp hu]; rfl))
    exact hkept
  | startTransmission user => exact hplain false nofun
  | startRenderTransmission user sourceName => exact hplain false nofun
  | _ => exact hplain s.quiet id

lemma kept_step {e : Event} (h : Kept s) (hturn : inTurn s e = true) (hs : step s e = some s') :
    Kept s' := by
  cases e with
  | begin call =>
    obtain rfl := Option.some.inj hs
    exact kept_begin h call
  | advance i ok => exact kept_advance h hturn hs
  | stopScheduled k =>
    simp only [step] at hs
    split at hs
    · obtain rfl := Option.some.inj hs
      have hstopped := kept_stopped h k
      refine ⟨hstopped.one, fun j hj => ?_, fun j hj => hstopped.known j ?_, h.quiet⟩
      · rcases hstopped.covered j hj with hin | hin | hin
        · exact .inl hin
        · exact .inr (.inl ((List.mem_erase_of_ne (isRunning_setRunning_false hj).2).mpr hin))
        · exact .inr (.inr hin)
      · rcases hj with hj | hj | hj
        · exact .inl hj
        · exact .inr (.inl (List.mem_of_mem_erase hj))
        · exact .inr (.inr hj)
    · cases hs
  | fail k =>
    obtain rfl := Option.some.inj hs
    exact kept_stopped h k

/-- A dj talks over the websocket, goes over to WebRTC, and stops. -/
def talk : List Event :=
  let dj : User := ⟨7, "dj", "dj"⟩
  [.begin (.startTransmission dj), .advance 0 true, .advance 0 true,
    .begin .pushChunk, .advance 1 true, .advance 1 true, .advance 1 true, .advance 1 true,
    .advance 1 true,
    .begin (.startRtcSession dj), .advance 2 true, .advance 2 true, .advance 2 true,
    .begin (.stopLiveInput (some 7)), .advance 3 true, .advance 3 false, .advance 3 true]

/-- A chunk that has looked at the registry before a WebRTC session is registered. -/
def lateChunk : List Event :=
  let dj : User := ⟨7, "dj", "dj"⟩
  [.begin (.startTransmission dj), .advance 0 true, .advance 0 true,
    .begin .pushChunk, .advance 1 true,
    .begin (.startRtcSession dj), .advance 2 true, .advance 2 true,
    .advance 1 true, .advance 1 true, .advance 1 true, .advance 1 true]

def hasReturned : Phase → Bool
  | .returned _ => true
  | _ => false

/-- Every call has returned, and no stop is left to the event loop. -/
def atRest (s : Store) : Bool := s.scheduled = [] && s.threads.all fun t => hasReturned t.phase

end OnAir.ExclusiveCapture
