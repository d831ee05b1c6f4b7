import OnAir.StationCalls

/-!
The producers of a station that are alive between calls.

A start, a stop and a recovery hold the operation lock of their station. A live microphone
promotes its station without that lock, so that its call and another one may both have stopped
what was there before either of them starts a producer.
-/

namespace OnAir.SingleProducer

open Resumption Runs StationRuntime ProducerTurns CallTurns
open StationCalls

variable {s : Store} {es : List Event}

lemma settled_run (hok : Meets step (fun s e => oneAtATime s e = true) initial es)
    (h : exec step initial es = some s) : InTurn Settled s :=
  inv_of_exec (fun _ _ _ hturn hone hs => inTurn_step hturn (stable_others stable_settled)
    (fun _ hcall => settled_calls hcall) hone hs) inTurn_initial hok h

lemma silent_calls {e : Event} {p : Program Unit} (hcall : callOf e = some p)
    (hstart : ∀ cfg atOffset, e ≠ .startStation cfg atOffset) :
    Does Silent p (fun _ => Silent) fun _ => Silent := by
  cases e <;> cases hcall
  · exact absurd rfl (hstart _ _)
  · exact stopStation_does.conseq (fun _ h => h.imp_right fun h => h.owned) (fun _ _ h => h)
      fun _ _ h => h
  · exact recoverStation_silent
  · exact handleLiveMicStart_silent

/-- After a stop without a later start, the station is silent between calls. -/
lemma silent_run {es' : List Event}
    (hok : Meets step (fun s e => oneAtATime s e = true) initial (es ++ .stopStation :: es'))
    (h : exec step initial (es ++ .stopStation :: es') = some s)
    (hstart : ∀ e ∈ es', ∀ cfg atOffset, e ≠ .startStation cfg atOffset) : InTurn Silent s := by
  rw [exec_append] at h
  obtain ⟨t, ht, h⟩ := Option.bind_eq_some_iff.mp h
  obtain ⟨u, hu, h⟩ := exec_cons_eq_some.mp h
  obtain ⟨hbefore, hafter⟩ := meets_append.mp hok
  obtain ⟨hone, hrest⟩ := hafter t ht
  have hstopped : InTurn Silent u :=
    (settled_run hbefore ht).begin (fun c hc => by simpa using List.all_eq_true.mp hone c hc)
      stopStation_does hu
  have hboth : Meets step (fun s e => oneAtATime s e = true ∧
      ∀ cfg atOffset, e ≠ .startStation cfg atOffset) u es' :=
    (hrest u hu).and_of_mem hstart
  exact inv_of_exec (fun _ _ _ hturn hok hs => inTurn_step hturn (stable_others stable_silent)
    (fun _ hcall => silent_calls hcall hok.2) hok.1 hs) hstopped hboth h

lemma none_alive (h : Idle s) : ∀ p ∈ s.producers, p.alive = false := by
  intro p hp
  obtain ⟨k, hk⟩ := List.mem_iff_getElem?.mp hp
  by_contra halive
  cases h.alive k p hk (by simpa using halive)

/-- **One producer per station.** In every run in which nobody calls while another call is in
progress, a live microphone included: between calls, a producer that is alive is the one its
attribute names; and after a stop without a later start none is alive. -/
theorem single_producer (hok : Meets step (fun s e => oneAtATime s e = true) initial es)
    (h : exec step initial es = some s) (hnone : ∀ c ∈ s.calls, c.program.waits = false) :
    (∀ k p, s.producers[k]? = some p → p.alive = true →
      producerOf s.runtime p.role = some k) ∧
    ∀ es₁ es₂, es = es₁ ++ .stopStation :: es₂ →
      (∀ e ∈ es₂, ∀ cfg atOffset, e ≠ .startStation cfg atOffset) →
      ∀ p ∈ s.producers, p.alive = false := by
  constructor
  · intro k p hp halive
    rcases (settled_run hok h).rest hnone with hunknown | ⟨held, hat⟩
    · rw [hunknown.producers] at hp
      cases hp
    · rw [hat.attributes]
      exact hat.alive k p hp halive
  · rintro es₁ es₂ rfl hstart p hp
    rcases (silent_run hok h hstart).rest hnone with hunknown | hstopped
    · rw [hunknown.producers] at hp
      cases hp
    · exact none_alive hstopped.1 p hp

def turns (i n : ℕ) : List Event := List.replicate n (.advance i .ok)

def song (uri : String) : Cfg :=
  ⟨uri, false, "localhost", 8000, "/live", "source", "", "", 128, true, "", 0, "", "", "music", 3⟩

/-- A song is started while nobody transmits. -/
def airs : List Event :=
  .startStation (song "a") false :: turns 0 4 ++ [.advance 0 .missing] ++ turns 0 12

/-- The song, its promotion to live mix, and a stop. -/
def oneAfterAnother : List Event :=
  airs ++ [.liveMicStart] ++ turns 1 51 ++ [.stopStation] ++ turns 2 21

theorem single_producer_oneAfterAnother :
    ∃ s, exec step initial oneAfterAnother = some s ∧
      (∀ c ∈ s.calls, c.program.waits = false) ∧ s.producers.length = 2 ∧
      ∀ p ∈ s.producers, p.alive = false := by
  have hrun : ((exec step initial oneAfterAnother).any fun s =>
      decide ((∀ c ∈ s.calls, c.program.waits = false) ∧ s.producers.length = 2)) = true := by
    decide +kernel
  obtain ⟨s, hs, hboth⟩ := (Option.any_eq_true ..).mp hrun
  obtain ⟨hnone, hlength⟩ := of_decide_eq_true hboth
  refine ⟨s, hs, hnone, hlength, ?_⟩
  refine (single_producer (by decide +kernel) hs hnone).2 (airs ++ [.liveMicStart] ++ turns 1 51)
    (turns 2 21) rfl fun e he cfg atOffset => ?_
  rw [List.eq_of_mem_replicate he]
  exact nofun

/-- A promotion has stopped the producer of the song when the next song is started. -/
def promotedTwice : List Event :=
  airs ++ [.liveMicStart] ++ turns 1 30 ++ [.startStation (song "b") false] ++ turns 2 35 ++
    turns 1 21

/-- A promotion has made its checks when the station is stopped. -/
def promotedAfterStop : List Event :=
  airs ++ [.liveMicStart] ++ turns 1 8 ++ [.stopStation] ++ turns 2 19 ++ turns 1 41

/-- **Two producers, and one after the stop.** A promotion and a start that overlap both start a
producer; one that overlaps a stop starts a producer after it. -/
theorem two_producers_and_one_after_stop :
    (∃ s, exec step initial promotedTwice = some s ∧
      (∀ c ∈ s.calls, c.program.waits = false) ∧
      s.producers[1]? = some ⟨.program, .pipe, true⟩ ∧
      s.producers[2]? = some ⟨.program, .pipe, true⟩ ∧ s.runtime.process = some 2) ∧
    ∃ s, exec step initial promotedAfterStop = some s ∧
      (∀ c ∈ s.calls, c.program.waits = false) ∧
      s.producers[1]? = some ⟨.program, .pipe, true⟩ := by
  have htwo : ((exec step initial promotedTwice).any fun s =>
      decide ((∀ c ∈ s.calls, c.program.waits = false) ∧
        s.producers[1]? = some ⟨.program, .pipe, true⟩ ∧
        s.producers[2]? = some ⟨.program, .pipe, true⟩ ∧ s.runtime.process = some 2)) = true := by
    decide +kernel
  have hone : ((exec step initial promotedAfterStop).any fun s =>
      decide ((∀ c ∈ s.calls, c.program.waits = false) ∧
        s.producers[1]? = some ⟨.program, .pipe, true⟩)) = true := by
    decide +kernel
  constructor
  · obtain ⟨s, hs, h⟩ := (Option.any_eq_true ..).mp htwo
    exact ⟨s, hs, of_decide_eq_true h⟩
  · obtain ⟨s, hs, h⟩ := (Option.any_eq_true ..).mp hone
    exact ⟨s, hs, of_decide_eq_true h⟩

end OnAir.SingleProducer
