import OnAir.StationCalls

/-!
The order in which the audio of the producers of a station is written to its sinks.

A loop looks at its generation before it writes, a sink has a queue and a writer of its own, and
some producers are given the pipe of a sink and pass none of these. Nothing stale is written as
long as a pipe is given away, and a writer started, only when nothing older is on its way.
-/

namespace OnAir.StaleAudio

open Resumption Runs StationRuntime ProducerTurns CallTurns
open StationCalls

variable {s t : Store} {es : List Event} {x : ℕ} {y : Sink}

/-- The pipe of a sink is given to a producer only when nothing is on its way to the sink, and a
writer is started only when the writers before it have ended. -/
def clears (s : Store) (w : Outcome) : {β : Type} → Op β → Bool
  | _, .spawn _ (.sink x _) => w ≠ .ok || isQuiet s x
  | _, .startWriter x => writersEnded s x
  | _, _ => true

/-- Nobody calls while another call is in progress, and what a call hands over is clear. -/
def handsOver (s : Store) (e : Event) : Bool :=
  oneAtATime s e && match e with
  | .advance i w => (s.calls[i]?).all fun c =>
    match c.program with
    | .op o _ => clears s w o
    | _ => true
  | _ => true

lemma clean_run {β : Type} {o : Op β} {w : Outcome} {b : β} (hclean : s.clean = true)
    (hclears : clears s w o = true) (h : run o w s = some (b, t)) : t.clean = true := by
  cases o with
  | spawn role output =>
    cases w with
    | ok =>
      obtain ⟨-, rfl⟩ := Prod.mk.inj (Option.some.inj h)
      cases output with
      | sink x run =>
        have hquiet : isQuiet s x = true := by simpa [clears] using hclears
        exact (Bool.and_eq_true ..).mpr ⟨hclean, hquiet⟩
      | pipe => exact (Bool.and_eq_true ..).mpr ⟨hclean, rfl⟩
      | own => exact (Bool.and_eq_true ..).mpr ⟨hclean, rfl⟩
    | missing =>
      obtain ⟨-, rfl⟩ := Prod.mk.inj (Option.some.inj h)
      exact hclean
    | failed =>
      obtain ⟨-, rfl⟩ := Prod.mk.inj (Option.some.inj h)
      exact hclean
  | spawnSink x =>
    cases w <;> obtain ⟨-, rfl⟩ := Prod.mk.inj (Option.some.inj h) <;> exact hclean
  | startWriter x =>
    obtain ⟨-, rfl⟩ := Prod.mk.inj (Option.some.inj h)
    exact (Bool.and_eq_true ..).mpr ⟨hclean, hclears⟩
  | _ =>
    obtain ⟨-, rfl⟩ := Prod.mk.inj (Option.some.inj h)
    exact hclean

lemma clean_step {e : Event} (horderly : Orderly s) (hclean : s.clean = true)
    (hok : handsOver s e = true) (h : step s e = some t) : t.clean = true := by
  cases hcall : callOf e with
  | some p =>
    obtain ⟨locks, hbegin⟩ := step_call hcall h
    unfold StationRuntime.begin at hbegin
    split at hbegin
    · cases hbegin
    · obtain rfl := Option.some.inj hbegin
      exact hclean
  | none =>
    by_cases hadvance : ∃ i w, e = .advance i w
    · obtain ⟨i, w, rfl⟩ := hadvance
      obtain ⟨c, hc, hs⟩ := Option.bind_eq_some_iff.mp h
      obtain ⟨⟨p, u⟩, hturn, rfl⟩ := Option.map_eq_some_iff.mp hs
      have hclears := ((Bool.and_eq_true ..).mp hok).2
      simp only [hc, Option.all_some] at hclears
      cases hp : c.program with
      | pure a =>
        rw [hp] at hturn
        cases hturn
      | raise e =>
        rw [hp] at hturn
        cases hturn
      | op o k =>
        rw [hp] at hturn hclears
        obtain ⟨⟨b, v⟩, hrun, heq⟩ := Option.map_eq_some_iff.mp hturn
        obtain ⟨rfl, rfl⟩ := Prod.mk.inj heq
        have hv : v.clean = true := clean_run hclean hclears hrun
        exact hv
    · push Not at hadvance
      rw [(world_step horderly hcall hadvance h).2.1.clean]
      exact hclean

/-- **No stale audio.** In every run in which nobody calls while another call is in progress,
each pipe is handed over when nothing is on its way to the sink, and each writer starts when the
writers before it have ended: what is written to a sink is in the order of the producers. -/
theorem written_in_order (hok : Meets step (fun s e => handsOver s e = true) initial es)
    (h : exec step initial es = some s) (hy : s.sinks[x]? = some y) :
    y.written.Pairwise (· ≥ ·) := by
  have hrun : InTurn Settled s ∧ s.clean = true := by
    refine inv_of_exec (P := fun s => InTurn Settled s ∧ s.clean = true)
      (fun s e t hs hok ht => ?_) ⟨inTurn_initial, rfl⟩ hok h
    have hone : oneAtATime s e = true := ((Bool.and_eq_true ..).mp hok).1
    exact ⟨inTurn_step hs.1 (stable_others stable_settled) (fun _ hcall => settled_calls hcall)
      hone ht, clean_step hs.1.orderly hs.2 hok ht⟩
  exact ((hrun.1.orderly.clean hrun.2).sorted x y hy).written

def turns (i n : ℕ) : List Event := List.replicate n (.advance i .ok)

def song (uri : String) (crossfadeSeconds : ℚ) : Cfg :=
  ⟨uri, true, "localhost", 8000, "/live", "source", "", "", 128, false, "", 0, "", "", "music",
    crossfadeSeconds⟩

/-- A song is started, and its first chunk is queued for the Icecast sink. -/
def airs : List Event :=
  .startStation (song "a" 5) false :: turns 0 4 ++ [.advance 0 .missing] ++ turns 0 14 ++
    [.advance 0 .missing] ++ turns 0 28 ++ List.replicate 6 (.loop 0 .ok)

/-- The chunk is written, and the next song is started without a crossfade. -/
def oneAfterAnother : List Event :=
  airs ++ List.replicate 3 (.writer 0 .ok) ++ [.startStation (song "b" 0) false] ++ turns 1 4 ++
    [.advance 1 .missing] ++ turns 1 20 ++ [.advance 1 .missing] ++ turns 1 30 ++
    List.replicate 6 (.loop 1 .ok) ++ List.replicate 3 (.writer 0 .ok)

theorem written_in_order_oneAfterAnother :
    ∃ s y, exec step initial oneAfterAnother = some s ∧ s.sinks[0]? = some y ∧
      y.written = [1, 0] ∧ y.written.Pairwise (· ≥ ·) := by
  have hrun : ((exec step initial oneAfterAnother).any fun s =>
      (s.sinks[0]?).any fun y => decide (y.written = [1, 0])) = true := by
    decide +kernel
  obtain ⟨s, hs, hsink⟩ := (Option.any_eq_true ..).mp hrun
  obtain ⟨y, hy, hwritten⟩ := (Option.any_eq_true ..).mp hsink
  exact ⟨s, y, hs, hy, of_decide_eq_true hwritten, written_in_order (by decide +kernel) hs hy⟩

/-- The next song is started with a crossfade while the chunk is queued. -/
def fades : List Event :=
  airs ++ [.startStation (song "b" 5) false] ++ turns 1 4 ++ [.advance 1 .missing] ++ turns 1 6 ++
    [.advance 1 .missing] ++ turns 1 26 ++ .emit 1 :: List.replicate 3 (.writer 0 .ok)

def isStart : Event → Bool
  | .startStation _ _ => true
  | _ => false

/-- **A stale chunk.** After the producer of a crossfade has written to the pipe of the sink, the
writer of the sink writes a chunk of the song before; the two starts were made one after the
other, and no other call was. -/
theorem stale_chunk :
    ∃ s y, exec step initial fades = some s ∧
      (∀ e ∈ fades, (callOf e).isSome = true → isStart e = true) ∧
      Meets step (fun s e => oneAtATime s e = true) initial fades ∧
      s.sinks[0]? = some y ∧ y.written = [0, 1] ∧ ¬ y.written.Pairwise (· ≥ ·) := by
  have hrun : ((exec step initial fades).any fun s =>
      (s.sinks[0]?).any fun y => decide (y.written = [0, 1])) = true := by
    decide +kernel
  obtain ⟨s, hs, hsink⟩ := (Option.any_eq_true ..).mp hrun
  obtain ⟨y, hy, hwritten⟩ := (Option.any_eq_true ..).mp hsink
  have hwritten := of_decide_eq_true hwritten
  refine ⟨s, y, hs, by decide +kernel, by decide +kernel, hy, hwritten, ?_⟩
  rw [hwritten]
  decide

end OnAir.StaleAudio
