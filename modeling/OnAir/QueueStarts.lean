import OnAir.StartupSound
import OnAir.WaitingRows

/-!
Which row of the queue a tick starts.

A row begins to play at the very end of a tick only, and it is the one that waits first once the
songs that were just played are skipped.
-/

namespace OnAir.QueueStarts

open CalmPhases OtherPhases PlayoutAdvance PlayoutTables Programs QueueOrder QueueUpkeep
  StartupSound StationWorker OnAir.Table WaitingRows WorkerEnv

open ActiveRows (Row)
open OneSource (SameFiles choicePoint skipDuplicatePending_eq)

variable (w : Worker) (env : Env)

/-! ### The choice -/

/-- A tick that comes to its choice takes a row of the queue, if one waits: nothing plays, no break
is on, and the host has nothing to play. -/
def takesRow (c : Engine) (session : Option Session) : Bool :=
  (current w.stationId c).source ≠ .host && (currentPlaying w.stationId c).isNone &&
    (hostPending w c).isNone && !onBreak session

/-- The row of the queue that is chosen. -/
def chosen (c : Engine) (session : Option Session) : Option Row :=
  if takesRow w c session then nextPending w.stationId (skipDuplicatePending w c) else none

/-- The row of the queue that a tick chooses. -/
def chosenRow (s : Engine) : Option Row :=
  (choicePoint w env s).bind fun c => chosen w c.1 c.2

/-- A row that plays in `t` played in `s`, or it is the row `x` that was chosen. -/
def Begins (s : Engine) (x : Option Row) (t : Engine) : Prop :=
  ∀ (id : ℤ) (q : QueueItem), t.queueItems[id]? = some q → q.stationId = w.stationId →
    q.status = .playing → QueuePlays w.stationId s id ∨
      ∃ item ∈ x, id = item.1 ∧ q.trackId = item.2.trackId

variable {w env} {s t c : Engine} {x : Option Row}

lemma queueKept_begins (s : Engine) (x : Option Row) :
    QueueKept w (fun _ => True) (Begins w s x) where
  same u v hitems _ h id q hq := h id q (hitems ▸ hq)
  append u r _ hp _ h id q hq hst hplays := by
    rw [insertQueue, lookup_insert] at hq
    split_ifs at hq
    · obtain rfl := Option.some.inj hq
      rw [hp] at hplays
      cases hplays
    · exact h id q hq hst hplays
  settle u id f _ hf h j q hq hst hplays := by
    rw [lookup_updateQueue] at hq
    split_ifs at hq
    · obtain ⟨r, -, rfl⟩ := Option.map_eq_some_iff.mp hq
      exact absurd hplays (settled_ne hf r).2
    · exact h j q hq hst hplays
  playing _ _ _ _ _ _ := trivial

lemma begins_self (s : Engine) : Begins w s none s := fun _ q hq hst hp => .inl ⟨q, hq, hst, hp⟩

lemma Begins.mono (h : Begins w s none t) (x : Option Row) : Begins w s x t :=
  fun id q hq hst hp => .inl ((h id q hq hst hp).resolve_right fun ⟨_, hnone, _⟩ => by cases hnone)

/-- Marked as playing, the row has begun. -/
lemma Begins.marked {item : Row} (h : Begins w s none t)
    (hrow : t.queueItems[item.1]? = some item.2) (now : ℤ) :
    Begins w s (some item) (markQueuePlaying item.1 now t) := by
  intro id q hq hst hp
  rw [markQueuePlaying, lookup_updateQueue] at hq
  split_ifs at hq with hid
  · subst hid
    rw [hrow] at hq
    obtain rfl := Option.some.inj hq
    exact .inr ⟨item, rfl, rfl, rfl⟩
  · exact h.mono _ id q hq hst hp

/-- Whether it can be started or not, no other row begins to play. -/
lemma playQueueItem_begins {item : Row} (h : Begins w s none t)
    (hrow : t.queueItems[item.1]? = some item.2) :
    Ends (playManagedItem w env (managedQueueItem env item)) t
      (fun _ => Begins w s (some item)) (Begins w s (some item)) := by
  have hkept : QueueKept w (fun _ => True) (Begins w s (some item)) := queueKept_begins s _
  have hrest : Moves (Keeps (Begins w s (some item)))
      (playManagedItem w env { managedQueueItem env item with markPlaying := id }) :=
    hkept.borne.playManagedItem hkept.borne.startsAt nofun (fun _ hu => hu)
      (fun u => hkept.settle u _ _ trivial fun _ => .inl rfl)
      (fun u => hkept.settle u _ _ trivial fun _ => .inr rfl) fun u hu id q hq hst hp => by
        change (updateQueue item.1 _ u).queueItems[id]? = some q at hq
        rw [lookup_updateQueue] at hq
        split_ifs at hq
        · obtain ⟨r, -, rfl⟩ := Option.map_eq_some_iff.mp hq
          cases hp
        · exact hu id q hq hst hp
  exact hrest.keeps (h.marked hrow (env.stamp .start))

/-- The rows of the queue stay. -/
def RowsKept (s t : Engine) : Prop :=
  ∀ (id : ℤ) (q : QueueItem), s.queueItems[id]? = some q → t.queueItems[id]? = some q

instance : IsPreorder Engine RowsKept where
  refl _ _ _ h := h
  trans _ _ _ h h' id q hq := h' id q (h id q hq)

lemma RowsKept.of_eq (h : t.queueItems = s.queueItems) : RowsKept s t := fun id q hq => by
  rwa [h]

lemma rowsKept_enqueue (trackId : ℤ) (key : String) (s : Engine) :
    RowsKept s (enqueue w.stationId trackId key s).1 := by
  unfold enqueue
  split
  · exact refl_of RowsKept s
  · intro id q hq
    change (insertQueue (.new w.stationId trackId _ key) s).queueItems[id]? = some q
    rw [insertQueue, lookup_insert, if_neg (lt_nextId hq).ne]
    exact hq

lemma shows_rowsKept : Shows w RowsKept where
  preorder := inferInstance
  playout _ _ _ _ _ := .of_eq rfl
  filled s := by
    unfold BroadcastQueue.ensureFilled BroadcastQueue.ensureReadyForPlayback
    dsimp only
    split
    · exact refl_of RowsKept s
    split
    · exact refl_of RowsKept s
    · exact Runs.inv_of_foldl (P := RowsKept s)
        (fun _ _ hs => trans_of RowsKept hs (rowsKept_enqueue _ _ _)) _ (refl_of RowsKept s)
  ads _ _ _ _ := .of_eq rfl
  sessions _ _ := .of_eq rfl
  automation _ := .of_eq rfl
  start _ _ _ := .of_eq rfl

lemma skipDuplicates_begins (last : ℤ) (n : ℕ) (h : Begins w s x t) :
    Begins w s x (skipDuplicates w last n t) := by
  induction n generalizing t with
  | zero => exact h
  | succ n ih =>
    unfold skipDuplicates
    split
    · exact h
    · split_ifs
      · exact ih ((queueKept_begins s x).settle t _ _ trivial (fun _ => .inl rfl) h)
      · exact h

lemma skipDuplicatePending_begins (h : Begins w s x t) :
    Begins w s x (skipDuplicatePending w t) := by
  unfold skipDuplicatePending
  dsimp only
  split_ifs
  · exact h
  · exact skipDuplicates_begins _ _ h

/-- **The choice starts the chosen row** of the queue, or none. -/
theorem startNext_begins (h : Begins w s none c) (session : Option Session) :
    Ends (startNext w env session) c (fun _ => Begins w s (chosen w c session))
      (Begins w s (chosen w c session)) := by
  have hkept : QueueKept w (fun _ => True) (Begins w s none) := queueKept_begins s none
  unfold startNext
  rw [ends_bind, ends_get]
  by_cases hhost : (current w.stationId c).source = .host
  · rw [if_pos hhost]
    exact h.mono _
  rw [if_neg hhost, ends_bind, ends_get]
  dsimp only
  have hrest : ∀ (d : Engine) (playing : Option Row), Begins w s none d → SameFiles w c d →
      (∀ item, playing = none → nextPending w.stationId d = some item → hostPending w c = none →
        onBreak session = false → chosen w c session = some item) →
      Ends (do
        let pending := nextPending w.stationId (← get)
        let dueAd ← nextDueAdIfAllowed w env .choiceDue
        startSource w env playing pending dueAd session) d
          (fun _ => Begins w s (chosen w c session)) (Begins w s (chosen w c session)) := by
    intro d playing hd hfiles hitem
    rw [ends_bind, ends_get]
    refine Ends.bind ((((hkept.beside.nextDueAdIfAllowed.keeps hd).and
      (Covers.sameFiles_nextDueAdIfAllowed.after hfiles)).and
        (shows_rowsKept.nextDueAdIfAllowed.ends d)).mono (fun _ _ he => he)
      fun e he => he.1.1.mono _) fun dueAd e he => ?_
    refine hkept.borne.startSource_ends (fun _ ht => ht.mono _)
      (fun item hnext hplaying hnone hbreak => ?_) dueAd he.1.1
    rw [hitem item hplaying hnext (he.1.2.host ▸ hnone) hbreak]
    have hrow := (SettingsText.mem_queueRows.mp
      (show (item.1, item.2) ∈ _ from Sql.firstBy_mem hnext)).1
    exact playQueueItem_begins he.1.1 (he.2 _ _ hrow)
  cases hp : currentPlaying w.stationId c with
  | none =>
    refine hrest _ none (skipDuplicatePending_begins h) ?_ fun item _ hnext hnone hbreak => ?_
    · obtain ⟨items, hskip⟩ := skipDuplicatePending_eq w c
      rw [hskip]
      exact .of_eq rfl rfl rfl rfl
    · rw [chosen, takesRow, hp, hnone, hbreak, decide_eq_true hhost]
      exact hnext
  | some playing => exact hrest c (some playing) h (refl_of (SameFiles w) c) nofun

/-- **A tick starts the row it chooses**, and no other row of the queue. -/
theorem tick_begins (ht : tick w s env = some t) : Begins w s (chosenRow w env s) t := by
  obtain rfl := Option.some.inj ht
  have hcalm : ∀ {α : Type} {x : WorkerM α} {u : Engine},
    Moves (Calm (fun _ _ => True) w.stationId) x →
      Begins w s none u → Ends x u (fun _ => Begins w s none) (Begins w s none) := by
    intro α x u hx hu
    have hall : ∀ v, Calm (fun _ _ => True) w.stationId u v → Begins w s none v :=
      fun v hv id q hq hst hp => by
        obtain ⟨q', hq', hst', hp'⟩ := hv.queue id ⟨q, hq, hst, hp⟩
        exact .inl ((hu id q' hq' hst' hp').resolve_right fun ⟨_, hnone, _⟩ => by cases hnone)
    exact (hx.ends u).mono (fun _ => hall) hall
  refine Ends.final (x := processOnce w env) ?_
  have hmono : ∀ u, Begins w s none u → Begins w s (chosenRow w env s) u := fun _ hu => hu.mono _
  refine ((hcalm (calm_upkeep trivial) (begins_self s)).mono (fun _ _ h => h) hmono).bindEq
    fun r s₁ hr h₁ => ?_
  cases r with
  | inl outcome => exact hmono _ h₁
  | inr session =>
    refine ((hcalm (calm_advancePlayingQueueItem trivial) h₁).mono (fun _ _ h => h) hmono).bindEq
      fun _ s₂ hr₂ h₂ => ?_
    refine ((hcalm (calm_advanceOthers trivial) h₂).mono (fun _ _ h => h) hmono).bindEq
      fun _ s₃ hr₃ h₃ => ?_
    have hchoice : chosenRow w env s = chosen w s₃ session := by
      simp [chosenRow, choicePoint, hr, hr₂, hr₃]
    rw [hchoice]
    exact startNext_begins h₃ session

end OnAir.QueueStarts
