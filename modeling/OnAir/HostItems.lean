import OnAir.OtherPhases

/-!
When the host's items leave their queue.

The playout names the host's item before the runtime is asked to play it. Where the start fails,
the name stays, and a later tick that finds the runtime silent takes the item out of the queue
unheard.
-/

namespace OnAir.HostItems

open OneSource OtherPhases PlayoutAdvance PlayoutTables Programs QuietPhases QueueUpkeep Runs
  ShowBreaks StationWorker OnAir.Table WorkerEnv

/-! ### What was started -/

/-- The calls of `start_station` that have returned between two states. -/
def returned (s t : Engine) : List Start := t.starts.take (t.starts.length - s.starts.length)

/-- The item a tick has started for the host: the one that the playout names. -/
def hostStarted (w : Worker) (s t : Engine) : List ℤ :=
  if (returned s t).any (·.kind = .host) then (current w.stationId t).itemId.toList else []

/-- A tick, with the host's items that were started so far. -/
def heardTick (w : Worker) (p : Engine × List ℤ) (env : Env) : Option (Engine × List ℤ) :=
  (tick w p.1 env).map fun t => (t, hostStarted w p.1 t ++ p.2)

/-- In the tick the runtime was asked whether it still plays, and it did not. -/
def Silent (w : Worker) (env : Env) (s t : Engine) : Prop :=
  ∃ u : Engine, s.starts <:+ u.starts ∧ u.starts <:+ t.starts ∧
    (w.hasRuntime && playbackAlive (env.status .hostAdvance (lastAsked w u))) = false

/-- A host's item that leaves the queue has no file, or it was started in an earlier tick and the
runtime has stopped. -/
def TakenHeard (w : Worker) (p : Engine × List ℤ) (env : Env) : Prop :=
  ∀ t ∈ tick w p.1 env, ∀ (id : ℤ) (r : ProgramQueueItem),
    p.1.programQueueItems[id]? = some r → t.programQueueItems[id]? = none →
      trackUri env t r.trackId = "" ∨ id ∈ p.2 ∧ Silent w env p.1 t

/-- A host's item with a file that is chosen is started: there is a runtime, and the start does
not raise. -/
def HostStarts (w : Worker) (p : Engine × List ℤ) (env : Env) : Prop :=
  ∀ c ∈ choicePoint w env p.1, (current w.stationId c.1).source ≠ .host →
    ∀ item ∈ hostPending w c.1, trackUri env c.1 item.2.trackId ≠ "" →
      w.hasRuntime = true ∧ env.startError .start = none

/-- What the playout names as the host's item was started. -/
def Named (w : Worker) (p : Engine × List ℤ) : Prop :=
  ∀ id, current w.stationId p.1 = ⟨.host, some id⟩ → id ∈ p.2

instance (w : Worker) (p : Engine × List ℤ) (env : Env) : Decidable (HostStarts w p env) := by
  unfold HostStarts
  infer_instance

/-! ### The other phases -/

variable {w : Worker} {env : Env} {s t u c : Engine}

/-- The host's items stay, and the playout does not go to one. -/
structure Leaves (w : Worker) (s t : Engine) : Prop where
  items : t.programQueueItems = s.programQueueItems
  playout : (current w.stationId t).source = .host → current w.stationId t = current w.stationId s
  starts : ∃ new, t.starts = new ++ s.starts ∧ ∀ x ∈ new, x.kind ≠ .host

lemma Leaves.trans (h : Leaves w s t) (h' : Leaves w t u) : Leaves w s u where
  items := h'.items.trans h.items
  playout hu := (h'.playout hu).trans (h.playout (h'.playout hu ▸ hu))
  starts := by
    obtain ⟨new, hn, hk⟩ := h.starts
    obtain ⟨new', hn', hk'⟩ := h'.starts
    refine ⟨new' ++ new, by rw [hn', hn, List.append_assoc], fun x hx => ?_⟩
    exact (List.mem_append.mp hx).elim (hk' x) (hk x)

instance : IsPreorder Engine (Leaves w) where
  refl _ := ⟨rfl, fun _ => rfl, [], rfl, by simp⟩
  trans _ _ _ := Leaves.trans

lemma Leaves.of_aside (h : Aside w s t) : Leaves w s t where
  items := h.host
  playout := h.playout
  starts := by
    obtain ⟨new, hn, hk⟩ := h.starts
    exact ⟨new, hn, fun x hx => by rw [hk x hx]; decide⟩

lemma covers_leaves : Covers w (Leaves w) where
  preorder := inferInstance
  playout _ hs item reason s := .of_aside (aside_setCurrent hs item reason s)
  filled s := .of_aside (aside_ensureFilled _ s)
  aside _ _ := .of_aside
  ads _ _ _ _ := ⟨rfl, fun _ => rfl, [], rfl, by simp⟩
  adTable _ _ := ⟨rfl, fun _ => rfl, [], rfl, by simp⟩
  sessions _ _ := ⟨rfl, fun _ => rfl, [], rfl, by simp⟩
  schedule _ _ := ⟨rfl, fun _ => rfl, [], rfl, by simp⟩
  automation _ := ⟨rfl, fun _ => rfl, [], rfl, by simp⟩
  start _ x hx := ⟨rfl, fun _ => rfl, [x], rfl, by simpa using hx⟩

/-! ### Up to the choice -/

/-- The rest of the tick comes to `c` from `s`: an item is gone only if the playout named it and
the runtime was silent. -/
structure Progress (w : Worker) (env : Env) (s c : Engine) : Prop where
  items : ∀ id : ℤ, c.programQueueItems[id]? = s.programQueueItems[id]? ∨
    c.programQueueItems[id]? = none ∧ current w.stationId s = ⟨.host, some id⟩ ∧
      Silent w env s c
  playout : (current w.stationId c).source = .host → current w.stationId c = current w.stationId s
  starts : ∃ new, c.starts = new ++ s.starts ∧ ∀ x ∈ new, x.kind ≠ .host

lemma Leaves.progress (h : Leaves w s t) : Progress w env s t :=
  ⟨fun _ => .inl (by rw [h.items]), h.playout, h.starts⟩

lemma Silent.suffix (h : Silent w env s t) (hu : t.starts <:+ u.starts) : Silent w env s u := by
  obtain ⟨v, hs, ht, hsilent⟩ := h
  exact ⟨v, hs, ht.trans hu, hsilent⟩

lemma Progress.trans (h : Progress w env s t) (h' : Leaves w t u) : Progress w env s u := by
  obtain ⟨new, hn, hk⟩ := h'.starts
  refine ⟨fun id => ?_, fun hu => (h'.playout hu).trans (h.playout (h'.playout hu ▸ hu)), ?_⟩
  · rw [h'.items]
    refine (h.items id).imp_right fun ⟨hnone, hnamed, hsilent⟩ => ⟨hnone, hnamed, ?_⟩
    exact hsilent.suffix ⟨new, hn.symm⟩
  · obtain ⟨new', hn', hk'⟩ := h.starts
    refine ⟨new ++ new', by rw [hn, hn', List.append_assoc], fun x hx => ?_⟩
    exact (List.mem_append.mp hx).elim (hk x) (hk' x)

/-- The host's item is taken out only while the runtime is silent. -/
lemma advanceHostTrack_ends (h : Leaves w s u) :
    Ends (advanceHostTrack w env) u (fun _ => Progress w env s) (Progress w env s) := by
  unfold advanceHostTrack
  rw [ends_bind, ends_get]
  dsimp only
  by_cases hhost : (current w.stationId u).source = .host
  · rw [if_pos hhost]
    cases hitem : (current w.stationId u).itemId with
    | none => exact h.progress
    | some item =>
      dsimp only
      cases hsilent : w.hasRuntime &&
          playbackAlive (env.status .hostAdvance (lastAsked w u)) with
      | true =>
        rw [if_pos rfl]
        exact h.progress
      | false =>
        rw [if_neg (by simp), ends_bind, ends_modify]
        obtain ⟨new, hn, hk⟩ := h.starts
        have hnamed : current w.stationId s = ⟨.host, some item⟩ := by
          rw [← h.playout hhost, ← hhost, ← hitem]
        have hpopped : Progress w env s (popHostItem item u) := by
          refine ⟨fun id => ?_, h.playout, h.starts⟩
          rw [popHostItem, lookup_erase]
          split_ifs with hid
          · subst hid
            exact .inr ⟨rfl, hnamed, u, ⟨new, hn.symm⟩, List.suffix_refl _, hsilent⟩
          · exact .inl (by rw [h.items])
        have hrest : Moves (Leaves w) (do
            setPlayoutState w .none none "host_track_complete"
            broadcastQueue w env .hostAdvance) :=
          (covers_leaves.setPlayoutState (by decide) _ _).bind fun _ => covers_leaves.broadcast
        exact (hrest.ends _).mono (fun _ _ ht => hpopped.trans ht) fun _ ht => hpopped.trans ht
  · rw [if_neg hhost]
    exact h.progress

lemma advanceOthers_ends (h : Leaves w s u) :
    Ends (advanceOthers w env) u (fun _ => Progress w env s) (Progress w env s) := by
  unfold advanceOthers
  have hads : Moves (Leaves w) (advancePlayingAdItem w env) := covers_leaves.advancePlayingAdItem
  have hdisabled : Moves (Leaves w) (failDisabledActiveAds w env) :=
    covers_leaves.failDisabledActiveAds
  have hhourly : Moves (Leaves w) (ensureHourlyAdBreak w env) := covers_leaves.ensureHourlyAdBreak
  refine ((hads.after h).mono (fun _ _ h => h) fun _ h => h.progress).bind fun _ _ h => ?_
  refine ((hdisabled.after h).mono (fun _ _ h => h) fun _ h => h.progress).bind fun _ _ h => ?_
  refine ((hhourly.after h).mono (fun _ _ h => h) fun _ h => h.progress).bind fun _ _ h => ?_
  exact advanceHostTrack_ends h

/-! ### A whole tick -/

/-- What a tick has done to the host's items. -/
structure Done (w : Worker) (env : Env) (s t : Engine) : Prop where
  taken : ∀ (id : ℤ) (r : ProgramQueueItem), s.programQueueItems[id]? = some r →
    t.programQueueItems[id]? = none →
      trackUri env t r.trackId = "" ∨
        current w.stationId s = ⟨.host, some id⟩ ∧ Silent w env s t
  named : ∀ id, current w.stationId t = ⟨.host, some id⟩ →
    current w.stationId s = ⟨.host, some id⟩ ∨ id ∈ hostStarted w s t

lemma Progress.done (h : Progress w env s t) : Done w env s t where
  taken id r hr hnone := by
    rcases h.items id with heq | ⟨-, hnamed⟩
    · rw [heq, hr] at hnone
      cases hnone
    · exact .inr hnamed
  named id hid := by
    have hhost := h.playout (by rw [hid])
    exact .inl (hhost ▸ hid)

lemma returned_eq {new : List Start} (h : t.starts = new ++ s.starts) : returned s t = new := by
  simp [returned, h]

lemma playout_setCurrent {st : ℤ} (source : PlayoutSource) (item : Option ℤ) (reason : String)
    (s : Engine) : current st (setCurrent st source item reason s) = ⟨source, item⟩ := by
  rw [current, setCurrent, lookup_insert, if_pos rfl]
  rfl

/-- Once the host's item is started, the rest of the tick leaves it named. -/
lemma done_of_started {e f : Engine} {x : Start} {item : ℤ} (h : Progress w env s e)
    (hx : x.kind = .host)
    (hf : Leaves w { setCurrent w.stationId .host (some item) "host_start" e with
      starts := x :: e.starts } f) : Done w env s f := by
  obtain ⟨new, hn, -⟩ := hf.starts
  obtain ⟨new', hn', -⟩ := h.starts
  have hstarts : f.starts = (new ++ x :: new') ++ s.starts := by
    rw [hn]
    change new ++ x :: e.starts = _
    rw [hn', List.append_assoc, List.cons_append]
  refine ⟨fun id r hr hnone => ?_, fun id hid => .inr ?_⟩
  · have hkept : e.programQueueItems[id]? = none := by
      rw [hf.items] at hnone
      exact hnone
    rcases h.items id with heq | ⟨-, hnamed, hsilent⟩
    · rw [← heq, hkept] at hr
      cases hr
    · exact .inr ⟨hnamed, hsilent.suffix ⟨new ++ [x], by rw [hn]; simp⟩⟩
  · have hany : (returned s f).any (·.kind = .host) = true := by
      rw [returned_eq hstarts]
      simp [hx]
    have hsame : current w.stationId f = ⟨.host, some item⟩ := by
      have hplayout := hf.playout (by rw [hid])
      rw [hplayout]
      exact playout_setCurrent .host (some item) "host_start" e
    have hitem : item = id := by
      rw [hsame] at hid
      cases hid
      rfl
    rw [hostStarted, if_pos hany, hid]
    simp

/-- The host's item is started, or it has no file and is taken out. -/
lemma playHostTrack_ends {d : Engine} (h : Progress w env s d) (item : ℤ × ProgramQueueItem)
    (hrow : d.programQueueItems[item.1]? = some item.2)
    (hstart : trackUri env d item.2.trackId ≠ "" →
      w.hasRuntime = true ∧ env.startError .start = none) :
    Ends (playHostTrack w env item) d (fun _ => Done w env s) (Done w env s) := by
  unfold playHostTrack setPlayoutState
  have hfinish : Moves (Leaves w) (finishPlayingQueueItem w env) :=
    covers_leaves.of_aside aside_finishPlayingQueueItem
  refine (((hfinish.ends d).and (sameFiles_finishPlayingQueueItem (w := w).ends d)).mono
    (fun _ _ he => he) fun _ he => (h.trans he.1).done).bind fun _ e he => ?_
  have hprogress := h.trans he.1
  have herow : e.programQueueItems[item.1]? = some item.2 := by rw [he.1.items, hrow]
  rw [← he.2.uri] at hstart
  rw [ends_bind, ends_modify, ends_bind, ends_get]
  have huri : ∀ id, trackUri env (setCurrent w.stationId .host (some item.1) "host_start" e) id =
      trackUri env e id := fun _ => rfl
  dsimp only
  rw [huri]
  by_cases hmissing : trackUri env e item.2.trackId = ""
  · rw [if_pos hmissing, ends_bind, ends_modify, ends_bind, ends_modify, ends_pure]
    refine ⟨fun id r hr hnone => ?_, fun id hid => ?_⟩
    · by_cases hid : id = item.1
      · subst hid
        rcases hprogress.items item.1 with heq | ⟨hgone, -⟩
        · rw [← heq, herow] at hr
          cases hr
          exact .inl hmissing
        · rw [hgone] at herow
          cases herow
      · have hkept : e.programQueueItems[id]? = none := by
          have := lookup_erase e.programQueueItems item.1 id
          rw [if_neg hid] at this
          exact this.symm.trans hnone
        exact (hprogress.done.taken id r hr hkept).imp_right fun ⟨hn, hs⟩ => ⟨hn, hs⟩
    · rw [playout_setCurrent] at hid
      cases hid
  · obtain ⟨hruntime, hreturns⟩ := hstart hmissing
    rw [if_neg hmissing, hruntime, if_pos rfl, ends_bind]
    unfold startStation
    rw [hreturns, ends_modify]
    have hrest : Moves (Leaves w) (do
        broadcastQueue w env .start
        return ⟨"host", none, some (trackUri env e item.2.trackId), none⟩ : WorkerM Outcome) :=
      covers_leaves.broadcast.bind fun _ => Moves.pure _
    exact (hrest.ends _).mono (fun _ _ ht => done_of_started hprogress rfl ht)
      fun _ ht => done_of_started hprogress rfl ht

lemma nextHostItem_row {item : ℤ × ProgramQueueItem} (h : hostPending w s = some item) :
    s.programQueueItems[item.1]? = some item.2 := by
  unfold hostPending at h
  split_ifs at h
  exact mem_rows.mp (List.mem_filter.mp (Sql.firstBy_mem h)).1

/-- A tick in which a host's item that is chosen is started. -/
lemma tick_done {started : List ℤ} (h : HostStarts w (s, started) env) :
    Done w env s (final (processOnce w env s)) := by
  refine Ends.final (x := processOnce w env) ?_
  have hupkeep : Moves (Leaves w) (upkeep w env) := covers_leaves.upkeep
  have hadvance : Moves (Leaves w) (advancePlayingQueueItem w env) :=
    covers_leaves.of_aside aside_advancePlayingQueueItem
  refine ((hupkeep.ends s).mono (fun _ _ h => h) fun _ h => h.progress.done).bindEq
    fun r s₁ hr h₁ => ?_
  cases r with
  | inl outcome => exact h₁.progress.done
  | inr session =>
    refine ((hadvance.after h₁).mono (fun _ _ h => h) fun _ h => h.progress.done).bindEq
      fun _ s₂ hr₂ h₂ => ?_
    refine ((advanceOthers_ends h₂).mono (fun _ _ h => h) fun _ h => h.done).bindEq
      fun _ s₃ hr₃ h₃ => ?_
    refine covers_leaves.startNext_ends (fun d hd => (h₃.trans hd).done)
      (fun hplayout d item hd hfiles hitem => ?_) session
    have hchoice : (s₃, session) ∈ choicePoint w env s := by simp [choicePoint, hr, hr₂, hr₃]
    refine playHostTrack_ends (h₃.trans hd) item ?_ fun huri => ?_
    · rw [hd.items]
      exact nextHostItem_row hitem
    · exact h _ hchoice hplayout item hitem (hfiles.uri _ ▸ huri)

/-- **Host's items are heard.** In every tick of a run from a state whose playout names only what
was started, a host's item that leaves the queue has no file, or was started before and the
runtime has stopped; if in each tick a host's item that is chosen is started. -/
theorem host_items_heard {started : List ℤ} {envs : List Env} (hnamed : Named w (s, started))
    (hm : Meets (heardTick w) (HostStarts w) (s, started) envs) :
    Meets (heardTick w) (TakenHeard w) (s, started) envs := by
  induction envs generalizing s started with
  | nil => trivial
  | cons env envs ih =>
    have hdone := tick_done hm.1
    refine ⟨fun t ht id r hr hnone => ?_, fun p hp => ?_⟩
    · cases ht
      exact (hdone.taken id r hr hnone).imp_right fun ⟨hn, hs⟩ => ⟨hnamed id hn, hs⟩
    · obtain ⟨t, ht, rfl⟩ := Option.map_eq_some_iff.mp hp
      cases ht
      refine ih (fun id hid => List.mem_append.mpr ?_) (hm.2 _ hp)
      exact (hdone.named id hid).symm.imp_right (hnamed id)

/-! ### An item that nobody heard -/

/-- The host's item 1 waits, and the program comes from the host. -/
def hostWaits : Engine :=
  { Engine.empty with
    tracks := Engine.empty.tracks.insert 1
      ⟨1, "", "", "/one.mp3", 200, "music", true, true, 0, none⟩
    programQueueItems := Engine.empty.programQueueItems.insert 1 ⟨1, 1, 1⟩
    stationSettings := Engine.empty.stationSettings.insert 1
      ((∅ : Std.ExtTreeMap String String).insert "program_queue_source" "host") }

/-- The runtime does not start. -/
def deafWorld (time : ℚ) : Env := { silentWorld time with startError := fun _ => some "no runtime" }

/-- The start fails, and the next tick takes the item out. -/
theorem host_item_unheard :
    Named soleWorker (hostWaits, []) ∧ ¬ Meets (heardTick soleWorker) (TakenHeard soleWorker)
      (hostWaits, []) [deafWorld 100, deafWorld 102] := by
  refine ⟨fun id hid => ?_, fun h => ?_⟩
  · have hnone : current soleWorker.stationId hostWaits = ⟨.none, none⟩ := by decide +kernel
    rw [hnone] at hid
    cases hid
  have hrun : ((heardTick soleWorker (hostWaits, []) (deafWorld 100)).any fun p =>
      decide (p.1.programQueueItems[(1 : ℤ)]? = some ⟨1, 1, 1⟩) && p.2.isEmpty &&
        (tick soleWorker p.1 (deafWorld 102)).any fun t =>
          decide (t.programQueueItems[(1 : ℤ)]? = none) &&
            decide (trackUri (deafWorld 102) t 1 ≠ "")) = true := by decide +kernel
  obtain ⟨p, hp, hrun⟩ := (Option.any_eq_true ..).mp hrun
  simp only [Bool.and_eq_true, decide_eq_true_eq] at hrun
  obtain ⟨⟨hrow, hstarted⟩, hnext⟩ := hrun
  obtain ⟨t, ht, hgone⟩ := (Option.any_eq_true ..).mp hnext
  simp only [Bool.and_eq_true, decide_eq_true_eq] at hgone
  rcases (h.2 p hp).1 t ht 1 _ hrow hgone.1 with huri | ⟨hmem, -⟩
  · exact hgone.2 huri
  · rw [List.isEmpty_iff.mp hstarted] at hmem
    cases hmem

/-- A run in which the item is started, and then the runtime ends. -/
theorem host_items_heard_hostWaits :
    Meets (heardTick soleWorker) (TakenHeard soleWorker) (hostWaits, [])
      [calmWorld 100, silentWorld 400] := by
  refine host_items_heard (fun id hid => ?_) (by decide +kernel)
  have hnone : current soleWorker.stationId hostWaits = ⟨.none, none⟩ := by decide +kernel
  rw [hnone] at hid
  cases hid

end OnAir.HostItems
