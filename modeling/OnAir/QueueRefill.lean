import OnAir.QueueOrder
import OnAir.SweepStability

/-!
What `ensure_broadcast_queue_ready_for_playback` adds to a queue in which nothing waits, and a
second reconciliation after it.

An item is added unless an active row has its key already. The keys of the items are all different,
so what is added depends on the rows that play only.
-/

namespace OnAir.QueueRefill

open ActiveRows BroadcastQueue PlayoutTables QueueEdits Reconciliation SweepStability SweeperQueue
  OnAir.Table

variable {st : ℤ} {s t : Engine} {sweeper : Sweeper}

/-! ### Adding items by their keys -/

def keysOf (st : ℤ) (s : Engine) : List (Option String) :=
  (listActiveOrdered st s).map (·.2.dedupeKey)

def addItem (st : ℤ) (s : Engine) (item : ℤ × String) : Engine := (enqueue st item.1 item.2 s).1

/-- The items whose keys no active row has. -/
def newItems (st : ℤ) (s : Engine) (items : List (ℤ × String)) : List (ℤ × String) :=
  items.filter fun item => some item.2 ∉ keysOf st s

/-- From `s` to `t` rows for the items were appended, and nothing else that is played from. -/
structure Added (st : ℤ) (items : List (ℤ × String)) (s t : Engine) : Prop
    extends SamePlayed st s t where
  rows : ∃ new, listActiveOrdered st t = listActiveOrdered st s ++ new ∧
    new.map (fun r => content r.2) = items.map fun item => .new st item.1 0 item.2
  playoutState : t.playoutState = s.playoutState
  settings : ∀ key, key ≠ "_queue_change_sequence" → setting st t key = setting st s key

lemma mem_keysOf {key : String} : some key ∈ keysOf st s ↔
    ∃ r ∈ queueRows st s [.pending, .playing], r.2.dedupeKey = some key := by
  unfold keysOf listActiveOrdered
  rw [List.mem_map]
  exact exists_congr fun r => and_congr_left fun _ => Sql.mem_orderBy ..

lemma findByDedupeKey_iff {key : String} (hkey : key ≠ "") :
    findByDedupeKey st s key [.pending, .playing] = none ↔ some key ∉ keysOf st s := by
  unfold findByDedupeKey
  rw [if_neg hkey, List.find?_eq_none, mem_keysOf]
  simp

lemma setting_bump {key : String} (hkey : key ≠ "_queue_change_sequence") :
    setting st (bumpChangeSequence st s) key = setting st s key :=
  OneSource.setting_upsertSetting hkey _ s

lemma added_addItem {item : ℤ × String} (hkey : item.2 ≠ "") (hfree : some item.2 ∉ keysOf st s) :
    Added st [item] s (addItem st s item) := by
  have hfind := (findByDedupeKey_iff hkey).mpr hfree
  unfold addItem enqueue
  rw [hfind]
  dsimp only
  have hinsert := samePlayed_insert st s
    (show (QueueItem.new st item.1 (nextPosition st s) item.2).status = .pending from rfl)
  refine ⟨⟨hinsert.tracks, hinsert.history⟩, ⟨[_], listActiveOrdered_insertQueue rfl rfl
    (QueueOrder.beyond_nextPosition st s), rfl⟩, rfl, fun key hne => setting_bump hne⟩

lemma Added.refl (s : Engine) : Added st [] s s :=
  ⟨⟨rfl, rfl⟩, ⟨[], by simp, rfl⟩, rfl, fun _ _ => rfl⟩

lemma Added.trans {u : Engine} {items items' : List (ℤ × String)} (h : Added st items s t)
    (h' : Added st items' t u) : Added st (items ++ items') s u := by
  obtain ⟨new, hnew, hcontent⟩ := h.rows
  obtain ⟨new', hnew', hcontent'⟩ := h'.rows
  refine ⟨h.toSamePlayed.trans h'.toSamePlayed, ⟨new ++ new', ?_, ?_⟩,
    h'.playoutState.trans h.playoutState,
    fun key hkey => (h'.settings key hkey).trans (h.settings key hkey)⟩
  · rw [hnew', hnew, List.append_assoc]
  · rw [List.map_append, List.map_append, hcontent, hcontent']

lemma Added.keysOf {items : List (ℤ × String)} (h : Added st items s t) :
    keysOf st t = keysOf st s ++ items.map fun item => some item.2 := by
  obtain ⟨new, hnew, hcontent⟩ := h.rows
  have hkeys := congrArg (List.map QueueItem.dedupeKey) hcontent
  rw [List.map_map, List.map_map] at hkeys
  unfold QueueRefill.keysOf
  rw [hnew, List.map_append]
  exact congrArg _ hkeys

/-- **The items with new keys are added**, where no key comes twice. -/
theorem added_foldl (items : List (ℤ × String)) (hkeys : ∀ item ∈ items, item.2 ≠ "")
    (hnodup : (items.map Prod.snd).Nodup) :
    Added st (newItems st s items) s (items.foldl (addItem st) s) := by
  induction items generalizing s with
  | nil => exact .refl s
  | cons item items ih =>
    rw [List.map_cons, List.nodup_cons] at hnodup
    have hrest := ih (s := addItem st s item)
      (fun i hi => hkeys i (List.mem_cons_of_mem _ hi)) hnodup.2
    rw [List.foldl_cons]
    by_cases hfree : some item.2 ∉ keysOf st s
    · have hadded := added_addItem (hkeys item List.mem_cons_self) hfree
      have hsame : newItems st (addItem st s item) items = newItems st s items := by
        refine List.filter_congr fun i hi => ?_
        rw [hadded.keysOf]
        have hne : i.2 ≠ item.2 := fun he => hnodup.1 (he ▸ List.mem_map_of_mem hi)
        simp [hne]
      rw [hsame] at hrest
      have hall := hadded.trans hrest
      rwa [newItems, List.filter_cons, if_pos (by simpa using hfree)]
    · have hsame : addItem st s item = s := by
        have hfind := mt (findByDedupeKey_iff (hkeys item List.mem_cons_self)).mp hfree
        obtain ⟨r, hr⟩ := Option.ne_none_iff_exists'.mp hfind
        unfold addItem enqueue
        rw [hr]
      rw [hsame] at hrest ⊢
      rwa [newItems, List.filter_cons, if_neg (by simpa using hfree)]

/-! ### The items of a refill -/

section Items

variable (st s sweeper)

/-- The tracks that are chosen for a queue whose active rows are those of the state. -/
def refillTracks : List ℤ :=
  let excluded := ((listActiveOrdered st s).map (·.2.trackId) ++
    (libraryFallbackTrackId st s).toList).filter (0 < ·)
  interleaveWithJingles st s ((selectTracks st s 10 excluded).map Prod.fst) sweeper

def refillItems : List (ℤ × String) :=
  (refillTracks st s sweeper).zipIdx.map fun item => (item.1, autofillKey s item.1 (item.2 + 1))

/-- The tracks of a refill whose keys are new. -/
def addedTracks : List ℤ := (newItems st s (refillItems st s sweeper)).map Prod.fst

end Items

lemma ensureReady_eq (hplaying : ∀ r ∈ listActiveOrdered st s, r.2.status ≠ .pending)
    (hsettings : sweeperSettings st s = .ok sweeper) : ensureReadyForPlayback st s true =
      (refillItems st s sweeper).foldl (addItem st) s := by
  unfold ensureReadyForPlayback
  have hrefill : (true && (listActiveOrdered st s).all fun r => r.2.status ≠ .pending) = true := by
    rw [Bool.true_and, List.all_eq_true]
    exact fun r hr => decide_eq_true (hplaying r hr)
  dsimp only
  rw [hrefill, hsettings, Bool.not_true, Bool.and_false, if_neg Bool.false_ne_true, refillItems,
    List.foldl_map]
  rfl

/-- What becomes a small letter is one of the alphabet. -/
lemma char_facts {c : Char} (h : c.toLower.isLower = true) :
    PythonText.isSpace c = false ∧ c ≠ '\u212a' := by
  have hrange : 65 ≤ c.toNat ∧ c.toNat ≤ 122 := by
    unfold Char.toLower at h
    split_ifs at h with hupper
    · simp only [UInt32.le_iff_toNat_le, ge_iff_le] at hupper
      change 65 ≤ c.toNat ∧ c.toNat ≤ 90 at hupper
      omega
    · change (decide (97 ≤ c.val) && decide (c.val ≤ 122)) = true at h
      simp only [UInt32.le_iff_toNat_le, Bool.and_eq_true, decide_eq_true_eq] at h
      change 97 ≤ c.toNat ∧ c.toNat ≤ 122 at h
      omega
  constructor
  · simp only [PythonText.isSpace, Bool.or_eq_false_iff, Bool.and_eq_false_iff,
      decide_eq_false_iff_not]
    omega
  · rintro rfl
    revert hrange
    decide

/-- A word of small letters that SQLite finds in a text is found by Python too. -/
lemma lower_of_sqlLower {text word : String} (hword : ∀ c ∈ word.toList, c.isLower = true)
    (h : Sql.lower text = word) : PythonText.lower text = word ∧ PythonText.trim text = text := by
  have hmap : text.toList.map Char.toLower = word.toList := by
    rw [← h, Sql.lower, String.toList_ofList]
  have hchars : ∀ c ∈ text.toList, PythonText.isSpace c = false ∧ c ≠ '\u212a' := fun c hc =>
    char_facts (hword _ (hmap ▸ List.mem_map_of_mem hc))
  constructor
  · rw [PythonText.lower, ← h, Sql.lower]
    exact congrArg String.ofList (List.map_congr_left fun c hc => if_neg (hchars c hc).2)
  · rw [PythonText.trim, TextFields.strip_eq_self (fun c hc => ?_) fun c hc => ?_,
      String.ofList_toList]
    · exact (hchars c (List.mem_of_mem_head? hc)).1
    · exact (hchars c (List.mem_of_getLast? hc)).1

/-- The kind of a track, where SQLite finds a word of small letters. -/
lemma kinds_of_sqlKind {trackId : ℤ} {word : String} (hword : word.toList.all Char.isLower = true)
    (hne : word ≠ "") (h : sqlKindOf s trackId = word) :
    kindOf s trackId = word ∧ PythonText.lower (trackTypeOf s trackId) = word := by
  obtain ⟨hlower, htrim⟩ := lower_of_sqlLower (List.all_eq_true.mp hword) h
  refine ⟨?_, hlower⟩
  have htext : trackTypeOf s trackId ≠ "" := fun he => by
    rw [sqlKindOf, he] at h
    exact hne h.symm
  unfold kindOf
  dsimp only
  rw [if_neg htext, htrim, hlower]

lemma selectTracks_nodup (limit : ℕ) (excluded : List ℤ) :
    ((selectTracks st s limit excluded).map Prod.fst).Nodup := by
  have hrows : ((rows s.tracks).map Prod.fst).Nodup :=
    List.pairwise_map.mpr ((rows_sorted s.tracks).imp fun h => h.ne)
  have hfilter : (((playable st s "music" excluded).filter
      fun r => !r.2.excludeFromAutoplay).map Prod.fst).Nodup :=
    hrows.sublist ((List.filter_sublist.trans List.filter_sublist).map _)
  have hsorted := ((List.perm_insertionSort (fun a b : ℤ × Track => !leastPlayed b a)
    ((playable st s "music" excluded).filter fun r => !r.2.excludeFromAutoplay)).map
      Prod.fst).nodup_iff.mpr hfilter
  exact hsorted.sublist ((List.take_sublist ..).map _)

lemma sqlKind_of_selectTracks {limit : ℕ} {excluded : List ℤ} {trackId : ℤ}
    (h : trackId ∈ (selectTracks st s limit excluded).map Prod.fst) :
    sqlKindOf s trackId = "music" := by
  obtain ⟨r, hr, rfl⟩ := List.mem_map.mp h
  exact sqlKind_of_playable
    (List.mem_filter.mp (Sql.mem_orderBy.mp (List.mem_of_mem_take hr))).1

/-- Songs are chosen once, with jingles between them. -/
lemma refillTracks_kinds (hlib : Interleaving.eligible st s ≠ []) :
    (∀ t ∈ refillTracks st s sweeper, sqlKindOf s t = "music" ∨ sqlKindOf s t = "jingle") ∧
      ((refillTracks st s sweeper).filter (!Interleaving.isJingle s ·)).Nodup := by
  unfold refillTracks
  dsimp only
  generalize hmusic : (selectTracks st s 10 _).map Prod.fst = music
  have hkind : ∀ t ∈ music, sqlKindOf s t = "music" := fun t ht =>
    sqlKind_of_selectTracks (hmusic ▸ ht)
  have hnodup : music.Nodup := hmusic ▸ selectTracks_nodup _ _
  have hsongs : ∀ t ∈ music, Interleaving.isJingle s t = false := fun t ht => by
    rw [Interleaving.isJingle, hkind t ht]
    decide
  unfold interleaveWithJingles
  split_ifs
  · refine ⟨fun t ht => .inl (hkind t ht), ?_⟩
    rwa [List.filter_eq_self.mpr fun t ht => by rw [hsongs t ht]; rfl]
  · obtain ⟨hfilter, -⟩ := @Interleaving.interleave_apart st s (recentJingleTrackIds st s) music
      sweeper.interval (countMusicSinceLastJingle st s) hlib hsongs
    refine ⟨fun t ht => ?_, by rwa [hfilter]⟩
    by_cases hjingle : Interleaving.isJingle s t = true
    · exact .inr (by simpa [Interleaving.isJingle] using hjingle)
    · refine .inl (hkind t ?_)
      rw [← hfilter]
      exact List.mem_filter.mpr ⟨ht, by simpa using hjingle⟩

/-- The key of an item of a refill. -/
lemma autofillKey_cases {trackId : ℤ} (index : ℕ)
    (h : sqlKindOf s trackId = "music" ∨ sqlKindOf s trackId = "jingle") :
    (sqlKindOf s trackId = "music" ∧ autofillKey s trackId index = s!"autofill:{trackId}") ∨
      (sqlKindOf s trackId = "jingle" ∧ autofillKey s trackId index = jingleKey trackId index) := by
  rcases h with h | h
  · have hlower := (kinds_of_sqlKind (by decide) (by decide) h).2
    exact .inl ⟨h, by rw [autofillKey, hlower, if_neg (by decide)]⟩
  · have hlower := (kinds_of_sqlKind (by decide) (by decide) h).2
    exact .inr ⟨h, by rw [autofillKey, hlower, if_pos rfl]; rfl⟩

lemma toList_autofill (trackId : ℤ) :
    s!"autofill:{trackId}".toList = "autofill:".toList ++ (toString trackId).toList := by
  change ("autofill:" ++ toString trackId).toList = _
  rw [String.toList_append]

lemma autofill_ne_jingleKey (trackId trackId' pos : ℤ) :
    s!"autofill:{trackId}" ≠ jingleKey trackId' pos := by
  intro h
  have hlist := congrArg String.toList h
  rw [toList_autofill, toList_jingleKey] at hlist
  exact absurd (congrArg List.head? hlist) (by simp)

lemma refillItems_keys (hlib : Interleaving.eligible st s ≠ []) :
    (∀ item ∈ refillItems st s sweeper, item.2 ≠ "") ∧
      ((refillItems st s sweeper).map Prod.snd).Nodup := by
  obtain ⟨hkinds, hsongs⟩ := @refillTracks_kinds st s sweeper hlib
  unfold refillItems
  generalize refillTracks st s sweeper = tracks at hkinds hsongs
  have hmem : ∀ item ∈ tracks.zipIdx, item.1 ∈ tracks := fun item hitem =>
    (List.mem_zipIdx' hitem).2 ▸ List.getElem_mem _
  have hindex : tracks.zipIdx.Pairwise fun a b => a.2 < b.2 :=
    List.pairwise_map.mp (by rw [List.zipIdx_map_snd]; exact List.pairwise_lt_range' ..)
  have hfst : tracks.zipIdx.map Prod.fst = tracks := List.zipIdx_map_fst 0 tracks
  have hsong : tracks.zipIdx.Pairwise fun a b => (!Interleaving.isJingle s a.1) = true →
      (!Interleaving.isJingle s b.1) = true → a.1 ≠ b.1 :=
    List.pairwise_map.mp (by rw [hfst]; exact List.pairwise_filter.mp hsongs)
  constructor
  · intro item hitem hempty
    obtain ⟨a, ha, rfl⟩ := List.mem_map.mp hitem
    dsimp only at hempty
    rcases autofillKey_cases (a.2 + 1) (hkinds a.1 (hmem a ha)) with ⟨-, hkey⟩ | ⟨-, hkey⟩
    · rw [hkey] at hempty
      have hlist := congrArg String.toList hempty
      rw [toList_autofill] at hlist
      simp at hlist
    · rw [hkey] at hempty
      have hlist := congrArg String.toList hempty
      rw [toList_jingleKey] at hlist
      simp at hlist
  · rw [List.map_map]
    refine List.pairwise_map.mpr ((hindex.and hsong).imp_of_mem fun {a b} ha hb h heq => ?_)
    obtain ⟨hlt, hdiffer⟩ := h
    dsimp only [Function.comp] at heq
    rcases autofillKey_cases (a.2 + 1) (hkinds a.1 (hmem a ha)) with ⟨hka, hkey⟩ | ⟨hka, hkey⟩ <;>
      rcases autofillKey_cases (b.2 + 1) (hkinds b.1 (hmem b hb)) with ⟨hkb, hkey'⟩ | ⟨hkb, hkey'⟩
    · rw [hkey, hkey'] at heq
      have hlist := congrArg String.toList heq
      rw [toList_autofill, toList_autofill] at hlist
      refine hdiffer ?_ ?_ (TextFields.toString_injective
        (String.toList_injective (List.append_cancel_left hlist)))
      · rw [Interleaving.isJingle, hka]
        decide
      · rw [Interleaving.isJingle, hkb]
        decide
    · rw [hkey, hkey'] at heq
      exact autofill_ne_jingleKey _ _ _ heq
    · rw [hkey, hkey'] at heq
      exact autofill_ne_jingleKey _ _ _ heq.symm
    · rw [hkey, hkey'] at heq
      have hpos := jingleKey_pos heq
      push_cast at hpos
      omega

/-! ### What a refill depends on -/

/-- The library, what was played, and the active rows but for their positions are the same. -/
structure SameRefill (st : ℤ) (s t : Engine) : Prop extends SamePlayed st s t where
  playoutState : t.playoutState = s.playoutState
  active : (listActiveOrdered st t).map unplaced = (listActiveOrdered st s).map unplaced

namespace SameRefill

lemma trans {u : Engine} (h : SameRefill st s t) (h' : SameRefill st t u) : SameRefill st s u :=
  ⟨h.toSamePlayed.trans h'.toSamePlayed, h'.playoutState.trans h.playoutState,
    h'.active.trans h.active⟩

lemma tracksOf (h : SameRefill st s t) :
    tracksOf (listActiveOrdered st t) = tracksOf (listActiveOrdered st s) := by
  have htracks := congrArg (List.map fun r : Row => r.2.trackId) h.active
  rwa [List.map_map, List.map_map] at htracks

lemma keysOf (h : SameRefill st s t) : keysOf st t = keysOf st s := by
  have hkeys := congrArg (List.map fun r : Row => r.2.dedupeKey) h.active
  rwa [List.map_map, List.map_map] at hkeys

end SameRefill

lemma interleave_congr (h : t.tracks = s.tracks) (interval : ℤ) (music : List ℤ) (counter : ℤ)
    (used : List ℤ) :
    interleave st t interval music counter used = interleave st s interval music counter used := by
  induction music generalizing counter used with
  | nil => rfl
  | cons track music ih =>
    rw [interleave, interleave, pickJingle_congr h]
    split
    · rw [ih]
    · rw [ih]

lemma interleaveWithJingles_congr (h : SamePlayed st s t) (music : List ℤ) :
    interleaveWithJingles st t music sweeper = interleaveWithJingles st s music sweeper := by
  unfold interleaveWithJingles
  rw [interleave_congr h.tracks, h.count, h.recent]

lemma addedTracks_congr (h : SameRefill st s t) :
    addedTracks st t sweeper = addedTracks st s sweeper := by
  have htracks : refillTracks st t sweeper = refillTracks st s sweeper := by
    have hfallback : libraryFallbackTrackId st t = libraryFallbackTrackId st s := by
      unfold libraryFallbackTrackId
      rw [h.playoutState]
    have hselect : ∀ excluded, selectTracks st t 10 excluded = selectTracks st s 10 excluded :=
      fun excluded => by
        unfold selectTracks playable
        rw [h.tracks]
    unfold refillTracks
    rw [show (listActiveOrdered st t).map (·.2.trackId) = _ from h.tracksOf, hfallback]
    dsimp only
    rw [hselect, interleaveWithJingles_congr h.toSamePlayed]
    rfl
  have hkey : autofillKey t = autofillKey s := by
    funext trackId index
    unfold autofillKey trackTypeOf
    rw [h.tracks]
  unfold addedTracks newItems refillItems
  rw [htracks, hkey, h.keysOf]

/-! ### A queue in which nothing waits -/

section Refill

variable {c : Connection} {laid : Engine}

lemma place_playoutState {slots : List Slot} {pos : ℤ} (h : place st slots pos s = some t) :
    t.playoutState = s.playoutState := by
  induction slots generalizing pos s with
  | nil =>
    obtain rfl := Option.some.inj h
    rfl
  | cons slot slots ih =>
    cases slot with
    | jingle trackId =>
      unfold place at h
      dsimp only at h
      split_ifs at h
      exact (ih h).trans rfl
    | row r => exact (ih h).trans rfl

lemma laidRows_rows (rows : List Row) (pos next : ℤ) :
    (laidRows st (rows.map .row) pos next).map unplaced = rows.map unplaced := by
  induction rows generalizing pos with
  | nil => rfl
  | cons r rows ih => exact congrArg (unplaced r :: ·) (ih ..)

lemma planned_of_none (h : pendingRows st s = []) : planned st sweeper s =
    (listActiveOrdered st (dropPendingJingles st s)).map .row := by
  have hall := pendingRows_isEmpty st s
  rw [h, List.isEmpty_nil] at hall
  have hpending : (listActiveOrdered st (dropPendingJingles st s)).filter
      (fun r => r.2.status = .pending) = [] := h
  unfold planned slotsOf
  dsimp only
  rw [hpending, List.map_nil, sweepPlan, ite_self, List.append_nil,
    List.filter_eq_self.mpr (List.all_eq_true.mp hall.symm)]

/-- **What the function does where nothing waits**: the rows that play stay, and the queue is
refilled behind them. -/
lemma reconcile_of_none (hsettings : sweeperSettings st c.view = .ok sweeper)
    (hon : sweeper.enabled = true) (hlib : Interleaving.eligible st c.view ≠ [])
    (h : pendingRows st c.view = []) :
    ∃ laid filled, SameRefill st (dropPendingJingles st c.view) laid ∧
      (∀ r ∈ listActiveOrdered st laid, r.2.status = .playing) ∧
      Added st (newItems st laid (refillItems st laid sweeper)) laid filled ∧
      sweeperSettings st filled = .ok sweeper ∧
      reconcile st c = (connect filled, .ok (listActiveOrdered st filled)) := by
  obtain ⟨laid, hlaid⟩ := Option.ne_none_iff_exists'.mp
    (@place_rows_ne_none st sweeper c.view (by rw [h]; rfl))
  have hall := pendingRows_isEmpty st c.view
  rw [h, List.isEmpty_nil] at hall
  have hplanned := @planned_of_none st c.view sweeper h
  have hperm : (rowsIn (planned st sweeper c.view)).Perm
      (listActiveOrdered st (dropPendingJingles st c.view)) := rowsIn_slotsOf sweeper
  have hactive : (listActiveOrdered st laid).map unplaced =
      (listActiveOrdered st (dropPendingJingles st c.view)).map unplaced := by
    rw [listActive_place hlaid hperm, hplanned, laidRows_rows]
  have hsame : SameRefill st (dropPendingJingles st c.view) laid :=
    ⟨samePlayed_place hlaid, place_playoutState hlaid, hactive⟩
  have hplaying : ∀ r ∈ listActiveOrdered st laid, r.2.status = .playing := by
    intro r hr
    have hmem : unplaced r ∈ (listActiveOrdered st (dropPendingJingles st c.view)).map unplaced :=
      hactive ▸ List.mem_map_of_mem hr
    obtain ⟨q, hq, hqr⟩ := List.mem_map.mp hmem
    have hstatus := congrArg (fun r : Row => r.2.status) hqr
    have hq' : q.2.status = .playing := by simpa using List.all_eq_true.mp hall.symm q hq
    exact hstatus.symm.trans hq'
  have hset : sweeperSettings st laid = .ok sweeper := by rw [settings_place hlaid, hsettings]
  have hlib' : Interleaving.eligible st laid ≠ [] := by
    have heq : Interleaving.eligible st laid = Interleaving.eligible st c.view := by
      unfold Interleaving.eligible playable
      rw [hsame.tracks]
      rfl
    rwa [heq]
  obtain ⟨hkeys, hnodup⟩ := @refillItems_keys st laid sweeper hlib'
  have hadded := @added_foldl st laid _ hkeys hnodup
  have hready := ensureReady_eq (fun r hr => by rw [hplaying r hr]; decide) hset
  rw [← hready] at hadded
  refine ⟨laid, ensureReadyForPlayback st laid true, hsame, hplaying, hadded, ?_, ?_⟩
  · rw [← hset]
    unfold sweeperSettings settingOr
    rw [hadded.settings _ (by decide), hadded.settings _ (by decide), hadded.settings _ (by decide)]
  · have hreconcile := reconcile_eq hsettings
    rw [hlaid] at hreconcile
    dsimp only at hreconcile
    rwa [if_pos (by rw [hon, h]; rfl)] at hreconcile

/-! ### A second call after a refill -/

def songsOf (s : Engine) (tracks : List ℤ) : List ℤ := tracks.filter (!Interleaving.isJingle s ·)

/-- No row that plays has the key of one of the jingles, where the tracks follow these rows. -/
def JinglesFree (st : ℤ) (s : Engine) (tracks : List ℤ) : Prop :=
  ∀ (i : ℕ) (jingle : ℤ), tracks[i]? = some jingle → Interleaving.isJingle s jingle = true →
    some (jingleKey jingle ((listActiveOrdered st s).length + 1 + i)) ∉ keysOf st s

/-- No song is added, or the jingles that are added are those that are laid among the songs that are
added, at keys that are free. -/
def RefillStable (st : ℤ) (s : Engine) (sweeper : Sweeper) : Prop :=
  let added := addedTracks st s sweeper
  songsOf s added = [] ∨
    interleaveWithJingles st s (songsOf s added) sweeper = added ∧ JinglesFree st s added

/-- What a second call finds after a refill: rows that play, and songs behind them. -/
structure Refilled (st : ℤ) (sweeper : Sweeper) (s t : Engine) (songs : List Row) : Prop where
  active : listActiveOrdered st (dropPendingJingles st t) = listActiveOrdered st s ++ songs
  playing : ∀ r ∈ listActiveOrdered st s, r.2.status = .playing
  pending : ∀ r ∈ songs, r.2.status = .pending
  tracks : tracksOf songs = songsOf s (addedTracks st s sweeper)
  keys : ∀ r ∈ songs, ∃ trackId : ℤ, r.2.dedupeKey = some s!"autofill:{trackId}"

lemma refilled (hlib : Interleaving.eligible st s ≠ [])
    (hplaying : ∀ r ∈ listActiveOrdered st s, r.2.status = .playing)
    (h : Added st (newItems st s (refillItems st s sweeper)) s t) :
    ∃ songs, Refilled st sweeper s t songs := by
  obtain ⟨new, hnew, hcontent⟩ := h.rows
  have hitem : ∀ r ∈ new, ∃ item ∈ newItems st s (refillItems st s sweeper),
      content r.2 = .new st item.1 0 item.2 := fun r hr => by
    have hmem := List.mem_map_of_mem (f := fun r : Row => content r.2) hr
    rw [hcontent] at hmem
    obtain ⟨item, hitem, heq⟩ := List.mem_map.mp hmem
    exact ⟨item, hitem, heq.symm⟩
  have hpending : ∀ r ∈ new, r.2.status = .pending := fun r hr => by
    obtain ⟨item, -, heq⟩ := hitem r hr
    exact congrArg QueueItem.status heq
  have htracks : tracksOf new = addedTracks st s sweeper := by
    have hmap := congrArg (List.map QueueItem.trackId) hcontent
    rwa [List.map_map, List.map_map] at hmap
  refine ⟨new.filter (keeps s), ?_, hplaying, fun r hr => hpending r (List.mem_filter.mp hr).1,
    ?_, fun r hr => ?_⟩
  · rw [listActive_drop, keeps_congr h.tracks, hnew, List.filter_append,
      List.filter_eq_self.mpr fun r hr => by simp [keeps, hplaying r hr]]
  · unfold songsOf
    rw [← htracks, tracksOf, tracksOf, List.filter_map]
    refine congrArg _ (List.filter_congr fun r hr => ?_)
    simp [keeps, hpending r hr, Interleaving.isJingle]
  · obtain ⟨hmem, hkeeps⟩ := List.mem_filter.mp hr
    obtain ⟨item, hitem, heq⟩ := hitem r hmem
    obtain ⟨a, ha, rfl⟩ := List.mem_map.mp (List.mem_filter.mp hitem).1
    have htrack : r.2.trackId = a.1 := congrArg QueueItem.trackId heq
    have hkind := (@refillTracks_kinds st s sweeper hlib).1 a.1
      ((List.mem_zipIdx' ha).2 ▸ List.getElem_mem _)
    rcases autofillKey_cases (a.2 + 1) hkind with ⟨-, hkey⟩ | ⟨hjingle, -⟩
    · refine ⟨a.1, ?_⟩
      rw [← hkey]
      exact congrArg QueueItem.dedupeKey heq
    · simp [keeps, hpending r hmem, htrack, hjingle] at hkeeps

/-- Among songs the plan lays the jingles as a refill does. -/
lemma sweepPlan_tracks {rows : List Row} {interval counter : ℤ} {used : List ℤ}
    (h : ∀ r ∈ rows, kindOf s r.2.trackId = "music") :
    (sweepPlan st s interval rows counter used).map trackOf =
      interleave st s interval (tracksOf rows) counter used := by
  induction rows generalizing counter used with
  | nil => rfl
  | cons r rows ih =>
    have hkind := h r List.mem_cons_self
    have hrest := fun q hq => h q (List.mem_cons_of_mem _ hq)
    have hone : countAfter "music" 0 = 1 := by decide
    have hnext : countAfter "music" counter = counter + 1 := by
      rw [countAfter, if_neg (by decide), if_pos rfl]
    rw [sweepPlan, hkind, tracksOf, List.map_cons, interleave, hone, hnext]
    simp only [decide_true, Bool.true_and, decide_eq_true_eq]
    cases (if interval ≤ counter then pickJingle st s used else none) with
    | some jingle =>
      rw [List.map_cons, List.map_cons, ih hrest]
      rfl
    | none =>
      rw [List.map_cons, ih hrest]
      rfl

lemma songs_music {songs : List Row} (hlib : Interleaving.eligible st s ≠ [])
    (h : Refilled st sweeper s t songs) : ∀ r ∈ songs, sqlKindOf s r.2.trackId = "music" := by
  intro r hr
  have hmem : r.2.trackId ∈ songsOf s (addedTracks st s sweeper) :=
    h.tracks ▸ List.mem_map_of_mem hr
  obtain ⟨hadded, hsong⟩ := List.mem_filter.mp hmem
  obtain ⟨item, hitem, heq⟩ := List.mem_map.mp hadded
  obtain ⟨a, ha, rfl⟩ := List.mem_map.mp (List.mem_filter.mp hitem).1
  have hkind := (@refillTracks_kinds st s sweeper hlib).1 a.1
    ((List.mem_zipIdx' ha).2 ▸ List.getElem_mem _)
  rw [show a.1 = r.2.trackId from heq] at hkind
  refine hkind.resolve_right fun hjingle => ?_
  simp [Interleaving.isJingle, hjingle] at hsong

section Second

variable {songs : List Row} (hlib : Interleaving.eligible st s ≠ [])
  (h : Refilled st sweeper s t songs) (hsame : SamePlayed st s (dropPendingJingles st t))
  (hon : sweeper.enabled = true) (hunit : sweeper.unit = .tracks)

include h in
lemma pendingRows_refilled : pendingRows st t = songs := by
  unfold pendingRows
  rw [h.active, List.filter_append, List.filter_eq_nil_iff.mpr fun r hr => by simp [h.playing r hr],
    List.filter_eq_self.mpr fun r hr => by simp [h.pending r hr], List.nil_append]

include hlib h hsame hon hunit in
/-- The slots of the second plan: the rows that play, and then songs with jingles among them. -/
lemma planned_refilled : ∃ plan, planned st sweeper t =
      (listActiveOrdered st s).map .row ++ plan ∧
    plan.map trackOf = interleaveWithJingles st s (songsOf s (addedTracks st s sweeper)) sweeper ∧
    ∀ (i : ℕ) (jingle : ℤ), plan[i]? = some (.jingle jingle) ↔
      (plan.map trackOf)[i]? = some jingle ∧ Interleaving.isJingle s jingle = true := by
  have hpending := pendingRows_refilled h
  have hplaying : (listActiveOrdered st (dropPendingJingles st t)).filter
      (·.2.status = .playing) = listActiveOrdered st s := by
    rw [h.active, List.filter_append, List.filter_eq_self.mpr fun r hr => by simp [h.playing r hr],
      List.filter_eq_nil_iff.mpr fun r hr => by simp [h.pending r hr], List.append_nil]
  have hmusic : ∀ r ∈ songs,
      kindOf (dropPendingJingles st t) r.2.trackId = "music" := fun r hr => by
    rw [kindOf_congr hsame.tracks]
    exact (kinds_of_sqlKind (by decide) (by decide) (songs_music hlib h r hr)).1
  refine ⟨sweepPlan st (dropPendingJingles st t) sweeper.interval songs
    (countMusicSinceLastJingle st (dropPendingJingles st t))
    (recentJingleTrackIds st (dropPendingJingles st t)), ?_, ?_, fun i jingle => ?_⟩
  · unfold planned slotsOf
    dsimp only
    rw [hplaying, show List.filter _ _ = songs from hpending, hon, hunit]
    rfl
  · rw [sweepPlan_tracks hmusic, interleave_congr hsame.tracks, hsame.count, hsame.recent,
      h.tracks, interleaveWithJingles, hon, hunit]
    rfl
  · rw [List.getElem?_map, Option.map_eq_some_iff]
    constructor
    · intro hslot
      refine ⟨⟨_, hslot, rfl⟩, ?_⟩
      have hjingle := jingle_of_sweepPlan (List.mem_of_getElem? hslot)
      rw [hsame.kind] at hjingle
      simp [Interleaving.isJingle, hjingle]
    · rintro ⟨⟨slot, hslot, rfl⟩, hjingle⟩
      cases slot with
      | jingle trackId => exact hslot
      | row r =>
        have hr : r ∈ rowsIn (sweepPlan st (dropPendingJingles st t) sweeper.interval songs
            (countMusicSinceLastJingle st (dropPendingJingles st t))
            (recentJingleTrackIds st (dropPendingJingles st t))) :=
          List.mem_filterMap.mpr ⟨.row r, List.mem_of_getElem? hslot, rfl⟩
        rw [rowsIn_sweepPlan] at hr
        have hkind := songs_music hlib h r hr
        simp [Interleaving.isJingle, trackOf, hkind] at hjingle

include h in
lemma keysFree_refilled {plan : List Slot} (hplan : ∀ (i : ℕ) (jingle : ℤ),
    plan[i]? = some (.jingle jingle) ↔ (plan.map trackOf)[i]? = some jingle ∧
      Interleaving.isJingle s jingle = true) :
    KeysFree st (dropPendingJingles st t) ((listActiveOrdered st s).map .row ++ plan) 1 ↔
      JinglesFree st s (plan.map trackOf) := by
  have hkeys : ∀ trackId pos, some (jingleKey trackId pos) ∉
      (listActiveOrdered st (dropPendingJingles st t)).map (·.2.dedupeKey) ↔
        some (jingleKey trackId pos) ∉ keysOf st s := fun trackId pos => by
    have hsongs : some (jingleKey trackId pos) ∉ songs.map (·.2.dedupeKey) := fun hmem => by
      obtain ⟨r, hr, hkey⟩ := List.mem_map.mp hmem
      obtain ⟨trackId', hkey'⟩ := h.keys r hr
      rw [hkey'] at hkey
      exact autofill_ne_jingleKey _ _ _ (Option.some.inj hkey)
    rw [h.active, List.map_append, List.mem_append, or_iff_left hsongs]
    rfl
  rw [keysFree_iff]
  constructor
  · intro hfree i jingle hi hjingle
    have hslot := (hplan i jingle).mpr ⟨hi, hjingle⟩
    have hnot := hfree ((listActiveOrdered st s).length + i) jingle (by
      rw [List.getElem?_append_right (by simp), List.length_map, Nat.add_sub_cancel_left, hslot])
    rw [hkeys] at hnot
    rwa [show (1 : ℤ) + ((listActiveOrdered st s).length + i : ℕ) =
      (listActiveOrdered st s).length + 1 + i by push_cast; omega] at hnot
  · intro hfree i jingle hi
    rw [hkeys]
    rcases lt_or_ge i (listActiveOrdered st s).length with hlt | hge
    · rw [List.getElem?_append_left (by simpa using hlt), List.getElem?_map,
        Option.map_eq_some_iff] at hi
      obtain ⟨r, -, hr⟩ := hi
      cases hr
    · rw [List.getElem?_append_right (by simpa using hge), List.length_map] at hi
      obtain ⟨hi, hjingle⟩ := (hplan _ jingle).mp hi
      have hnot := hfree _ jingle hi hjingle
      rwa [show ((listActiveOrdered st s).length : ℤ) + 1 +
        (i - (listActiveOrdered st s).length : ℕ) = 1 + i by omega] at hnot

end Second

lemma refillStable_congr (h : SameRefill st s t) :
    RefillStable st t sweeper ↔ RefillStable st s sweeper := by
  have hjingle : Interleaving.isJingle t = Interleaving.isJingle s := by
    funext trackId
    rw [Interleaving.isJingle, Interleaving.isJingle, h.kind]
  have hlength : (listActiveOrdered st t).length = (listActiveOrdered st s).length := by
    simpa using congrArg List.length h.active
  unfold RefillStable songsOf JinglesFree
  dsimp only
  rw [addedTracks_congr h, hjingle, interleaveWithJingles_congr h.toSamePlayed, h.keysOf, hlength]

lemma eligible_congr (h : t.tracks = s.tracks) :
    Interleaving.eligible st t = Interleaving.eligible st s := by
  unfold Interleaving.eligible playable
  rw [h]

lemma Added.tracksOf {items : List (ℤ × String)} (h : Added st items s t) :
    tracksOf (listActiveOrdered st t) =
      tracksOf (listActiveOrdered st s) ++ items.map Prod.fst := by
  obtain ⟨new, hnew, hcontent⟩ := h.rows
  have hmap := congrArg (List.map QueueItem.trackId) hcontent
  rw [List.map_map, List.map_map] at hmap
  rw [hnew, SweepStability.tracksOf, List.map_append]
  exact congrArg _ hmap

/-- What a second call returns, once songs wait behind the rows that play. -/
lemma second_iff {songs : List Row} (hlib : Interleaving.eligible st s ≠ [])
    (h : Refilled st sweeper s t songs) (hsame : SamePlayed st s (dropPendingJingles st t))
    (hon : sweeper.enabled = true) (hunit : sweeper.unit = .tracks)
    (hsettings : sweeperSettings st t = .ok sweeper) (hsongs : songs ≠ []) :
    (∃ c rows, reconcile st (connect t) = (c, .ok rows) ∧
        tracksOf rows = tracksOf (listActiveOrdered st s) ++ addedTracks st s sweeper) ↔
      interleaveWithJingles st s (songsOf s (addedTracks st s sweeper)) sweeper =
        addedTracks st s sweeper ∧ JinglesFree st s (addedTracks st s sweeper) := by
  obtain ⟨plan, hplanned, htracks, hjingles⟩ := planned_refilled hlib h hsame hon hunit
  have hfree := keysFree_refilled h hjingles
  rw [htracks, ← hplanned, ← place_ne_none_iff] at hfree
  have hrows : ¬ (sweeper.enabled = true ∧ pendingRows st t = []) := fun ⟨_, hnil⟩ =>
    hsongs ((pendingRows_refilled h).symm.trans hnil)
  have hslots : (planned st sweeper t).map trackOf = tracksOf (listActiveOrdered st s) ++
      interleaveWithJingles st s (songsOf s (addedTracks st s sweeper)) sweeper := by
    rw [hplanned, List.map_append, htracks, List.map_map]
    rfl
  constructor
  · rintro ⟨c, rows, hreconcile, hsametracks⟩
    cases hplace : place st (planned st sweeper t) 1 (dropPendingJingles st t) with
    | none =>
      have hraises := reconcile_eq (c := connect t) hsettings
      rw [show place st (planned st sweeper (connect t).view) 1
        (dropPendingJingles st (connect t).view) = none from hplace] at hraises
      obtain ⟨c', hc', -⟩ := hraises
      rw [hreconcile] at hc'
      cases hc'
    | some again =>
      have hok := reconcile_ok (c := connect t) hsettings hrows hplace
      rw [hreconcile] at hok
      obtain rfl := Except.ok.inj (congrArg Prod.snd hok)
      rw [tracksOf, listActive_place hplace (rowsIn_slotsOf sweeper), laidRows_tracks, hslots]
        at hsametracks
      have heq := List.append_cancel_left hsametracks
      rw [heq] at hfree
      exact ⟨heq, hfree.mp (by rw [hplace]; exact Option.some_ne_none _)⟩
  · rintro ⟨heq, hjinglesFree⟩
    rw [heq] at hfree hslots
    obtain ⟨again, hplace⟩ := Option.ne_none_iff_exists'.mp (hfree.mpr hjinglesFree)
    refine ⟨_, _, reconcile_ok (c := connect t) hsettings hrows hplace, ?_⟩
    rw [tracksOf, listActive_place hplace (rowsIn_slotsOf sweeper), laidRows_tracks, hslots]

/-- **After a refill the function is stable** if and only if the refill is. -/
lemma stable_of_none (hsettings : sweeperSettings st s = .ok sweeper)
    (hon : sweeper.enabled = true) (hunit : sweeper.unit = .tracks)
    (hlib : Interleaving.eligible st s ≠ []) (h : pendingRows st s = []) :
    Stable st s ↔ RefillStable st (dropPendingJingles st s) sweeper := by
  obtain ⟨laid, filled, hlaid, hplaying, hadded, hfilled, hreconcile⟩ :=
    reconcile_of_none (c := connect s) hsettings hon hlib h
  change SameRefill st (dropPendingJingles st s) laid at hlaid
  have hlib' : Interleaving.eligible st laid ≠ [] := by rwa [eligible_congr hlaid.tracks]
  obtain ⟨songs, hrefilled⟩ := refilled hlib' hplaying hadded
  have hsame := hadded.toSamePlayed.trans (samePlayed_drop st filled)
  rw [← refillStable_congr hlaid]
  have horder : (playingIds st s).Sublist ((listActiveOrdered st filled).map Prod.fst) ∧
      (pendingIds st s).Sublist ((listActiveOrdered st filled).map Prod.fst) := by
    obtain ⟨new, hnew, -⟩ := hadded.rows
    have hids := congrArg (List.map Prod.fst) hlaid.active
    rw [List.map_map, List.map_map] at hids
    rw [playingIds_drop, pendingIds_drop, h, hnew, List.map_append]
    refine ⟨(List.filter_sublist.map _).trans ?_, List.nil_sublist _⟩
    rw [show (listActiveOrdered st (dropPendingJingles st s)).map Prod.fst = _ from hids.symm]
    exact List.sublist_append_left ..
  have hstable : Stable st s ↔ ∃ c rows, reconcile st (connect filled) = (c, .ok rows) ∧
      tracksOf rows = tracksOf (listActiveOrdered st filled) := by
    constructor
    · rintro ⟨c, rows, hfirst, -, -, hsecond⟩
      rw [hreconcile] at hfirst
      obtain ⟨rfl, hrows⟩ := Prod.mk.inj hfirst
      obtain rfl := Except.ok.inj hrows
      exact hsecond _ (.inl rfl)
    · intro hsecond
      refine ⟨_, _, hreconcile, horder.1, horder.2, fun c' hc' => ?_⟩
      obtain rfl : c' = connect filled := hc'.elim id id
      exact hsecond
  rw [hstable, hadded.tracksOf]
  by_cases hsongs : songs = []
  · subst hsongs
    refine iff_of_true ?_ (.inl (hrefilled.tracks.symm.trans rfl))
    have hagain : SameRefill st laid (dropPendingJingles st filled) :=
      ⟨hsame, hadded.playoutState, by rw [hrefilled.active, List.append_nil]⟩
    obtain ⟨laid', filled', hlaid', -, hadded', -, hreconcile'⟩ :=
      reconcile_of_none (c := connect filled) hfilled hon
        (by rwa [show Interleaving.eligible st (connect filled).view = _ from
          eligible_congr hadded.tracks]) (pendingRows_refilled hrefilled)
    have hrefill := hagain.trans hlaid'
    refine ⟨_, _, hreconcile', ?_⟩
    rw [hadded'.tracksOf, hrefill.tracksOf]
    exact congrArg _ (addedTracks_congr hrefill)
  · have hne : songsOf laid (addedTracks st laid sweeper) ≠ [] := fun hnil => by
      rw [← hrefilled.tracks] at hnil
      exact hsongs (List.map_eq_nil_iff.mp hnil)
    rw [RefillStable, or_iff_right hne]
    exact second_iff hlib' hrefilled hsame hon hunit hfilled hsongs

/-- **Reconciliation is stable** if and only if the keys of the jingles that it lays out are free,
or, where nothing waits but jingles, the refill is stable. -/
theorem reconcile_stable_iff (hsettings : sweeperSettings st s = .ok sweeper)
    (hunit : sweeper.unit = .tracks) (hlib : playable st s "jingle" [] ≠ []) :
    Stable st s ↔ if sweeper.enabled = true ∧ pendingRows st s = [] then
        RefillStable st (dropPendingJingles st s) sweeper
      else KeysFree st (dropPendingJingles st s) (planned st sweeper s) 1 := by
  split_ifs with hnone
  · refine stable_of_none hsettings hnone.1 hunit (fun hnil => hlib ?_) hnone.2
    exact List.map_eq_nil_iff.mp hnil
  · exact stable_iff hsettings hnone

/-- The only jingle plays, under the key that it got when it was laid out at the third place, and
two songs wait. -/
def jingleOnAir (playingKey : Option String) : Engine :=
  let track := fun kind : String =>
    (⟨1, "", "", "/track.mp3", 30, kind, true, false, 0, none⟩ : Track)
  let settings : Std.ExtTreeMap String String :=
    ((∅ : Std.ExtTreeMap String String).insert "sweeper_enabled" "true").insert
      "sweeper_interval" "1"
  { Engine.empty with
    tracks := ((Engine.empty.tracks.insert 1 (track "music")).insert 2 (track "jingle")).insert 3
      (track "music")
    queueItems := (((∅ : Table QueueItem).insert 1 ⟨1, 2, 3, .playing, some 0, playingKey⟩).insert 2
      ⟨1, 1, 4, .pending, none, none⟩).insert 3 ⟨1, 3, 5, .pending, none, none⟩
    stationSettings := (∅ : Table (Std.ExtTreeMap String String)).insert 1 settings }

def everySong : Sweeper := ⟨true, 1, .tracks⟩

lemma settings_jingleOnAir (playingKey : Option String) :
    sweeperSettings 1 (jingleOnAir playingKey) = .ok everySong := by
  have hnone : (sweeperSettings 1 (jingleOnAir none)).toOption = some everySong := by
    decide +kernel
  change sweeperSettings 1 (jingleOnAir none) = _
  cases hsettings : sweeperSettings 1 (jingleOnAir none) with
  | error e =>
    rw [hsettings] at hnone
    cases hnone
  | ok sweeper =>
    rw [hsettings] at hnone
    exact congrArg Except.ok (Option.some.inj hnone)

/-- The jingle is due again at the third place, and its key is still that of the row that plays. -/
theorem jingle_takes_own_key : sweeperSettings 1 (jingleOnAir (some "jingle:2:3")) =
      .ok everySong ∧ ¬ Stable 1 (jingleOnAir (some "jingle:2:3")) := by
  refine ⟨settings_jingleOnAir _, ?_⟩
  rintro ⟨c, rows, hreconcile, -⟩
  have hraises : (reconcile 1 (connect (jingleOnAir (some "jingle:2:3")))).2.toOption.isNone =
      true := by decide +kernel
  rw [hreconcile] at hraises
  cases hraises

/-- Where the row that plays has no key, the jingle is laid out before the second song. -/
theorem jingleOnAir_stable : Stable 1 (jingleOnAir none) := by
  have hlib : playable 1 (jingleOnAir none) "jingle" [] ≠ [] := by decide +kernel
  refine (reconcile_stable_iff (settings_jingleOnAir none) rfl hlib).mpr ?_
  have hpending : pendingRows 1 (jingleOnAir none) ≠ [] := by decide +kernel
  rw [if_neg fun h => hpending h.2]
  have hplace : (place 1 (planned 1 everySong (jingleOnAir none)) 1
      (dropPendingJingles 1 (jingleOnAir none))).isSome = true := by decide +kernel
  exact place_ne_none_iff.mp (Option.isSome_iff_ne_none.mp hplace)

end Refill

end OnAir.QueueRefill
