import OnAir.PlayoutTables
import OnAir.Runs

/-!
The log of what each station played, beside the row that says what it plays now.

Four writers change the row, and each decides for itself what it logs. The log refers to the
stations by a foreign key: an entry for a station that does not exist raises, and what the call
had written before stays in the open transaction of the connection. The state is what that
connection sees.
-/

namespace OnAir.PlayoutLog

open OnAir.Database PlayoutTables OnAir.Table Runs

/-- `current_source` and `current_item_id`. -/
structure Current where
  source : String
  itemId : Option ℤ
  deriving DecidableEq, Repr

def nothing : Current := ⟨"none", none⟩

/-- A row of `playout_transitions`. -/
structure Entry where
  stationId : ℤ
  before : Current
  after : Current
  reason : String
  deriving DecidableEq, Repr

/-- A row of a table of tracks: `playlist_items`. -/
structure PlaylistItem where
  playlistId : ℤ
  trackId : ℤ
  position : ℤ
  deriving DecidableEq, Repr

/-- The tables beside the two of the playout state. -/
structure Library where
  stations : Table Unit
  tracks : Table Track
  queueItems : Table QueueItem
  scheduleItems : Table ScheduleItem
  adBreakItems : Table AdBreakItem
  playlistItems : Table PlaylistItem
  programQueueItems : Table ProgramQueueItem
  showSessions : Table ShowSession
  stationSettings : Table (Std.ExtTreeMap String String)

structure Store where
  library : Library
  playoutState : Table Current
  /-- in the order of the ids -/
  transitions : List Entry

def start (library : Library) : Store := ⟨library, ∅, []⟩

/-! ### `PlayoutStateService` -/

section Service

variable (st : ℤ) (s : Store)

/-- `str(source or "none")`. -/
def orNone (source : String) : String := if source = "" then "none" else source

def getCurrent : Current :=
  match s.playoutState[st]? with
  | none => nothing
  | some row => ⟨orNone row.source, row.itemId⟩

/-- The foreign key of an entry. -/
def known : Bool := st ∈ s.library.stations

/-- An `INSERT` into the log; `false` when it raises. -/
def insertEntry (e : Entry) (s : Store) : Store × Bool :=
  if known e.stationId s then ({ s with transitions := s.transitions ++ [e] }, true)
  else (s, false)

def putCurrent (c : Current) (s : Store) : Store :=
  { s with playoutState := s.playoutState.insert st c }

def setCurrent (source : String) (itemId : Option ℤ) (reason : String) (s : Store) : Store :=
  let previous := getCurrent st s
  let next : Current := ⟨orNone source, itemId⟩
  let s' := putCurrent st next s
  if previous = next then s' else (insertEntry ⟨st, previous, next, reason⟩ s').1

/-- `UPDATE queue_items SET status='pending', … WHERE … status='playing'`. -/
def requeue (p : QueueItem → Bool) (t : Table QueueItem) : Table QueueItem :=
  t.map fun _ q => if q.status = .playing ∧ p q then
    { q with status := .pending, startedAt := none } else q

def reconcileStartup (s : Store) : Store :=
  let previous := getCurrent st s
  let requeued := requeue (fun q => q.stationId = st) s.library.queueItems
  let s' := putCurrent st nothing
    { s with library := { s.library with queueItems := requeued } }
  if previous = nothing then s' else (insertEntry ⟨st, previous, nothing, "startup_reconcile"⟩ s').1

end Service

/-! ### `reconcile_all_startup` -/

/-- The rows it logs and resets. -/
def stalePlayout (s : Store) : List (ℤ × Current) :=
  (rows s.playoutState).filter fun r => r.2.source ≠ "none" || r.2.itemId.isSome

/-- The inserts one after the other, until one raises. -/
def insertEntries : List Entry → Store → Store × Bool
  | [], s => (s, true)
  | e :: es, s =>
    let r := insertEntry e s
    if r.2 then insertEntries es r.1 else r

def requeueAll (l : Library) : Library :=
  { l with
    queueItems := requeue (fun _ => true) l.queueItems
    adBreakItems := l.adBreakItems.map fun _ a =>
      if a.status = .playing then { a with status := .pending } else a
    scheduleItems := l.scheduleItems.map fun _ i =>
      if i.status = .playing then { i with status := .pending } else i }

/-- The shows on air end, and the stations of a host return to automation. -/
def endShows (l : Library) : Library :=
  let ends : ShowSession → Bool := fun h => h.status ≠ .ended && h.status ≠ .preparing
  let sessions := l.showSessions.map fun _ h => if ends h then { h with status := .ended } else h
  if (rows l.showSessions).any fun r => ends r.2 then
    { l with
      showSessions := sessions
      stationSettings := l.stationSettings.map fun _ t =>
        if t["program_queue_source"]? = some "host" then
          t.insert "program_queue_source" "automation" else t }
  else { l with showSessions := sessions }

def reconcileAllStartup (s : Store) : Store :=
  let stale := stalePlayout s
  let s' : Store :=
    { s with
      library := requeueAll s.library
      playoutState := s.playoutState.map fun _ c =>
        if c.source ≠ "none" || c.itemId.isSome then nothing else c }
  let r := insertEntries
    (stale.map fun r => ⟨r.1, ⟨orNone r.2.source, r.2.itemId⟩, nothing, "startup_reconcile"⟩) s'
  if r.2 then { r.1 with library := endShows r.1.library } else r.1

/-! ### `TrackRepository.deactivate` -/

structure Deactivated where
  found : Bool
  deleted : Bool
  alreadyInactive : Bool
  queueFailed : ℕ
  scheduleFailed : ℕ
  adFailed : ℕ
  playlistItemsRemoved : ℕ
  programItemsRemoved : ℕ
  playoutReset : ℕ
  affectedStations : List ℤ
  runtimeStopStations : List ℤ
  deriving DecidableEq, Repr

def isFallback (tid : ℤ) (c : Current) : Bool :=
  c.source = "library_fallback" && c.itemId = some tid

/-- `SELECT DISTINCT station_id … WHERE …`, collected in a sorted set. -/
def stationsOf {α : Type} (station : α → ℤ) (p : α → Bool) (t : Table α) : List ℤ :=
  ((rows t).filter fun r => p r.2).map fun r => station r.2

def sortedSet (l : List ℤ) : List ℤ := (l.mergeSort (· ≤ ·)).dedup

def countRows {α : Type} (p : α → Bool) (t : Table α) : ℕ := (rows t).countP fun r => p r.2

def dropLibrary (tid : ℤ) (l : Library) : Library :=
  { l with
    tracks := l.tracks.modify tid fun t => { t with isActive := false }
    queueItems := l.queueItems.map fun _ q =>
      if q.trackId = tid ∧ (q.status = .pending ∨ q.status = .playing) then
        { q with status := .failed } else q
    scheduleItems := l.scheduleItems.map fun _ i =>
      if i.trackId = tid ∧ (i.status = .pending ∨ i.status = .playing) then
        { i with status := .failed } else i
    adBreakItems := l.adBreakItems.map fun _ a =>
      if a.trackId = tid ∧ (a.status = .pending ∨ a.status = .playing) then
        { a with status := .failed } else a
    playlistItems := l.playlistItems.filter fun _ p => p.trackId ≠ tid
    programQueueItems := l.programQueueItems.filter fun _ p => p.trackId ≠ tid }

def deactivated (tid : ℤ) (s : Store) : Deactivated :=
  let l := s.library
  { found := true
    deleted := true
    alreadyInactive := false
    queueFailed := countRows
      (fun q => q.trackId = tid && (q.status = .pending || q.status = .playing)) l.queueItems
    scheduleFailed := countRows
      (fun i => i.trackId = tid && (i.status = .pending || i.status = .playing)) l.scheduleItems
    adFailed := countRows
      (fun a => a.trackId = tid && (a.status = .pending || a.status = .playing)) l.adBreakItems
    playlistItemsRemoved := countRows (fun p => p.trackId = tid) l.playlistItems
    programItemsRemoved := countRows (fun p => p.trackId = tid) l.programQueueItems
    playoutReset := countRows (isFallback tid) s.playoutState
    affectedStations := sortedSet
      (stationsOf (·.stationId) (fun q => q.trackId = tid) l.queueItems ++
        stationsOf (·.stationId) (fun i => i.trackId = tid) l.scheduleItems ++
        stationsOf (·.stationId) (fun a => a.trackId = tid) l.adBreakItems)
    runtimeStopStations := sortedSet
      (stationsOf (·.stationId) (fun q => q.trackId = tid && q.status = .playing) l.queueItems ++
        stationsOf (·.stationId) (fun i => i.trackId = tid && i.status = .playing)
          l.scheduleItems ++
        stationsOf (·.stationId) (fun a => a.trackId = tid && a.status = .playing)
          l.adBreakItems ++
        ((rows s.playoutState).filter fun r => isFallback tid r.2).map Prod.fst) }

def deactivate (tid : ℤ) (s : Store) : Store × Deactivated :=
  match s.library.tracks[tid]? with
  | none => (s, ⟨false, false, false, 0, 0, 0, 0, 0, 0, [], []⟩)
  | some t =>
    if !t.isActive then (s, ⟨true, false, true, 0, 0, 0, 0, 0, 0, [], []⟩)
    else
      ({ s with
        library := dropLibrary tid s.library
        playoutState := s.playoutState.map fun _ c => if isFallback tid c then nothing else c },
        deactivated tid s)

/-! ### The replay -/

inductive Event
  | setCurrent (st : ℤ) (source : String) (itemId : Option ℤ) (reason : String)
  | reconcileStartup (st : ℤ)
  | reconcileAllStartup
  | deactivate (tid : ℤ)
  /-- the tables beside the two of the playout state change -/
  | edit (library : Library)

def step (s : Store) : Event → Option Store
  | .setCurrent st source itemId reason => some (setCurrent st source itemId reason s)
  | .reconcileStartup st => some (reconcileStartup st s)
  | .reconcileAllStartup => some (reconcileAllStartup s)
  | .deactivate tid => some (deactivate tid s).1
  | .edit library => some { s with library := library }

/-- The entries one after the other, each of which must start where the one before it ends. -/
def replay : Current → List Entry → Option Current
  | c, [] => some c
  | c, e :: es => if e.before = c then replay e.after es else none

def entriesOf (st : ℤ) (s : Store) : List Entry := s.transitions.filter fun e => e.stationId = st

/-- The row of a station; a station without one plays nothing. -/
def stored (st : ℤ) (s : Store) : Current := s.playoutState[st]?.getD nothing

/-- The log of every station leads to its row. -/
def Complete (s : Store) : Prop := ∀ st, replay nothing (entriesOf st s) = some (stored st s)

/-- A track that is deactivated is not the fallback a station plays, and what is logged is
logged for a station that exists. -/
def Logged (s : Store) : Event → Prop
  | .setCurrent st source itemId _ =>
    known st s = true ∨ getCurrent st s = ⟨orNone source, itemId⟩
  | .reconcileStartup st => known st s = true ∨ getCurrent st s = nothing
  | .reconcileAllStartup => ∀ r ∈ stalePlayout s, known r.1 s = true
  | .deactivate tid => s.library.tracks[tid]?.any (·.isActive) = true →
    ∀ r ∈ rows s.playoutState, isFallback tid r.2 = false
  | .edit _ => True

instance (s : Store) (e : Event) : Decidable (Logged s e) := by
  cases e <;> unfold Logged <;> infer_instance

/-! ### The log follows the row -/

variable {s s' : Store} {st : ℤ}

lemma replay_append (c : Current) (es fs : List Entry) :
    replay c (es ++ fs) = (replay c es).bind fun d => replay d fs := by
  induction es generalizing c with
  | nil => rfl
  | cons e es ih =>
    rw [List.cons_append, replay, replay]
    split
    · exact ih e.after
    · rfl

/-- The row of a station is left alone, or an entry leads from the old row to the new one. -/
def Follows (st : ℤ) (s s' : Store) : Prop :=
  (entriesOf st s' = entriesOf st s ∧ stored st s' = stored st s) ∨
  ∃ e, entriesOf st s' = entriesOf st s ++ [e] ∧ e.before = stored st s ∧ e.after = stored st s'

lemma complete_of_follows (h : Complete s) (hf : ∀ st, Follows st s s') : Complete s' := by
  intro st
  rcases hf st with ⟨hlog, hrow⟩ | ⟨e, hlog, hbefore, hafter⟩
  · rw [hlog, hrow]
    exact h st
  · rw [hlog, replay_append, h st, Option.bind_some, replay, if_pos hbefore, hafter]
    rfl

/-- The source of every row has a name. -/
def Named (s : Store) : Prop :=
  ∀ (st : ℤ) (c : Current), s.playoutState[st]? = some c → c.source ≠ ""

lemma orNone_ne (source : String) : orNone source ≠ "" := by
  unfold orNone
  split
  · decide
  · assumption

lemma getCurrent_eq (h : Named s) (st : ℤ) : getCurrent st s = stored st s := by
  unfold getCurrent stored
  cases hr : s.playoutState[st]? with
  | none => rfl
  | some c => simp [orNone, h st c hr]

@[simp] lemma stored_putCurrent (st : ℤ) (c : Current) (s : Store) (st' : ℤ) :
    stored st' (putCurrent st c s) = if st' = st then c else stored st' s := by
  unfold stored putCurrent
  rw [lookup_insert]
  split <;> rfl

lemma named_putCurrent (h : Named s) (st : ℤ) {c : Current} (hc : c.source ≠ "") :
    Named (putCurrent st c s) := by
  intro st' c' hr
  unfold putCurrent at hr
  rw [lookup_insert] at hr
  split at hr
  · obtain rfl := Option.some.inj hr
    exact hc
  · exact h st' c' hr

@[simp] lemma insertEntry_playoutState (e : Entry) (s : Store) :
    (insertEntry e s).1.playoutState = s.playoutState := by
  unfold insertEntry
  split <;> rfl

lemma entriesOf_insertEntry {e : Entry} (he : known e.stationId s = true) (st : ℤ) :
    entriesOf st (insertEntry e s).1 =
      entriesOf st s ++ if e.stationId = st then [e] else [] := by
  unfold insertEntry entriesOf
  rw [if_pos he, List.filter_append]
  congr 1
  by_cases h : e.stationId = st <;> simp [h]

/-- What `set_current` and `reconcile_startup` share: the row is written, and what changes is
logged. -/
lemma follows_write (h : Named s) {next : Current} (reason : String) {w : Store}
    (hrows : w.playoutState = (putCurrent st next s).playoutState)
    (hlog : w.transitions = s.transitions) (hknown : known st w = known st s)
    (hok : known st s = true ∨ getCurrent st s = next) (st' : ℤ) :
    Follows st' s (if getCurrent st s = next then w
      else (insertEntry ⟨st, getCurrent st s, next, reason⟩ w).1) := by
  have hstored : ∀ v : Store, v.playoutState = w.playoutState →
      stored st' v = if st' = st then next else stored st' s := by
    intro v hv
    rw [← stored_putCurrent]
    unfold stored
    rw [hv, hrows]
  have hentries : entriesOf st' w = entriesOf st' s := by
    unfold entriesOf
    rw [hlog]
  rw [getCurrent_eq h] at hok ⊢
  split
  · next hsame =>
      left
      refine ⟨hentries, (hstored w rfl).trans ?_⟩
      split
      · next he => rw [he, hsame]
      · rfl
  · next hdiff =>
      have hk : known st w = true := hknown.trans (hok.resolve_right hdiff)
      have hlog' := entriesOf_insertEntry (e := ⟨st, stored st s, next, reason⟩) hk st'
      have hrow := hstored _ (insertEntry_playoutState ⟨st, stored st s, next, reason⟩ w)
      by_cases he : st' = st
      · subst he
        right
        refine ⟨_, by rw [hlog', hentries, if_pos rfl], rfl, ?_⟩
        rw [hrow, if_pos rfl]
      · left
        refine ⟨?_, by rw [hrow, if_neg he]⟩
        rw [hlog', hentries, if_neg (Ne.symm he), List.append_nil]

/-! ### All stations at once -/

lemma rows_filter_key {α : Type} (t : Table α) (k : ℤ) :
    (rows t).filter (fun r => r.1 = k) = (t[k]?.map fun a => (k, a)).toList := by
  refine (rows_sorted t).filter _ |>.eq_of_mem_iff ?_ fun {r} => ?_
  · cases t[k]? <;> simp
  · rw [List.mem_filter, mem_rows]
    cases hk : t[k]? with
    | none => 
        simp only [decide_eq_true_eq, Option.map_none, Option.toList_none, List.not_mem_nil,
          iff_false, not_and]
        rintro hr rfl
        rw [hk] at hr
        cases hr
    | some a =>
      simp only [decide_eq_true_eq, Option.map_some, Option.toList_some, List.mem_singleton]
      constructor
      · rintro ⟨hr, rfl⟩
        rw [hk] at hr
        obtain rfl := Option.some.inj hr
        rfl
      · rintro rfl
        exact ⟨hk, rfl⟩

lemma insertEntries_known {es : List Entry} (h : ∀ e ∈ es, known e.stationId s = true) :
    insertEntries es s = ({ s with transitions := s.transitions ++ es }, true) := by
  induction es generalizing s with
  | nil => simp [insertEntries]
  | cons e es ih =>
    have he : insertEntry e s = ({ s with transitions := s.transitions ++ [e] }, true) :=
      if_pos (h e List.mem_cons_self)
    rw [insertEntries, he]
    have hrest := ih (s := { s with transitions := s.transitions ++ [e] })
      fun f hf => h f (List.mem_cons_of_mem _ hf)
    simpa using hrest

/-- What `reconcile_all_startup` logs. -/
def staleEntries (s : Store) : List Entry :=
  (stalePlayout s).map fun r => ⟨r.1, ⟨orNone r.2.source, r.2.itemId⟩, nothing, "startup_reconcile"⟩

/-- Whether a row is reset by `reconcile_all_startup`. -/
def isStale (c : Current) : Bool := c.source ≠ "none" || c.itemId.isSome

lemma isStale_eq_false {c : Current} : isStale c = false ↔ c = nothing := by
  cases c with
  | mk source itemId => cases itemId <;> simp [isStale, nothing]

lemma staleEntries_of_station (h : Named s) (st : ℤ) :
    (staleEntries s).filter (fun e => e.stationId = st) =
      if stored st s = nothing then []
      else [⟨st, stored st s, nothing, "startup_reconcile"⟩] := by
  have hfilter : (stalePlayout s).filter (fun r => r.1 = st) =
      (s.playoutState[st]?.map fun c => (st, c)).toList.filter fun r => isStale r.2 := by
    unfold stalePlayout
    rw [List.filter_comm, rows_filter_key]
    rfl
  unfold staleEntries
  rw [List.filter_map]
  have hcomp : ((fun e : Entry => decide (e.stationId = st)) ∘ fun r : ℤ × Current =>
      (⟨r.1, ⟨orNone r.2.source, r.2.itemId⟩, nothing, "startup_reconcile"⟩ : Entry)) =
      fun r => decide (r.1 = st) := rfl
  rw [hcomp, hfilter]
  unfold stored
  cases hr : s.playoutState[st]? with
  | none => simp
  | some c =>
    have hname : orNone c.source = c.source := by simp [orNone, h st c hr]
    by_cases hc : c = nothing
    · have hfresh := isStale_eq_false.mpr hc
      simp [hc, isStale_eq_false.mpr]
    · have hstale : isStale c = true := by
        by_contra hne
        exact hc (isStale_eq_false.mp (by simpa using hne))
      simp [hc, hstale, hname]

/-- What `reconcile_all_startup` leaves, when nothing it logs raises. -/
lemma reconcileAllStartup_known (hk : ∀ r ∈ stalePlayout s, known r.1 s = true) :
    reconcileAllStartup s =
      { library := endShows (requeueAll s.library)
        playoutState := s.playoutState.map fun _ c => if isStale c then nothing else c
        transitions := s.transitions ++ staleEntries s } := by
  have hins : ∀ w : Store, w.library.stations = s.library.stations →
      insertEntries (staleEntries s) w =
        ({ w with transitions := w.transitions ++ staleEntries s }, true) := by
    intro w hw
    refine insertEntries_known fun e he => ?_
    obtain ⟨r, hr, rfl⟩ := List.mem_map.mp he
    unfold known
    rw [hw]
    exact hk r hr
  have hrun := hins
    { s with
      library := requeueAll s.library
      playoutState := s.playoutState.map fun _ c => if isStale c then nothing else c } rfl
  unfold reconcileAllStartup
  unfold staleEntries isStale at hrun
  dsimp only at hrun ⊢
  rw [hrun]
  rfl

lemma stored_map {w : Store} {f : Current → Current} (hf : f nothing = nothing)
    (hw : w.playoutState = s.playoutState.map fun _ c => f c) (st : ℤ) :
    stored st w = f (stored st s) := by
  unfold stored
  rw [hw, Std.ExtTreeMap.getElem?_map]
  cases s.playoutState[st]? <;> simp [hf]

lemma named_map {w : Store} {f : Current → Current} (h : Named s)
    (hf : ∀ c, c.source ≠ "" → (f c).source ≠ "")
    (hw : w.playoutState = s.playoutState.map fun _ c => f c) : Named w := by
  intro st c hr
  rw [hw, Std.ExtTreeMap.getElem?_map] at hr
  obtain ⟨d, hd, rfl⟩ := Option.map_eq_some_iff.mp hr
  exact hf d (h st d hd)

lemma follows_reconcileAllStartup (h : Named s) (hk : ∀ r ∈ stalePlayout s, known r.1 s = true)
    (st : ℤ) : Follows st s (reconcileAllStartup s) := by
  rw [reconcileAllStartup_known hk]
  have hrow : ∀ w : Store, w.playoutState =
      s.playoutState.map (fun _ c => if isStale c then nothing else c) →
      stored st w = nothing := by
    intro w hw
    rw [stored_map (f := fun c => if isStale c then nothing else c) rfl hw]
    split
    · rfl
    · next hc => exact isStale_eq_false.mp (by simpa using hc)
  have hlog : (s.transitions ++ staleEntries s).filter (fun e => e.stationId = st) =
      entriesOf st s ++ if stored st s = nothing then []
        else [⟨st, stored st s, nothing, "startup_reconcile"⟩] := by
    rw [List.filter_append, staleEntries_of_station h]
    rfl
  by_cases hc : stored st s = nothing
  · left
    rw [if_pos hc, List.append_nil] at hlog
    exact ⟨hlog, (hrow _ rfl).trans hc.symm⟩
  · right
    rw [if_neg hc] at hlog
    exact ⟨_, hlog, rfl, (hrow _ rfl).symm⟩

lemma follows_deactivate {tid : ℤ} (hok : Logged s (.deactivate tid)) (st : ℤ) :
    Follows st s (deactivate tid s).1 := by
  unfold deactivate
  split
  · exact .inl ⟨rfl, rfl⟩
  · next t ht =>
      split
      · exact .inl ⟨rfl, rfl⟩
      · next hact =>
          have hrows := hok (by rw [ht]; simpa using hact)
          refine .inl ⟨rfl, ?_⟩
          have hmap : (s.playoutState.map fun _ c => if isFallback tid c then nothing else c) =
              s.playoutState := by
            refine Std.ExtTreeMap.ext_getElem? fun k => ?_
            rw [Std.ExtTreeMap.getElem?_map]
            cases hr : s.playoutState[k]? with
            | none => rfl
            | some c =>
              have hc := hrows (k, c) (mem_rows.mpr hr)
              simp only at hc
              simp [hc]
          unfold stored
          dsimp only
          rw [hmap]

/-! ### Runs -/

structure Kept (s : Store) : Prop where
  named : Named s
  complete : Complete s

lemma kept_start (library : Library) : Kept (start library) where
  named _ _ h := by simp [start] at h
  complete _ := by simp [start, entriesOf, stored, replay]

lemma named_insertEntry (h : Named s) (e : Entry) : Named (insertEntry e s).1 := by
  intro st c hr
  rw [insertEntry_playoutState] at hr
  exact h st c hr

lemma kept_step {e : Event} (h : Kept s) (hok : Logged s e) (hs : step s e = some s') :
    Kept s' := by
  cases e with
  | setCurrent st source itemId reason =>
    obtain rfl := Option.some.inj hs
    have hput : Named (putCurrent st ⟨orNone source, itemId⟩ s) :=
      named_putCurrent h.named st (orNone_ne source)
    refine ⟨?_, complete_of_follows h.complete fun st' =>
      follows_write h.named reason rfl rfl rfl hok st'⟩
    unfold setCurrent
    dsimp only
    split
    · exact hput
    · exact named_insertEntry hput _
  | reconcileStartup st =>
    obtain rfl := Option.some.inj hs
    have hput : Named (putCurrent st nothing s) :=
      named_putCurrent h.named st (by decide)
    unfold reconcileStartup
    dsimp only
    refine ⟨?_, complete_of_follows h.complete fun st' => ?_⟩
    · split
      · exact hput
      · refine named_insertEntry ?_ _
        exact hput
    · refine follows_write h.named "startup_reconcile" ?_ ?_ ?_ hok st' <;> rfl
  | reconcileAllStartup =>
    obtain rfl := Option.some.inj hs
    refine ⟨?_, complete_of_follows h.complete (follows_reconcileAllStartup h.named hok)⟩
    rw [reconcileAllStartup_known hok]
    refine named_map (f := fun c => if isStale c then nothing else c) h.named ?_ rfl
    intro c hc
    split
    · decide
    · exact hc
  | deactivate tid =>
    obtain rfl := Option.some.inj hs
    refine ⟨?_, complete_of_follows h.complete (follows_deactivate hok)⟩
    unfold deactivate
    split
    · exact h.named
    · split
      · exact h.named
      · refine named_map (f := fun c => if isFallback tid c then nothing else c) h.named ?_ rfl
        intro c hc
        split
        · decide
        · exact hc
  | edit library =>
    obtain rfl := Option.some.inj hs
    exact ⟨h.named, h.complete⟩

/-- **The log is complete.** In every run from empty playout tables in which no deactivated
track is the fallback that a station plays, and nothing is logged for a station that does not
exist, the log of every station is chained and ends in its row. -/
theorem log_is_complete {library : Library} {es : List Event}
    (h : exec step (start library) es = some s) (hok : Meets step Logged (start library) es) :
    ∀ st, replay nothing (entriesOf st s) = some (stored st s) :=
  (inv_of_exec (fun _ _ _ hk hok hs => kept_step hk hok hs) (kept_start library) hok h).complete

/-- One station with one active track. -/
def oneTrack : Library :=
  { stations := (∅ : Table Unit).insert 1 ()
    tracks := (∅ : Table Track).insert 7 ⟨1, "t", "a", "t.mp3", 180, "music", true, false, 0, none⟩
    queueItems := ∅
    scheduleItems := ∅
    adBreakItems := ∅
    playlistItems := ∅
    programQueueItems := ∅
    showSessions := ∅
    stationSettings := ∅ }

theorem log_is_complete_oneTrack :
    ∃ s, exec step (start oneTrack)
        [.setCurrent 1 "library_fallback" (some 7) "", .setCurrent 1 "manual" (some 3) "",
          .deactivate 7, .reconcileAllStartup] = some s ∧
      s.transitions.length = 3 ∧
      ∀ st, replay nothing (entriesOf st s) = some (stored st s) := by
  have hrun : ((exec step (start oneTrack)
      [.setCurrent 1 "library_fallback" (some 7) "", .setCurrent 1 "manual" (some 3) "",
        .deactivate 7, .reconcileAllStartup]).any fun s => decide (s.transitions.length = 3)) =
      true := by
    decide +kernel
  obtain ⟨s, hs, hlen⟩ := (Option.any_eq_true ..).mp hrun
  exact ⟨s, hs, of_decide_eq_true hlen, log_is_complete hs (by decide +kernel)⟩

theorem deactivate_is_not_logged :
    ∃ s, exec step (start oneTrack)
        [.setCurrent 1 "library_fallback" (some 7) "", .deactivate 7] = some s ∧
      replay nothing (entriesOf 1 s) ≠ some (stored 1 s) := by
  have hrun : ((exec step (start oneTrack)
      [.setCurrent 1 "library_fallback" (some 7) "", .deactivate 7]).any fun s =>
      decide (replay nothing (entriesOf 1 s) ≠ some (stored 1 s))) = true := by
    decide +kernel
  obtain ⟨s, hs, hne⟩ := (Option.any_eq_true ..).mp hrun
  exact ⟨s, hs, of_decide_eq_true hne⟩

end OnAir.PlayoutLog
