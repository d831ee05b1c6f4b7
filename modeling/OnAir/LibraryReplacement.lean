import OnAir.KeptFiles
import OnAir.RetiredTracks

/-!
What a sync leaves of a library and of what refers to it, where it replaces the library.

Of the rows of one path the first becomes the track of the file, and the others are deactivated at
once; tracks whose path is none of the files are deactivated afterwards. Only what refers to the
latter is deleted, and only where it is of the same station. What waits is then numbered from one
on, whatever the position of the row that plays.
-/

namespace OnAir.LibraryReplacement

open ActiveRows FolderSync KeptFiles PlayoutTables OnAir.Table

variable {fs : Files} {p : Payload} {l : Library} {v : Validated} {w w' : Work} {key path : String}
  {done paths : List String} {id : ℤ} {x : Track}

/-! ### The loop over the files -/

lemma mem_existingByPath : (id, x) ∈ existingByPath fs p l key ↔
    l.engine.tracks[id]? = some x ∧ ofType p x = true ∧ pathKey fs x = some key := by
  unfold existingByPath
  rw [List.mem_filter, mem_rows, Bool.and_eq_true, decide_eq_true_eq]

lemma existingByPath_nodup : ((existingByPath fs p l key).map Prod.fst).Nodup :=
  List.pairwise_map.mpr (((rows_sorted l.engine.tracks).filter _).imp fun h => h.ne)

@[simp] lemma lookup_deactivate (ids : List ℤ) (tracks : Table Track) (id : ℤ) :
    (deactivate ids tracks)[id]? = tracks[id]?.map fun x =>
      if id ∈ ids then { x with isActive := false } else x := by
  rw [deactivate, Std.ExtTreeMap.getElem?_map]

lemma lower_kind (p : Payload) : Sql.lower p.kind = PythonText.lower p.kind := by
  have hall : ∀ kind ∈ ["music", "jingle", "ad", "station_id", "show", "startup"],
      Sql.lower kind = PythonText.lower kind := by decide
  unfold Payload.kind normalizeTrackType
  dsimp only
  split_ifs with h
  · exact hall _ h
  · decide

/-- An active track of the station and the type, with the path. -/
def Placed (p : Payload) (tracks : Table Track) (path : String) (id : ℤ) : Prop :=
  ∃ x : Track, tracks[id]? = some x ∧ ofType p x = true ∧ x.isActive = true ∧ x.filePath = path

/-- What the loop has made of the tracks when it is done with some paths. -/
structure Written (fs : Files) (p : Payload) (l : Library) (done : List String) (w : Work) :
    Prop where
  other : w.library.engine = { l.engine with tracks := w.library.engine.tracks }
  targets : ∃ target : String → ℤ, w.targetTrackIds = done.map target ∧
    ∀ path ∈ done, Placed p w.library.engine.tracks path (target path)
  first : ∀ (id : ℤ) (x : Track), l.engine.tracks[id]? = some x → (id ∈ w.targetTrackIds ↔
    ∃ path ∈ done, (existingByPath fs p l (canonicalLibraryPath fs path)).head? = some (id, x))
  later : ∀ (id : ℤ) (x : Track), l.engine.tracks[id]? = some x → id ∉ w.targetTrackIds →
    (∃ path ∈ done, (id, x) ∈ existingByPath fs p l (canonicalLibraryPath fs path)) →
      w.library.engine.tracks[id]? = some { x with isActive := false }
  kept : ∀ (id : ℤ) (x : Track), l.engine.tracks[id]? = some x →
    (∀ path ∈ done, (id, x) ∉ existingByPath fs p l (canonicalLibraryPath fs path)) →
      w.library.engine.tracks[id]? = some x
  new : ∀ id : ℤ, l.engine.tracks[id]? = none → id ∉ w.targetTrackIds →
    w.library.engine.tracks[id]? = none

namespace Written

lemma start (l : Library) : Written fs p l [] (.start l) where
  other := rfl
  targets := ⟨fun _ => 0, rfl, by simp⟩
  first := by simp [Work.start]
  later := by simp
  kept id x h _ := h
  new id h _ := h

/-- Targets have rows. -/
lemma placed_of_target (h : Written fs p l done w) (hid : id ∈ w.targetTrackIds) :
    ∃ path ∈ done, Placed p w.library.engine.tracks path id := by
  obtain ⟨target, htargets, hplaced⟩ := h.targets
  rw [htargets] at hid
  obtain ⟨path, hpath, rfl⟩ := List.mem_map.mp hid
  exact ⟨path, hpath, hplaced path hpath⟩

/-- A row that was there is there still. -/
lemma exists_row (h : Written fs p l done w) (hx : l.engine.tracks[id]? = some x) :
    w.library.engine.tracks[id]? ≠ none := by
  by_cases hid : id ∈ w.targetTrackIds
  · obtain ⟨_, -, y, hy, -⟩ := h.placed_of_target hid
    simp [hy]
  · by_cases hmatch : ∃ path ∈ done,
        (id, x) ∈ existingByPath fs p l (canonicalLibraryPath fs path)
    · simp [h.later id x hx hid hmatch]
    · simp [h.kept id x hx fun path hpath hmem => hmatch ⟨path, hpath, hmem⟩]

section Step

variable (h : Written fs p l done w)
  (hnew : canonicalLibraryPath fs path ∉ done.map (canonicalLibraryPath fs))

include h hnew

/-- The rows of a path that comes for the first time are as they were. -/
lemma row_of_new (hx : (id, x) ∈ existingByPath fs p l (canonicalLibraryPath fs path)) :
    id ∉ w.targetTrackIds ∧ w.library.engine.tracks[id]? = some x := by
  obtain ⟨hrow, -, hkey⟩ := mem_existingByPath.mp hx
  have hother : ∀ q ∈ done, (id, x) ∉ existingByPath fs p l (canonicalLibraryPath fs q) := by
    intro q hq hmem
    have hq' := (mem_existingByPath.mp hmem).2.2
    rw [hkey] at hq'
    exact hnew (List.mem_map.mpr ⟨q, hq, (Option.some.inj hq').symm⟩)
  refine ⟨fun hid => ?_, h.kept id x hrow hother⟩
  obtain ⟨q, hq, hhead⟩ := (h.first id x hrow).mp hid
  exact hother q hq (List.mem_of_mem_head? hhead)

end Step

end Written

/-- What a turn of the loop does to the tracks. -/
inductive Turn (fs : Files) (p : Payload) (l : Library) (path : String) (m : Metadata)
    (tracks : Table Track) : Table Track → ℤ → Prop
  | update (primary : ℤ × Track) (duplicates : List (ℤ × Track))
      (hrows : existingByPath fs p l (canonicalLibraryPath fs path) = primary :: duplicates) :
      Turn fs p l path m tracks (deactivate (duplicates.map Prod.fst)
        (tracks.modify primary.1 (updatedTrack fs p path m))) primary.1
  | insert (hrows : existingByPath fs p l (canonicalLibraryPath fs path) = []) :
      Turn fs p l path m tracks (tracks.insert (nextId tracks) (insertedTrack fs p path m))
        (nextId tracks)

lemma turn_of_syncFile (h : syncFile fs p v l path w = some w') :
    ∃ m id, v.metadata.lookup (canonicalLibraryPath fs path) = some m ∧
      Turn fs p l path m w.library.engine.tracks w'.library.engine.tracks id ∧
      w'.targetTrackIds = w.targetTrackIds ++ [id] ∧
      w'.library.engine = { w.library.engine with tracks := w'.library.engine.tracks } := by
  unfold syncFile at h
  cases hm : v.metadata.lookup (canonicalLibraryPath fs path) with
  | none => simp [hm] at h
  | some m =>
    simp only [hm, Option.bind_eq_bind, Option.bind_some, Option.pure_def] at h
    split at h
    case h_1 primary duplicates hrows =>
      obtain rfl := Option.some.inj h
      exact ⟨m, primary.1, rfl, .update primary duplicates hrows, rfl, rfl⟩
    case h_2 hrows =>
      obtain rfl := Option.some.inj h
      exact ⟨m, _, rfl, .insert hrows, rfl, rfl⟩

/-- Rows that are none of the path stay. -/
lemma Turn.aside {m : Metadata} {tracks tracks' : Table Track}
    (h : Turn fs p l path m tracks tracks' id) {j : ℤ} (hj : j ≠ id)
    (hother : ∀ y, (j, y) ∉ existingByPath fs p l (canonicalLibraryPath fs path)) :
    tracks'[j]? = tracks[j]? := by
  cases h with
  | update primary duplicates hrows =>
    have hdup : j ∉ duplicates.map Prod.fst := fun hmem => by
      obtain ⟨⟨_, y⟩, hy, rfl⟩ := List.mem_map.mp hmem
      exact hother y (hrows ▸ List.mem_cons_of_mem _ hy)
    rw [lookup_deactivate, lookup_modify, if_neg hj]
    simp [hdup]
  | insert hrows => rw [lookup_insert, if_neg hj]

namespace Written

section Step

variable {m : Metadata} {tracks : Table Track} (h : Written fs p l done w)
  (hnew : canonicalLibraryPath fs path ∉ done.map (canonicalLibraryPath fs))
  (hturn : Turn fs p l path m w.library.engine.tracks tracks id)

include h hnew hturn

/-- The row that the path gets. -/
lemma placed : Placed p tracks path id := by
  cases hturn with
  | update primary duplicates hrows =>
    have hfirst : primary ∈ existingByPath fs p l (canonicalLibraryPath fs path) := by
      simp [hrows]
    have hdup : primary.1 ∉ duplicates.map Prod.fst := by
      have hnodup := @existingByPath_nodup fs p l (canonicalLibraryPath fs path)
      rw [hrows, List.map_cons] at hnodup
      exact (List.nodup_cons.mp hnodup).1
    refine ⟨updatedTrack fs p path m primary.2, ?_, ?_, rfl, rfl⟩
    · rw [lookup_deactivate, lookup_modify, if_pos rfl, (h.row_of_new hnew hfirst).2]
      simp [hdup]
    · have htype := (mem_existingByPath.mp hfirst).2.1
      rw [ofType, Bool.and_eq_true, decide_eq_true_eq] at htype
      simp [ofType, updatedTrack, htype.1, lower_kind]
  | insert hrows =>
    refine ⟨insertedTrack fs p path m, by rw [lookup_insert, if_pos rfl], ?_, rfl, rfl⟩
    simp [ofType, insertedTrack, lower_kind]

/-- The row that the path gets is none that another path has. -/
lemma target_notMem : id ∉ w.targetTrackIds := by
  cases hturn with
  | update primary duplicates hrows =>
    exact (h.row_of_new hnew (x := primary.2) (by simp [hrows])).1
  | insert hrows =>
    intro hid
    obtain ⟨_, -, y, hy, -⟩ := h.placed_of_target hid
    exact absurd (lookup_nextId w.library.engine.tracks) (by simp [hy])

omit hnew in
/-- The row that the path gets is the first one it had, or a new one. -/
lemma target_iff {j : ℤ} {y : Track} (hy : l.engine.tracks[j]? = some y) : j = id ↔
    (existingByPath fs p l (canonicalLibraryPath fs path)).head? = some (j, y) := by
  cases hturn with
  | update primary duplicates hrows =>
    have hfirst : primary ∈ existingByPath fs p l (canonicalLibraryPath fs path) := by
      simp [hrows]
    have hrow := (mem_existingByPath.mp hfirst).1
    rw [hrows, List.head?_cons, Option.some_inj]
    constructor
    · rintro rfl
      rw [hrow] at hy
      exact Prod.ext rfl (Option.some.inj hy)
    · exact fun he => he ▸ rfl
  | insert hrows =>
    rw [hrows]
    refine iff_of_false (fun he => ?_) (by simp)
    exact h.exists_row hy (he ▸ lookup_nextId _)

/-- The other rows of the path are deactivated. -/
lemma deactivated_of_path {j : ℤ} {y : Track} (hj : j ≠ id)
    (hy : (j, y) ∈ existingByPath fs p l (canonicalLibraryPath fs path)) :
    tracks[j]? = some { y with isActive := false } := by
  cases hturn with
  | update primary duplicates hrows =>
    have hdup : (j, y) ∈ duplicates := by
      refine (List.mem_cons.mp (hrows ▸ hy)).resolve_left fun he => hj ?_
      rw [← he]
    rw [lookup_deactivate, lookup_modify, if_neg hj, (h.row_of_new hnew hy).2, Option.map_some,
      if_pos (List.mem_map_of_mem hdup)]
  | insert hrows => simp [hrows] at hy

end Step

/-- **One turn of the loop.** -/
theorem step (h : Written fs p l done w)
    (hnew : canonicalLibraryPath fs path ∉ done.map (canonicalLibraryPath fs))
    (hsync : syncFile fs p v l path w = some w') : Written fs p l (done ++ [path]) w' := by
  obtain ⟨m, id, -, hturn, htargets, hother⟩ := turn_of_syncFile hsync
  have hnotMem : path ∉ done := fun hmem => hnew (List.mem_map_of_mem hmem)
  -- a row of the state before is looked up in what was done or among the rows of the path
  have hmem : ∀ {P : String → Prop}, (∃ q ∈ done ++ [path], P q) ↔ (∃ q ∈ done, P q) ∨ P path := by
    intro P
    simp [or_and_right, exists_or]
  constructor
  case other => rw [hother, h.other]
  case targets =>
    obtain ⟨target, htarget, hplaced⟩ := h.targets
    refine ⟨Function.update target path id, ?_, fun q hq => ?_⟩
    · rw [htargets, htarget, List.map_append, List.map_singleton, Function.update_self]
      refine congrArg (· ++ [id]) (List.map_congr_left fun q hq => ?_)
      rw [Function.update_of_ne (ne_of_mem_of_not_mem hq hnotMem)]
    · rcases List.mem_append.mp hq with hq | hq
      · rw [Function.update_of_ne (ne_of_mem_of_not_mem hq hnotMem)]
        have hin : target q ∈ w.targetTrackIds := htarget ▸ List.mem_map_of_mem hq
        obtain ⟨x, hx, hrest⟩ := hplaced q hq
        refine ⟨x, ?_, hrest⟩
        rw [hturn.aside (fun he => h.target_notMem hnew hturn (he ▸ hin))
          fun y hy => (h.row_of_new hnew hy).1 hin, hx]
      · obtain rfl := List.mem_singleton.mp hq
        rw [Function.update_self]
        exact h.placed hnew hturn
  case first =>
    intro j y hy
    rw [htargets, List.mem_append, List.mem_singleton, hmem, h.first j y hy,
      h.target_iff hturn hy]
  case later =>
    intro j y hy hj hmatch
    rw [htargets, List.mem_append, List.mem_singleton, not_or] at hj
    by_cases hpath : (j, y) ∈ existingByPath fs p l (canonicalLibraryPath fs path)
    · exact h.deactivated_of_path hnew hturn hj.2 hpath
    · rw [hturn.aside hj.2 fun z hz => ?_]
      · exact h.later j y hy hj.1 ((hmem.mp hmatch).resolve_right hpath)
      · have hzy := (mem_existingByPath.mp hz).1
        rw [hy] at hzy
        exact hpath (Option.some.inj hzy ▸ hz)
  case kept =>
    intro j y hy hnone
    have hpath := hnone path (by simp)
    rw [hturn.aside ?_ fun z hz => ?_]
    · exact h.kept j y hy fun q hq => hnone q (List.mem_append_left _ hq)
    · exact fun he => hpath (List.mem_of_mem_head? ((h.target_iff hturn hy).mp he))
    · have hzy := (mem_existingByPath.mp hz).1
      rw [hy] at hzy
      exact hpath (Option.some.inj hzy ▸ hz)
  case new =>
    intro j hnone hj
    rw [htargets, List.mem_append, List.mem_singleton, not_or] at hj
    rw [hturn.aside hj.2 fun y hy => ?_]
    · exact h.new j hnone hj.1
    · exact absurd (mem_existingByPath.mp hy).1 (by simp [hnone])

/-- **The whole loop.** -/
theorem run (h : Written fs p l done w)
    (hnodup : ((done ++ paths).map (canonicalLibraryPath fs)).Nodup)
    (hrun : (paths.map (syncFile fs p v l)).foldlM (fun w f => f w) w = some w') :
    Written fs p l (done ++ paths) w' ∧
      ∀ path ∈ paths, ∃ m, v.metadata.lookup (canonicalLibraryPath fs path) = some m := by
  induction paths generalizing done w with
  | nil =>
    obtain rfl := Option.some.inj hrun
    exact ⟨by rwa [List.append_nil], by simp⟩
  | cons path paths ih =>
    rw [List.map_cons, List.foldlM_cons] at hrun
    obtain ⟨u, hsync, hrest⟩ := Option.bind_eq_some_iff.mp hrun
    obtain ⟨m, _, hm, -⟩ := turn_of_syncFile hsync
    have hnew : canonicalLibraryPath fs path ∉ done.map (canonicalLibraryPath fs) := by
      rw [List.map_append, List.map_cons] at hnodup
      exact fun hmem => (List.nodup_append.mp hnodup).2.2 _ hmem _ List.mem_cons_self rfl
    rw [← List.singleton_append, ← List.append_assoc] at hnodup ⊢
    obtain ⟨hwritten, hall⟩ := ih (h.step hnew hsync) hnodup hrest
    exact ⟨hwritten, List.forall_mem_cons.mpr ⟨⟨m, hm⟩, hall⟩⟩

end Written

/-! ### Which tracks are active afterwards -/

/-- The tracks of the station and the type that are active. -/
def activeTracks (p : Payload) (s : Engine) : Set ℤ :=
  {id | ∃ x : Track, s.tracks[id]? = some x ∧ ofType p x = true ∧ x.isActive = true}

/-- The canonical path of a track. -/
def canonicalOf (fs : Files) (s : Engine) (id : ℤ) : String :=
  canonicalLibraryPath fs ((s.tracks[id]?.map (·.filePath)).getD "")

/-- The tracks that were active before, and are not afterwards. -/
def deactivated (s t : Engine) : Set ℤ :=
  {id | (∃ x : Track, s.tracks[id]? = some x ∧ x.isActive = true) ∧
    ∃ y : Track, t.tracks[id]? = some y ∧ y.isActive = false}

/-- An active track of the station and the type whose path is none of the files. -/
def Outside (fs : Files) (p : Payload) (l : Library) (keys : Set String) (id : ℤ) : Prop :=
  ∃ x : Track, l.engine.tracks[id]? = some x ∧ ofType p x = true ∧ x.isActive = true ∧
    ∀ key ∈ keys, pathKey fs x ≠ some key

/-- An active track whose path is that of a file, behind another one of this path. -/
def Duplicate (fs : Files) (p : Payload) (l : Library) (keys : Set String) (id : ℤ) : Prop :=
  ∃ x : Track, x.isActive = true ∧ ∃ key ∈ keys, (id, x) ∈ existingByPath fs p l key ∧
    (existingByPath fs p l key).head? ≠ some (id, x)

def keysOf (fs : Files) (paths : List String) : Set String :=
  {key | ∃ path ∈ paths, canonicalLibraryPath fs path = key}

lemma mem_staleRows : id ∈ staleRows p w ↔ ∃ x, w.library.engine.tracks[id]? = some x ∧
    ofType p x = true ∧ x.isActive = true ∧ id ∉ w.targetTrackIds := by
  unfold staleRows
  rw [List.mem_map]
  constructor
  · rintro ⟨⟨_, x⟩, hmem, rfl⟩
    rw [List.mem_filter, mem_rows] at hmem
    simp only [Bool.and_eq_true, decide_eq_true_eq] at hmem
    exact ⟨x, hmem.1, hmem.2.1.1, hmem.2.1.2, hmem.2.2⟩
  · rintro ⟨x, hrow, htype, hactive, hid⟩
    refine ⟨(id, x), List.mem_filter.mpr ⟨mem_rows.mpr hrow, ?_⟩, rfl⟩
    simp [htype, hactive, hid]

section Active

variable {t : Engine} (h : Written fs p l done w)
  (ht : t.tracks = deactivate (staleRows p w) w.library.engine.tracks)

include h

/-- **The stale tracks** are those outside of the folder. -/
theorem mem_staleRows_iff : id ∈ staleRows p w ↔ Outside fs p l (keysOf fs done) id := by
  rw [mem_staleRows]
  constructor
  · rintro ⟨x, hrow, htype, hactive, hid⟩
    cases hy : l.engine.tracks[id]? with
    | none => exact absurd (h.new id hy hid) (by simp [hrow])
    | some y =>
      have hnone : ∀ path ∈ done,
          (id, y) ∉ existingByPath fs p l (canonicalLibraryPath fs path) := by
        intro path hpath hmem
        have hlater := h.later id y hy hid ⟨path, hpath, hmem⟩
        rw [hrow] at hlater
        rw [Option.some.inj hlater] at hactive
        exact Bool.false_ne_true hactive
      have hkept := h.kept id y hy hnone
      rw [hrow] at hkept
      obtain rfl := Option.some.inj hkept
      refine ⟨x, hy, htype, hactive, ?_⟩
      rintro _ ⟨path, hpath, rfl⟩ hkey
      exact hnone path hpath (mem_existingByPath.mpr ⟨hy, htype, hkey⟩)
  · rintro ⟨x, hx, htype, hactive, hkeys⟩
    have hnone : ∀ path ∈ done,
        (id, x) ∉ existingByPath fs p l (canonicalLibraryPath fs path) :=
      fun path hpath hmem => hkeys _ ⟨path, hpath, rfl⟩ (mem_existingByPath.mp hmem).2.2
    refine ⟨x, h.kept id x hx hnone, htype, hactive, fun hid => ?_⟩
    obtain ⟨path, hpath, hhead⟩ := (h.first id x hx).mp hid
    exact hnone path hpath (List.mem_of_mem_head? hhead)

include ht

lemma lookup_target (hid : id ∈ w.targetTrackIds) : ∃ path ∈ done, Placed p t.tracks path id := by
  obtain ⟨path, hpath, x, hrow, hrest⟩ := h.placed_of_target hid
  refine ⟨path, hpath, x, ?_, hrest⟩
  have hstale : id ∉ staleRows p w := fun hmem => by
    obtain ⟨-, -, -, -, hno⟩ := mem_staleRows.mp hmem
    exact hno hid
  rw [ht, lookup_deactivate, hrow, Option.map_some, if_neg hstale]

/-- **The active tracks** are the targets. -/
theorem activeTracks_eq : activeTracks p t = {id | id ∈ w.targetTrackIds} := by
  ext id
  constructor
  · rintro ⟨x, hx, htype, hactive⟩
    rw [ht, lookup_deactivate] at hx
    obtain ⟨y, hy, rfl⟩ := Option.map_eq_some_iff.mp hx
    split_ifs at htype hactive with hstale
    by_contra hid
    exact hstale (mem_staleRows.mpr ⟨y, hy, htype, hactive, hid⟩)
  · intro hid
    obtain ⟨path, -, x, hx, htype, hactive, -⟩ := lookup_target h ht hid
    exact ⟨x, hx, htype, hactive⟩

/-- **What was deactivated.** -/
theorem deactivated_iff : id ∈ deactivated l.engine t ↔
    Outside fs p l (keysOf fs done) id ∨ Duplicate fs p l (keysOf fs done) id := by
  constructor
  · rintro ⟨⟨x, hx, hactive⟩, y, hy, hinactive⟩
    have hid : id ∉ w.targetTrackIds := fun hid => by
      obtain ⟨-, -, z, hz, -, hz', -⟩ := lookup_target h ht hid
      rw [hy] at hz
      rw [← Option.some.inj hz, hinactive] at hz'
      exact Bool.false_ne_true hz'
    by_cases hmatch : ∃ path ∈ done,
        (id, x) ∈ existingByPath fs p l (canonicalLibraryPath fs path)
    · obtain ⟨path, hpath, hmem⟩ := hmatch
      refine .inr ⟨x, hactive, _, ⟨path, hpath, rfl⟩, hmem, fun hhead => hid ?_⟩
      exact (h.first id x hx).mpr ⟨path, hpath, hhead⟩
    · have hkept := h.kept id x hx fun path hpath hmem => hmatch ⟨path, hpath, hmem⟩
      rw [ht, lookup_deactivate, hkept, Option.map_some] at hy
      have hstale : id ∈ staleRows p w := by
        by_contra hno
        rw [if_neg hno] at hy
        rw [← Option.some.inj hy, hactive] at hinactive
        exact Bool.false_ne_true hinactive.symm
      exact .inl ((mem_staleRows_iff h).mp hstale)
  · rintro (hout | ⟨x, hactive, _, ⟨path, hpath, rfl⟩, hmem, hhead⟩)
    · have hstale := (mem_staleRows_iff h).mpr hout
      obtain ⟨x, hx, -, hactive, -⟩ := hout
      obtain ⟨y, hy, -⟩ := mem_staleRows.mp hstale
      refine ⟨⟨x, hx, hactive⟩, { y with isActive := false }, ?_, rfl⟩
      rw [ht, lookup_deactivate, hy, Option.map_some, if_pos hstale]
    · obtain ⟨hx, -, hkey⟩ := mem_existingByPath.mp hmem
      have hid : id ∉ w.targetTrackIds := fun hid => by
        obtain ⟨q, -, hq⟩ := (h.first id x hx).mp hid
        have hkey' := (mem_existingByPath.mp (List.mem_of_mem_head? hq)).2.2
        rw [hkey] at hkey'
        exact hhead (Option.some.inj hkey' ▸ hq)
      have hlater := h.later id x hx hid ⟨path, hpath, hmem⟩
      refine ⟨⟨x, hx, hactive⟩, { x with isActive := false }, ?_, rfl⟩
      rw [ht, lookup_deactivate, hlater, Option.map_some, ite_self]

/-- **The active tracks are one for each file.** -/
theorem bijOn_canonical (hnodup : (done.map (canonicalLibraryPath fs)).Nodup) :
    Set.BijOn (canonicalOf fs t) (activeTracks p t) (keysOf fs done) := by
  obtain ⟨target, htargets, hplaced⟩ := h.targets
  have hcanonical : ∀ path ∈ done, canonicalOf fs t (target path) =
      canonicalLibraryPath fs path := fun path hpath => by
    have hstale : target path ∉ staleRows p w := fun hmem => by
      obtain ⟨-, -, -, -, hno⟩ := mem_staleRows.mp hmem
      exact hno (htargets ▸ List.mem_map_of_mem hpath)
    obtain ⟨x, hx, -, -, hfile⟩ := hplaced path hpath
    rw [canonicalOf, ht, lookup_deactivate, hx, Option.map_some, if_neg hstale, Option.map_some,
      Option.getD_some, hfile]
  rw [activeTracks_eq h ht, htargets]
  refine ⟨fun id hid => ?_, fun id hid id' hid' heq => ?_, ?_⟩
  · obtain ⟨path, hpath, rfl⟩ := List.mem_map.mp hid
    exact ⟨path, hpath, (hcanonical path hpath).symm⟩
  · obtain ⟨path, hpath, rfl⟩ := List.mem_map.mp hid
    obtain ⟨path', hpath', rfl⟩ := List.mem_map.mp hid'
    rw [hcanonical path hpath, hcanonical path' hpath'] at heq
    rw [List.inj_on_of_nodup_map hnodup hpath hpath' heq]
  · rintro _ ⟨path, hpath, rfl⟩
    exact ⟨target path, List.mem_map_of_mem hpath, hcanonical path hpath⟩

end Active

/-! ### What refers to a track -/

/-- A pending queue or schedule item of the station, or one of its program queue, is of the
track. -/
def Referred (st id : ℤ) (s : Engine) : Prop :=
  (∃ (j : ℤ) (q : QueueItem), s.queueItems[j]? = some q ∧ q.stationId = st ∧
      q.status = .pending ∧ q.trackId = id) ∨
    (∃ (j : ℤ) (q : ProgramQueueItem), s.programQueueItems[j]? = some q ∧ q.stationId = st ∧
      q.trackId = id) ∨
    ∃ (j : ℤ) (q : Database.ScheduleItem), s.scheduleItems[j]? = some q ∧ q.stationId = st ∧
      q.status = .pending ∧ q.trackId = id

/-- From `s` to `t` rows of active tracks were added to the queue, which was empty, and else nothing
that is played from was changed. -/
structure Grown (st : ℤ) (s t : Engine) : Prop where
  tracks : t.tracks = s.tracks
  program : t.programQueueItems = s.programQueueItems
  schedule : t.scheduleItems = s.scheduleItems
  kept : ∀ (j : ℤ) (q : QueueItem), s.queueItems[j]? = some q → t.queueItems[j]? = some q
  new : ∀ (j : ℤ) (q : QueueItem), t.queueItems[j]? = some q → s.queueItems[j]? = some q ∨
    q.stationId = st ∧ listActiveOrdered st s = [] ∧
      ∀ tid, RetiredTracks.Inactive tid s → q.trackId ≠ tid

section Refill

variable {st : ℤ} {s t u : Engine}

lemma Grown.refl (s : Engine) : Grown st s s := ⟨rfl, rfl, rfl, fun _ _ h => h, fun _ _ h => .inl h⟩

/-- What settings are written makes no difference. -/
lemma Grown.settings {x y : Table (Std.ExtTreeMap String String)}
    (h : Grown st { s with stationSettings := x } t) : Grown st s { t with stationSettings := y } :=
  ⟨h.tracks, h.program, h.schedule, h.kept, h.new⟩

lemma Grown.addItem (h : Grown st s t) (hempty : listActiveOrdered st s = [])
    {item : ℤ × String} (hitem : ∀ tid, RetiredTracks.Inactive tid s → item.1 ≠ tid) :
    Grown st s (QueueRefill.addItem st t item) := by
  unfold QueueRefill.addItem enqueue
  split
  case h_1 => exact h
  case h_2 =>
    refine ⟨h.tracks, h.program, h.schedule, fun j q hq => ?_, fun j q hq => ?_⟩
    · have hrow := h.kept j q hq
      exact (lookup_insert ..).trans ((if_neg (lt_nextId hrow).ne).trans hrow)
    · have hq' : (t.queueItems.insert (nextId t.queueItems)
          (.new st item.1 (nextPosition st t) item.2))[j]? = some q := hq
      rw [lookup_insert] at hq'
      split_ifs at hq'
      · obtain rfl := Option.some.inj hq'
        exact .inr ⟨rfl, hempty, hitem⟩
      · exact h.new j q hq'

lemma Grown.addItems (h : Grown st s t) (hempty : listActiveOrdered st s = [])
    {items : List (ℤ × String)}
    (hitems : ∀ item ∈ items, ∀ tid, RetiredTracks.Inactive tid s → item.1 ≠ tid) :
    Grown st s (items.foldl (QueueRefill.addItem st) t) := by
  induction items generalizing t with
  | nil => exact h
  | cons item items ih =>
    obtain ⟨hitem, hrest⟩ := List.forall_mem_cons.mp hitems
    exact ih (h.addItem hempty hitem) hrest

/-- What is chosen for a queue is active. -/
lemma refillItems_active {sweeper : BroadcastQueue.Sweeper} {item : ℤ × String}
    (hitem : item ∈ QueueRefill.refillItems st s sweeper) {tid : ℤ}
    (htid : RetiredTracks.Inactive tid s) : item.1 ≠ tid := by
  have hwithin : RetiredTracks.Within tid Set.univ s := ⟨htid, fun _ _ => trivial⟩
  obtain ⟨a, ha, rfl⟩ := List.mem_map.mp hitem
  have htrack : a.1 ∈ QueueRefill.refillTracks st s sweeper :=
    (List.mem_zipIdx' ha).2 ▸ List.getElem_mem _
  unfold QueueRefill.refillTracks BroadcastQueue.interleaveWithJingles at htrack
  dsimp only at htrack
  split_ifs at htrack
  · exact hwithin.ne_of_selectTracks htrack
  · exact hwithin.ne_of_interleave _ (fun _ h => hwithin.ne_of_selectTracks h) _ _ _ htrack

/-- **The refill** adds rows of active tracks to an empty queue. -/
theorem grown_filledUpTo (n : ℕ) (st : ℤ) (s : Engine) : Grown st s (filledUpTo n st s) := by
  unfold filledUpTo
  split_ifs with hsome
  · exact .refl s
  · have hempty : listActiveOrdered st s = [] := by simpa using hsome
    split
    · exact .refl s
    · exact (Grown.refl s).addItems hempty fun item hitem tid htid =>
        refillItems_active (List.mem_of_mem_take hitem) htid

lemma Grown.referred_iff (h : Grown st s t) {j id : ℤ} (hid : RetiredTracks.Inactive id s) :
    Referred j id t ↔ Referred j id s := by
  unfold Referred
  rw [h.program, h.schedule]
  refine or_congr_left ⟨?_, ?_⟩
  · rintro ⟨k, q, hq, hrest⟩
    refine ⟨k, q, (h.new k q hq).resolve_right fun hnew => ?_, hrest⟩
    exact hnew.2.2 id hid hrest.2.2
  · rintro ⟨k, q, hq, hrest⟩
    exact ⟨k, q, h.kept k q hq, hrest⟩

end Refill

end OnAir.LibraryReplacement
