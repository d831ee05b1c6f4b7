import OnAir.SafeMigration

/-!
The media files of an import: each track gets the path its file was copied to, and the file there
is to be the one of the track.

The destination of a copy comes from the part of the legacy path after a media folder, or else from
the station, the type of the track and the bare name of the file. Two files of one name may so be
copied to one destination, and the later copy takes the place of the earlier one; and where the two
trees overlap, a copy may fall on a file that another track is still to be copied from.
-/

namespace OnAir.ImportedMedia

open LegacyImport Resumption Runs SafeMigration OnAir.Table WeakestPre

/-! ### The copies of an import -/

structure Imported where
  /-- the file that was found -/
  source : Option Path
  destination : Path
  deriving DecidableEq, Repr

structure Media where
  files : Files
  /-- what became of the tracks that have been imported -/
  tracks : Table Imported

/-- Every track that was found has its own file at its destination, and two tracks with different
files have different destinations. -/
structure Unconfused (files : Files) (m : Media) : Prop where
  content : ∀ (id : ℤ) (source destination : Path),
    m.tracks[id]? = some ⟨some source, destination⟩ →
      m.files.lookup destination = files.lookup source
  apart : ∀ (id id' : ℤ) (source source' destination destination' : Path),
    m.tracks[id]? = some ⟨some source, destination⟩ →
      m.tracks[id']? = some ⟨some source', destination'⟩ →
        source ≠ source' → destination ≠ destination'

section Copies

variable {ℓ : Type} (fnmatch : String → String → Bool) (r : Request ℓ) (slugs : Table String)

/-- What the import of a row does to the media; `none` where it raises. -/
def importMedia (m : Media) (row : LegacyTrack) : Option Media :=
  let destination := destinationOf r slugs row
  if row.id ≤ 0 then some m
  else match resolveLegacyMediaSource fnmatch m.files r.legacyRepoRoot row.filePath with
  | none => some { m with tracks := m.tracks.insert row.id ⟨none, destination⟩ }
  | some source =>
    if source = destination then none
    else (m.files.lookup source).map fun bytes =>
      ⟨(destination, bytes) :: m.files, m.tracks.insert row.id ⟨some source, destination⟩⟩

/-- The file of the track has its first content still, and no other track has had another file
copied to the destination. -/
def Spares (files : Files) (m : Media) (row : LegacyTrack) : Prop :=
  0 < row.id → ∀ source,
    resolveLegacyMediaSource fnmatch m.files r.legacyRepoRoot row.filePath = some source →
      m.files.lookup source = files.lookup source ∧
        ∀ (id : ℤ) (source' : Path), id ≠ row.id →
          m.tracks[id]? = some ⟨some source', destinationOf r slugs row⟩ → source' = source

variable {fnmatch r slugs} {files : Files} {m m' : Media} {row : LegacyTrack}

/-- What an import of a row does: nothing, a track without a file, or a copy. -/
lemma importMedia_cases (h : importMedia fnmatch r slugs m row = some m') :
    (row.id ≤ 0 ∧ m' = m) ∨
    (resolveLegacyMediaSource fnmatch m.files r.legacyRepoRoot row.filePath = none ∧
      m' = { m with tracks := m.tracks.insert row.id ⟨none, destinationOf r slugs row⟩ }) ∨
    ∃ source bytes, 0 < row.id ∧
      resolveLegacyMediaSource fnmatch m.files r.legacyRepoRoot row.filePath = some source ∧
      m.files.lookup source = some bytes ∧
      m' = ⟨(destinationOf r slugs row, bytes) :: m.files,
        m.tracks.insert row.id ⟨some source, destinationOf r slugs row⟩⟩ := by
  simp only [importMedia] at h
  split at h
  case isTrue hid => exact .inl ⟨hid, (Option.some.inj h).symm⟩
  case isFalse hid =>
    split at h
    case h_1 hfound => exact .inr (.inl ⟨hfound, (Option.some.inj h).symm⟩)
    case h_2 source hfound =>
      split at h
      case isTrue => cases h
      case isFalse =>
        obtain ⟨bytes, hbytes, rfl⟩ := Option.map_eq_some_iff.mp h
        exact .inr (.inr ⟨source, bytes, not_le.mp hid, hfound, hbytes, rfl⟩)

lemma lookup_copied {p destination : Path} {bytes : Bytes} :
    ((destination, bytes) :: files).lookup p =
      if p = destination then some bytes else files.lookup p := by
  by_cases h : p = destination
  · rw [h, List.lookup_cons_self, if_pos rfl]
  · rw [List.lookup_cons, beq_false_of_ne h, if_neg h]

lemma lookup_tracks {t : Table Imported} {k id : ℤ} {a b : Imported} :
    (t.insert k a)[id]? = some b ↔ (id = k ∧ b = a) ∨ (id ≠ k ∧ t[id]? = some b) := by
  rw [lookup_insert]
  by_cases h : id = k
  · simp [h, eq_comm]
  · simp [h]

/-- A row that spares the others keeps the tracks apart. -/
lemma unconfused_step (hm : Unconfused files m) (hrow : Spares fnmatch r slugs files m row)
    (h : importMedia fnmatch r slugs m row = some m') : Unconfused files m' := by
  obtain ⟨-, rfl⟩ | ⟨-, rfl⟩ | ⟨source, bytes, hid, hfound, hbytes, rfl⟩ := importMedia_cases h
  · exact hm
  · have hold : ∀ (id : ℤ) (source destination : Path),
        (m.tracks.insert row.id ⟨none, destinationOf r slugs row⟩)[id]? =
          some ⟨some source, destination⟩ → m.tracks[id]? = some ⟨some source, destination⟩ := by
      intro id source destination htrack
      obtain ⟨-, heq⟩ | ⟨-, hmem⟩ := lookup_tracks.mp htrack
      · cases heq
      · exact hmem
    exact ⟨fun id source destination htrack => hm.content id _ _ (hold _ _ _ htrack),
      fun id id' source source' _ _ htrack htrack' =>
        hm.apart id id' source source' _ _ (hold _ _ _ htrack) (hold _ _ _ htrack')⟩
  · obtain ⟨hfirst, hothers⟩ := hrow hid source hfound
    refine ⟨fun id source' destination htrack => ?_, ?_⟩
    · rw [lookup_copied]
      obtain ⟨-, heq⟩ | ⟨hne, hmem⟩ := lookup_tracks.mp htrack
      · cases heq
        rw [if_pos rfl, ← hfirst, hbytes]
      · split_ifs with hdest
        · subst hdest
          rw [hothers id source' hne hmem, ← hfirst, hbytes]
        · exact hm.content id source' destination hmem
    · rintro id id' source₁ source₂ destination₁ destination₂ h₁ h₂ hne rfl
      obtain ⟨-, heq₁⟩ | ⟨hid₁, hmem₁⟩ := lookup_tracks.mp h₁
      · cases heq₁
        obtain ⟨-, heq₂⟩ | ⟨hid₂, hmem₂⟩ := lookup_tracks.mp h₂
        · cases heq₂
          exact hne rfl
        · exact hne (hothers id' source₂ hid₂ hmem₂).symm
      · obtain ⟨-, heq₂⟩ | ⟨-, hmem₂⟩ := lookup_tracks.mp h₂
        · cases heq₂
          exact hne (hothers id source₁ hid₁ hmem₁)
        · exact hm.apart id id' _ _ _ _ hmem₁ hmem₂ hne rfl

/-- A row that does not spare the others confuses them at once. -/
lemma spares_of_unconfused (hm' : Unconfused files m')
    (h : importMedia fnmatch r slugs m row = some m') : Spares fnmatch r slugs files m row := by
  intro hid source hfound
  obtain ⟨hle, -⟩ | ⟨hnone, -⟩ | ⟨source', bytes, -, hfound', hbytes, rfl⟩ := importMedia_cases h
  · omega
  · rw [hnone] at hfound
    cases hfound
  · obtain rfl := Option.some.inj (hfound'.symm.trans hfound)
    have hself : (m.tracks.insert row.id ⟨some source', destinationOf r slugs row⟩)[row.id]? =
        some ⟨some source', destinationOf r slugs row⟩ := lookup_tracks.mpr (.inl ⟨rfl, rfl⟩)
    refine ⟨?_, fun id source hne hmem => ?_⟩
    · have hcontent := hm'.content row.id _ _ hself
      rw [lookup_copied, if_pos rfl] at hcontent
      rw [hbytes, hcontent]
    · by_contra hsource
      exact hm'.apart id row.id _ _ _ _ (lookup_tracks.mpr (.inr ⟨hne, hmem⟩)) hself hsource rfl

end Copies

/-! ### The import as a whole -/

variable {Page ℓ δ : Type} {db : Sqlite Page δ} {fnmatch : String → String → Bool}
  {steps : Steps ℓ δ} {r : Request ℓ} {slugs : Table String} {s t : State Page} {files : Files}
  {m : Media} {tracks : Table Imported} {P : Content δ → Prop}

/-- The tracks of a database have the paths of the import. -/
def HasPaths (tracks : Table Imported) (c : Content δ) : Prop :=
  ∀ (id : ℤ) (imported : Imported), tracks[id]? = some imported →
    ∃ track, c.tracks[id]? = some track ∧ track.filePath = imported.destination.text

variable (db) in
/-- What an import leaves: the media files, and the paths in the staged database. -/
structure Leaves (t : State Page) (m : Media) : Prop where
  files : t.files = m.files
  paths : ∃ c, t.staged.bind db.read = some c ∧ HasPaths m.tracks c

variable (db) in
/-- While an import goes on: the media files, and what the connection sees. -/
def During (files : Files) (P : Content δ → Prop) (s : State Page) : Prop :=
  s.files = files ∧ ∃ c, Sees db s c ∧ P c

/-- An operation on the open database that keeps what is known of its content. -/
def Keeps (P : Content δ → Prop) : {β : Type} → Op δ β → Prop
  | _, .execute f => ∀ c, P c → P (f c)
  | _, .attempt | _, .query | _, .storeSecret _ _ => True
  | _, _ => False

lemma attempting_during {u : State Page} {w : LegacyImport.Outcome} {a : Except Raised Unit}
    (hs : During db files P s) (ht : During db files P t) (h : attempting w s t = some (a, u)) :
    During db files P u := by
  cases w with
  | ok => cases h; exact ht
  | failed left => cases h; exact hs

lemma run_during {β : Type} (o : Op δ β) (w : LegacyImport.Outcome) (s : State Page) (b : β)
    (u : State Page) (ho : Keeps P o) (hs : During db files P s)
    (h : run db o w s = some (b, u)) : During db files P u := by
  obtain ⟨hfiles, c, ⟨ps, hps, hread⟩, hc⟩ := id hs
  cases o with
  | execute f =>
    refine attempting_during hs ?_ h
    exact ⟨hfiles, f c, ⟨db.exec f ps, by simp [hps], db.read_exec hread⟩, ho c hc⟩
  | attempt => exact attempting_during hs hs h
  | query =>
    simp only [run, reading] at h
    cases w with
    | failed left => cases h; exact hs
    | ok =>
      dsimp only at h
      split at h <;>
        · cases h
          exact hs
  | storeSecret reference secret =>
    refine attempting_during hs ?_ h
    split <;> exact ⟨hfiles, c, ⟨ps, hps, hread⟩, hc⟩
  | _ => exact ho.elim

/-- A part of the import that only edits the database. -/
lemma wp_keeps {α : Type} {p : Program δ α} (hp : Performs (Keeps P) p)
    (h : During db files P s) :
    wp (run db) (fun _ => During db files P) (fun _ _ => True) p s :=
  (hp.wp (fun o w s b u ho hs hrun => run_during o w s b u ho hs hrun) h).mono
    (fun _ _ hQ => hQ) fun _ _ _ => trivial

lemma wp_keeps_bind {α β : Type} {p : Program δ α} {f : α → Program δ β}
    {Q : β → State Page → Prop} (h : During db files P s) (hp : Performs (Keeps P) p)
    (hf : ∀ a t, During db files P t → wp (run db) Q (fun _ _ => True) (f a) t) :
    wp (run db) Q (fun _ _ => True) (p >>= f) s := by
  rw [wp_bind]
  exact (wp_keeps hp h).mono hf fun _ _ h => h

lemma keeps_throwing {α : Type} {o : Op δ (Except Raised α)} (h : Keeps P o) :
    Performs (Keeps P) (throwing o) :=
  (performs_perform h).bind fun a => by cases a <;> exact trivial

lemma keeps_runEdit {e : Edit δ} (h : ∀ c, P c → P (e.apply c)) :
    Performs (Keeps P) (runEdit e) := by
  have hexecute : Performs (Keeps P) (execute e.apply) := keeps_throwing h
  unfold runEdit
  split
  · exact hexecute
  · refine Performs.bind (keeps_throwing ?_) fun _ => hexecute
    exact trivial

lemma keeps_runEdits {es : List (Edit δ)} (h : ∀ e ∈ es, ∀ c, P c → P (e.apply c)) :
    Performs (Keeps P) (runEdits es) := by
  induction es with
  | nil => exact trivial
  | cons e es ih =>
    exact (keeps_runEdit (h e List.mem_cons_self)).bind
      fun _ => ih fun e' he' => h e' (List.mem_cons_of_mem e he')

lemma keeps_attempt : Performs (Keeps P) (attempt : Program δ Unit) := keeps_throwing trivial

lemma keeps_query : Performs (Keeps P) (throwing (.query : Op δ _)) := keeps_throwing trivial

lemma keeps_importRest (f : ℓ → δ → δ) (legacy : Legacy ℓ)
    (h : ∀ c, P c → P { c with rest := f legacy.rest c.rest }) :
    Performs (Keeps P) (importRest f legacy) :=
  keeps_attempt.bind fun _ => keeps_throwing h

/-- The statements after the tracks leave them alone. -/
lemma HasPaths.of_tracks {c c' : Content δ} (h : HasPaths tracks c)
    (htracks : c'.tracks = c.tracks) : HasPaths tracks c' := by
  intro id imported htrack
  rw [htracks]
  exact h id imported htrack

lemma keeps_edits {es : List (Edit δ)} (h : ∀ e ∈ es, ∀ c, (e.apply c).tracks = c.tracks) :
    Performs (Keeps (HasPaths tracks)) (runEdits es) :=
  keeps_runEdits fun e he c hc => hc.of_tracks (h e he c)

lemma outputEdit_tracks (existing : Option Database.StationOutput) (st : ℤ) (settings : Settings)
    (c : Content δ) : ((outputEdit existing st settings).apply c).tracks = c.tracks := rfl

lemma keeps_importStationOutputs (rows : List (ℤ × Settings)) :
    Performs (Keeps (δ := δ) (HasPaths tracks)) (importStationOutputs rows) := by
  induction rows with
  | nil => exact trivial
  | cons x rows ih =>
    exact keeps_query.bind fun c => (keeps_runEdit fun c hc => hc.of_tracks
      (outputEdit_tracks _ _ _ c)).bind fun _ => keeps_attempt.bind fun _ => ih

lemma keeps_importSystemSettings (legacy : Legacy ℓ) :
    Performs (Keeps (δ := δ) (HasPaths tracks)) (importSystemSettings legacy) := by
  refine keeps_attempt.bind fun _ => keeps_edits fun e he c => ?_
  obtain ⟨row, -, rfl⟩ := List.mem_map.mp he
  unfold systemSettingEdit
  dsimp only
  split <;> rfl

lemma keeps_importStationSettings (legacy : Legacy ℓ) :
    Performs (Keeps (δ := δ) (HasPaths tracks)) (importStationSettings legacy) := by
  refine keeps_attempt.bind fun _ => Performs.bind (keeps_edits fun e he c => ?_) fun _ => trivial
  obtain ⟨row, -, rfl⟩ := List.mem_map.mp he
  rfl

/-- The schema is brought up to date before anything is imported. -/
lemma wp_initDb_opens : wp (run db) (fun _ => During db s.files fun _ => True) (fun _ _ => True)
    (initDb steps) s := by
  rw [initDb, wp_bind, wp_reading (s.staged.getD []) (t := connected s) fun _ => rfl]
  refine ⟨?_, trivial⟩
  cases hread : db.read (s.staged.getD []) with
  | none => trivial
  | some c =>
    have hopen : During db s.files (fun _ => True) (connected s) :=
      ⟨rfl, c, ⟨_, rfl, hread⟩, trivial⟩
    have hexecute : ∀ f : Content δ → Content δ,
        Performs (Keeps fun _ => True) (execute f) := fun f => keeps_throwing fun _ _ => trivial
    refine wp_keeps (Performs.ite (fun _ => trivial) fun _ => ?_) hopen
    exact keeps_attempt.bind fun _ => (hexecute _).bind fun _ => keeps_query.bind fun c =>
      (keeps_runEdits fun _ _ _ _ => trivial).bind fun _ => hexecute _

lemma wp_during_attempt {Q : Unit → State Page → Prop} (h : Q () s) :
    wp (run db) Q (fun _ _ => True) attempt s := by
  rw [attempt, wp_attempting (t := s) fun _ => rfl]
  exact ⟨h, trivial⟩

/-- The path of a track is written into the database. -/
lemma wp_trackEdit {row : LegacyTrack} (imported : Imported) {Q : Unit → State Page → Prop}
    (h : During db files (HasPaths tracks) s)
    (hQ : ∀ t, During db files (HasPaths (tracks.insert row.id imported)) t → Q () t) :
    wp (run db) Q (fun _ _ => True) (runEdit (trackEdit row imported.destination.text)) s := by
  obtain ⟨hfiles, c, hsees, hc⟩ := h
  refine wp_execute.mpr ⟨hQ _ ⟨hfiles, _, hsees.edited [trackEdit row _], ?_⟩, trivial⟩
  intro id imported' htrack
  obtain ⟨rfl, rfl⟩ | ⟨hne, hmem⟩ := lookup_tracks.mp htrack
  · exact ⟨_, (lookup_insert ..).trans (if_pos rfl), rfl⟩
  · obtain ⟨track, hlookup, hpath⟩ := hc id imported' hmem
    exact ⟨track, (lookup_insert ..).trans ((if_neg hne).trans hlookup), hpath⟩

/-- **The loop over the tracks** does to the media files and the paths what `importMedia` says. -/
lemma wp_importTracks_media {rows : List LegacyTrack} (h : During db m.files (HasPaths m.tracks) s)
    (done : ℕ × List String) :
    wp (run db) (fun _ t => ∃ m', exec (importMedia fnmatch r slugs) m rows = some m' ∧
        During db m'.files (HasPaths m'.tracks) t) (fun _ _ => True)
      (importTracks fnmatch r true slugs rows done) s := by
  induction rows generalizing m s done with
  | nil => exact ⟨m, rfl, h⟩
  | cons row rows ih =>
    -- once a row is imported, the others are imported from what it leaves
    have hnext : ∀ (m' : Media) {t} (done : ℕ × List String),
        importMedia fnmatch r slugs m row = some m' → During db m'.files (HasPaths m'.tracks) t →
          wp (run db) (fun _ t => ∃ m', exec (importMedia fnmatch r slugs) m (row :: rows) =
            some m' ∧ During db m'.files (HasPaths m'.tracks) t) (fun _ _ => True)
            (importTracks fnmatch r true slugs rows done) t := by
      intro m' t done hstep ht
      refine (ih ht done).mono (fun _ u => ?_) fun _ _ _ => trivial
      rintro ⟨m'', hexec, hu⟩
      exact ⟨m'', exec_cons_eq_some.mpr ⟨m', hstep, hexec⟩, hu⟩
    rw [importTracks]
    by_cases hid : row.id ≤ 0
    · rw [if_pos hid]
      exact hnext m done (by simp [importMedia, hid]) h
    · rw [if_neg hid, wp_bind, resolveImportedFilePath, wp_listFiles, h.1]
      cases hfound : resolveLegacyMediaSource fnmatch m.files r.legacyRepoRoot row.filePath with
      | none =>
        simp only [if_true, wp_pure, wp_bind]
        refine wp_trackEdit ⟨none, destinationOf r slugs row⟩ h fun t ht => ?_
        refine hnext ⟨m.files, m.tracks.insert row.id ⟨none, _⟩⟩ _ ?_ ht
        simp [importMedia, hid, hfound]
      | some source =>
        simp only [if_true, wp_bind]
        refine wp_during_attempt (wp_throwing.mpr fun w a u hrun => ?_)
        simp only [run, h.1] at hrun
        split at hrun
        · cases hrun
          trivial
        · rename_i hne
          split at hrun
          · cases hrun
            trivial
          · rename_i bytes hbytes
            cases hrun
            refine wp_trackEdit ⟨some source, destinationOf r slugs row⟩ ⟨rfl, h.2⟩
              fun t ht => ?_
            refine hnext ⟨(_, bytes) :: m.files, m.tracks.insert row.id ⟨some source, _⟩⟩ _
              ?_ ht
            simp [importMedia, hid, hfound, hne, hbytes]
          · cases hrun
            trivial
          · cases hrun
            trivial

lemma wp_importLegacyDatabase_media : wp (run db)
    (fun _ t => ∃ m, exec (importMedia fnmatch r (stationSlugs (r.legacy.stations.getD [])))
      ⟨s.files, ∅⟩ (r.legacy.tracks.getD []) = some m ∧ Leaves db t m) (fun _ _ => True)
    (importLegacyDatabase fnmatch steps r true) s := by
  rw [importLegacyDatabase, wp_bind]
  refine wp_during_attempt ?_
  rw [wp_bind]
  refine wp_initDb_opens.mono (fun _ t ht => ?_) fun _ _ h => h
  refine wp_keeps_bind ht keeps_attempt fun _ t ht => ?_
  rw [importStations, wp_bind]
  refine wp_keeps_bind ht keeps_attempt fun _ t ht => ?_
  refine wp_keeps_bind ht (keeps_runEdits fun _ _ _ _ => trivial) fun _ t ht => ?_
  rw [wp_pure]
  refine wp_keeps_bind ht keeps_attempt fun _ t ht => ?_
  -- the tracks, of which none has been imported yet
  obtain ⟨hfiles, c, hsees, -⟩ := ht
  have hnone : During db (⟨s.files, ∅⟩ : Media).files (HasPaths (⟨s.files, ∅⟩ : Media).tracks) t :=
    ⟨hfiles, c, hsees, by simp [HasPaths]⟩
  rw [wp_bind]
  refine (wp_importTracks_media hnone (0, [])).mono (fun done t h => ?_) fun _ _ h => h
  obtain ⟨m, hexec, ht⟩ := h
  -- the other tables
  have hrest : ∀ f : ℓ → δ → δ, Performs (Keeps (HasPaths m.tracks)) (importRest f r.legacy) :=
    fun f => keeps_importRest f r.legacy fun c hc => hc.of_tracks rfl
  refine wp_keeps_bind ht (hrest _) fun _ t ht => ?_
  refine wp_keeps_bind ht (keeps_importSystemSettings _) fun _ t ht => ?_
  refine wp_keeps_bind ht (keeps_importStationSettings _) fun _ t ht => ?_
  refine wp_keeps_bind ht (keeps_importStationOutputs _) fun _ t ht => ?_
  refine wp_keeps_bind ht (hrest _) fun _ t ht => ?_
  refine wp_keeps_bind ht (hrest _) fun _ t ht => ?_
  refine wp_keeps_bind ht (hrest _) fun _ t ht => ?_
  obtain ⟨hfiles, c, ⟨ps, hps, hread⟩, hc⟩ := ht
  rw [wp_bind, wp_attempting (t := { t with staged := t.connection, connection := none })
    fun _ => rfl]
  exact ⟨⟨m, hexec, hfiles, c, by simp [hps, hread], hc⟩, trivial⟩

/-- A pattern without wildcards. -/
def sameName (pattern name : String) : Bool := pattern = name

def song (id : ℤ) (filePath : String) : LegacyTrack :=
  ⟨id, 1, filePath, "", "", "", "", "", 0, 180, "music", "1"⟩

def importing (tracks : List LegacyTrack) : LegacyImport.Request Unit where
  legacy := ⟨none, some tracks, none, none, ()⟩
  dryRun := false
  copyMedia := true
  mediaRoot := ["onair", "media"]
  legacyRepoRoot := ["legacy"]

def twoFolders : Files := [(["srv", "a", "song.mp3"], [1]), (["srv", "b", "song.mp3"], [2])]

/-- The script of a run in which everything goes well. -/
abbrev importOf (tracks : List LegacyTrack) (n : ℕ) :
    Option (Except Raised Summary × State TablePage) :=
  ends (run pagedTables) (importLegacyDatabase sameName upToDate
    (importing tracks) true) (List.replicate n .ok)
    { start onair twoFolders with staged := onair.main }

lemma importOf_returns (tracks : List LegacyTrack) (n : ℕ)
    (h : ((importOf tracks n).any fun x => x.1.isOk) = true) :
    ∃ t ws summary, ends (run pagedTables) (importLegacyDatabase
      sameName upToDate (importing tracks) true) ws
      { start onair twoFolders with staged := onair.main } = some (.ok summary, t) := by
  obtain ⟨⟨answer, t⟩, hends, hok⟩ := (Option.any_eq_true ..).mp h
  cases answer with
  | ok summary => exact ⟨t, _, summary, hends⟩
  | error e => cases hok

end OnAir.ImportedMedia
