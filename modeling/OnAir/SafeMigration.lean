import OnAir.LegacyImport

/-!
What a migration leaves behind: where it raises or is a dry run, the content of the target, the
media files and the vault are as they were, and where it replaces the target, nothing that was
committed is lost.

Credentials are stored and media files copied while the import goes on, and the target is staged
and replaced without its log. So a migration is atomic just where its import stores no credential
that the vault does not hold already, copies no media file, and finds no commit in the log.
-/

namespace OnAir.SafeMigration

open OnAir.Database LegacyImport Resumption WeakestPre WriteAheadLog StreamConfigService
  ReplicationApplier

variable {Page ℓ δ : Type} (db : Sqlite Page δ) (fnmatch : String → String → Bool)
  (steps : Steps ℓ δ) (r : Request ℓ)

/-- The committed content of a database. -/
def content (d : LoggedFile Page) : Option (Content δ) := d.image.bind db.read

structure Unchanged (s t : State Page) : Prop where
  content : content db t.target = content db s.target
  media : ∀ p, r.mediaRoot <+: p → t.files.lookup p = s.files.lookup p
  vault : t.vault = s.vault

/-- `import_legacy_database`, applied to the content `c`, returns and leaves `c'`. -/
def Imports (s : State Page) (c c' : Content δ) : Prop :=
  ∃ staged, db.read (staged.getD []) = some c ∧ ∃ ws summary t,
    ends (run db) (importLegacyDatabase fnmatch steps r (r.copyMedia && !r.dryRun)) ws
      { s with staged := staged } = some (.ok summary, t) ∧ t.staged.bind db.read = some c'

/-- The target holds the import of all that was committed, and nothing of its old log. -/
structure Replaced (s t : State Page) : Prop where
  content : ∃ c c', content db s.target = some c ∧ content db t.target = some c' ∧
    Imports db fnmatch steps r s c c'
  log : t.target.applied = []

/-- A migration is safe, whatever goes wrong and wherever it does. -/
def Atomic (s : State Page) : Prop :=
  ∀ ws answer t, ends (run db) (migrateLegacyDatabaseSafely fnmatch steps r) ws s =
      some (answer, t) →
    match answer with
    | .ok summary => (r.dryRun = true → Unchanged db r s t) ∧
      (summary.targetReplaced = true → Replaced db fnmatch steps r s t)
    | .error _ => Unchanged db r s t

/-! ### What an import stores and copies -/

def applyAll (es : List (Edit δ)) (c : Content δ) : Content δ := es.foldl (fun c e => e.apply c) c

/-- The edits of `init_db`. -/
def initEdits (c : Content δ) : List (Edit δ) :=
  if steps.isCurrent c then []
  else ⟨none, steps.bootstrap⟩ :: migrateStationCredentials (steps.bootstrap c) ++
    [⟨none, steps.backfill⟩]

def systemEdits (legacy : Legacy ℓ) : List (Edit δ) :=
  (legacy.systemSettings.getD []).map systemSettingEdit

def outputEdits (outputs : Table StationOutput) (legacy : Legacy ℓ) : List (Edit δ) :=
  (settingsByStation (legacy.stationSettings.getD [])).rows.map fun x =>
    outputEdit outputs[x.1]? x.1 x.2

def secretsOf (es : List (Edit δ)) : List (String × String) := es.filterMap (·.secret)

/-- The credentials an import into the content `c` stores. -/
def storedSecrets (c : Content δ) : List (String × String) :=
  secretsOf (initEdits steps c) ++ secretsOf (δ := δ) (systemEdits r.legacy) ++
    secretsOf (δ := δ) (outputEdits (applyAll (initEdits steps c) c).stationOutputs r.legacy)

/-- The media files that are found, and where they are copied to. -/
def copiedMedia (files : Files) : List (Path × Path) :=
  ((r.legacy.tracks.getD []).filter fun row => 0 < row.id).filterMap fun row =>
    (resolveLegacyMediaSource fnmatch files r.legacyRepoRoot row.filePath).map fun source =>
      (source, destinationOf r (stationSlugs (r.legacy.stations.getD [])) row)

/-- A dry run, a target that cannot be read, or an import that stores no new credential, copies
no media file and finds no commit in the log of the target. -/
def Harmless (target : LoggedFile Page) (files : Files) (vault : Vault) : Prop :=
  r.dryRun = true ∨ ∀ c, db.read target.pages = some c →
    (r.copyMedia = true → copiedMedia fnmatch r files = []) ∧
    (∀ x ∈ storedSecrets steps r c, vault x.1 = some x.2) ∧ committed target.log = []

/-- The media files are copied into the media tree, and none onto itself. -/
def Contained (files : Files) : Prop :=
  r.copyMedia = true → ∀ x ∈ copiedMedia fnmatch r files, r.mediaRoot <+: x.2 ∧ x.1 ≠ x.2

/-! ### Rules for the operations -/

section Rules

variable {db fnmatch steps r} {s s₀ t : State Page} {c : Content δ} {ps : List Page}

lemma wp_throwing {α : Type} {o : Op δ (Except Raised α)} {Q : α → State Page → Prop}
    {E : Raised → State Page → Prop} : wp (run db) Q E (throwing o) s ↔
    ∀ w a u, run db o w s = some (a, u) → match a with
      | .ok b => Q b u
      | .error e => E e u := by
  unfold throwing
  rw [wp_bind, wp_perform]
  refine forall_congr' fun w => forall_congr' fun a => forall_congr' fun u =>
    imp_congr_right fun _ => ?_
  cases a <;> exact Iff.rfl

lemma wp_attempting {o : Op δ (Except Raised Unit)} {Q : Unit → State Page → Prop}
    {E : Raised → State Page → Prop} (ho : ∀ w, run db o w s = attempting w s t) :
    wp (run db) Q E (throwing o) s ↔ Q () t ∧ E .error s := by
  rw [wp_throwing]
  constructor
  · intro h
    exact ⟨h .ok (.ok ()) t (ho _), h (.failed none) (.error .error) s (ho _)⟩
  · rintro ⟨hQ, hE⟩ w a u hrun
    rw [ho] at hrun
    cases w with
    | ok => cases hrun; exact hQ
    | failed left => cases hrun; exact hE

lemma wp_reading (ps : List Page) {o : Op δ (Except Raised (Content δ))}
    {Q : Content δ → State Page → Prop}
    {E : Raised → State Page → Prop} (ho : ∀ w, run db o w s = reading db w ps s t) :
    wp (run db) Q E (throwing o) s ↔
      (match db.read ps with
        | none => E .malformed s
        | some c => Q c t) ∧ E .error s := by
  rw [wp_throwing]
  have hok := ho .ok
  have hfailed : ∀ left, run db o (.failed left) s = some (.error .error, s) := fun _ => ho _
  cases hread : db.read ps with
  | none =>
    simp only [reading, hread] at hok
    constructor
    · exact fun h => ⟨h .ok _ _ hok, h (.failed none) _ _ (hfailed none)⟩
    · rintro ⟨hm, hE⟩ w a u hrun
      cases w with
      | ok => cases hok.symm.trans hrun; exact hm
      | failed left => cases (hfailed left).symm.trans hrun; exact hE
  | some c =>
    simp only [reading, hread] at hok
    constructor
    · exact fun h => ⟨h .ok _ _ hok, h (.failed none) _ _ (hfailed none)⟩
    · rintro ⟨hQ, hE⟩ w a u hrun
      cases w with
      | ok => cases hok.symm.trans hrun; exact hQ
      | failed left => cases (hfailed left).symm.trans hrun; exact hE

/-- So far nothing that counts has changed. -/
structure Same (s₀ s : State Page) : Prop where
  target : s.target = s₀.target
  files : s.files = s₀.files
  vault : s.vault = s₀.vault
  overridden : s.overridden = false

lemma Same.unchanged (h : Same s₀ s) : Unchanged db r s₀ s where
  content := by rw [h.target]
  media p _ := by rw [h.files]
  vault := h.vault

variable (db) in
/-- The connection after the edits. -/
def edited (es : List (Edit δ)) (s : State Page) : State Page :=
  { s with connection := s.connection.map fun ps => es.foldl (fun ps e => db.exec e.apply ps) ps }

lemma Same.edited (h : Same s₀ s) (es : List (Edit δ)) : Same s₀ (edited db es s) :=
  ⟨h.target, h.files, h.vault, h.overridden⟩

@[simp] lemma edited_nil : edited db [] s = s := by
  simp [edited]

lemma edited_append (es es' : List (Edit δ)) :
    edited db (es ++ es') s = edited db es' (edited db es s) := by
  simp [edited, Function.comp_def]

/-- The connection sees the content `c`. -/
def Sees (db : Sqlite Page δ) (s : State Page) (c : Content δ) : Prop :=
  ∃ ps, s.connection = some ps ∧ db.read ps = some c

lemma Sees.edited (h : Sees db s c) (es : List (Edit δ)) :
    Sees db (edited db es s) (applyAll es c) := by
  induction es generalizing s c with
  | nil => simpa [applyAll] using h
  | cons e es ih =>
    obtain ⟨ps, hps, hread⟩ := h
    have hone : Sees db (SafeMigration.edited db [e] s) (e.apply c) :=
      ⟨db.exec e.apply ps, by simp [SafeMigration.edited, hps], db.read_exec hread⟩
    have := ih hone
    rwa [← edited_append] at this

section Statements

variable {E : Raised → State Page → Prop} {Q : Unit → State Page → Prop}

lemma wp_execute {f : Content δ → Content δ} : wp (run db) Q E (execute f) s ↔
    Q () (edited db [⟨none, f⟩] s) ∧ E .error s :=
  wp_attempting fun _ => rfl

lemma wp_attempt (h : Same s₀ s) :
    wp (run db) Q (fun _ => Unchanged db r s₀) attempt s ↔ Q () s := by
  rw [attempt, wp_attempting (t := s) fun _ => rfl]
  exact and_iff_left h.unchanged

lemma store_eq_self {v : Vault} {reference secret : String} :
    store v reference secret = v ↔ v reference = some secret := by
  constructor
  · intro h
    rw [← h]
    simp [store]
  · intro h
    funext x
    unfold store
    split_ifs with hx
    · rw [hx, h]
    · rfl

lemma wp_query (h : Same s₀ s) (hc : Sees db s c) {Q : Content δ → State Page → Prop} :
    wp (run db) Q (fun _ => Unchanged db r s₀) (throwing .query) s ↔ Q c s := by
  obtain ⟨ps, hps, hread⟩ := hc
  rw [wp_reading ps (t := s) fun w => by simp [run, hps], hread]
  exact and_iff_left h.unchanged

/-- An edit is harmless just where the vault holds its credential. -/
lemma wp_runEdit (h : Same s₀ s) (e : Edit δ) :
    wp (run db) Q (fun _ => Unchanged db r s₀) (runEdit e) s ↔
      (∀ x ∈ e.secret, s₀.vault x.1 = some x.2) ∧ Q () (edited db [e] s) := by
  obtain ⟨secret, apply⟩ := e
  cases secret with
  | none =>
    rw [show runEdit ⟨none, apply⟩ = execute apply from rfl, wp_execute]
    simpa using fun _ => h.unchanged
  | some x =>
    obtain ⟨reference, secret⟩ := x
    change wp (run db) Q _ (throwing (.storeSecret reference secret) >>= fun _ =>
      execute apply) s ↔ _
    have hstore : ∀ w, run db (.storeSecret reference secret : Op δ _) w s =
        attempting w s { s with vault := store s.vault reference secret } := fun w => by
      simp [run, h.overridden]
    rw [wp_bind, wp_attempting hstore, wp_execute]
    constructor
    · rintro ⟨⟨hQ, hE⟩, -⟩
      have hvault : store s.vault reference secret = s.vault := hE.vault.trans h.vault.symm
      rw [hvault] at hQ
      refine ⟨fun x hx => ?_, hQ⟩
      cases hx
      rw [← h.vault]
      exact store_eq_self.mp hvault
    · rintro ⟨hx, hQ⟩
      have hvault : store s.vault reference secret = s.vault :=
        store_eq_self.mpr (h.vault ▸ hx (reference, secret) rfl)
      rw [hvault]
      exact ⟨⟨hQ, h.unchanged⟩, h.unchanged⟩

lemma held_cons {v : Vault} (e : Edit δ) (es : List (Edit δ)) :
    (∀ x ∈ secretsOf (e :: es), v x.1 = some x.2) ↔
      (∀ x ∈ e.secret, v x.1 = some x.2) ∧ ∀ x ∈ secretsOf es, v x.1 = some x.2 := by
  cases hs : e.secret with
  | none => simp [secretsOf, List.filterMap_cons_none hs]
  | some x => simp [secretsOf, List.filterMap_cons_some hs]

lemma wp_runEdits (h : Same s₀ s) (es : List (Edit δ)) :
    wp (run db) Q (fun _ => Unchanged db r s₀) (runEdits es) s ↔
      (∀ x ∈ secretsOf es, s₀.vault x.1 = some x.2) ∧ Q () (edited db es s) := by
  induction es generalizing s with
  | nil => simp [runEdits, secretsOf]
  | cons e es ih =>
    rw [runEdits, wp_bind, wp_runEdit h, ih (h.edited [e]), ← edited_append]
    rw [held_cons, and_assoc]
    exact Iff.rfl

end Statements

/-! ### Rules for the parts of the import -/

section Parts

variable {Q : State Page → Prop}

/-- The staged database is opened. -/
def connected (s : State Page) : State Page := { s with connection := some (s.staged.getD []) }

lemma Same.connected (h : Same s₀ s) : Same s₀ (connected s) :=
  ⟨h.target, h.files, h.vault, h.overridden⟩

lemma wp_initDb (h : Same s₀ s) (hc : db.read (s.staged.getD []) = some c) :
    wp (run db) (fun _ => Q) (fun _ => Unchanged db r s₀) (initDb steps) s ↔
      (∀ x ∈ secretsOf (initEdits steps c), s₀.vault x.1 = some x.2) ∧
        Q (edited db (initEdits steps c) (connected s)) := by
  have hsame := h.connected
  have hsees : Sees db (connected s) c := ⟨_, rfl, hc⟩
  rw [initDb, wp_bind, wp_reading (s.staged.getD []) (t := connected s) fun _ => rfl, hc]
  simp only [and_iff_left h.unchanged, initEdits]
  split_ifs with hcurrent
  · simp [secretsOf]
  · have hboot : Same s₀ (edited db [⟨none, steps.bootstrap⟩] (connected s)) := hsame.edited _
    have hquery := hsees.edited [⟨none, steps.bootstrap⟩]
    rw [wp_bind, wp_attempt hsame, wp_bind, wp_execute, and_iff_left hsame.unchanged, wp_bind,
      wp_query hboot hquery, wp_bind, wp_runEdits hboot, wp_execute,
      and_iff_left (hboot.edited _).unchanged, ← edited_append, ← edited_append]
    simp [secretsOf, applyAll]

lemma secretsOf_of_none {es : List (Edit δ)} (h : ∀ e ∈ es, e.secret = none) :
    secretsOf es = [] :=
  List.filterMap_eq_nil_iff.mpr h

lemma wp_quietEdits (h : Same s₀ s) {es : List (Edit δ)} (hes : ∀ e ∈ es, e.secret = none) :
    wp (run db) (fun _ => Q) (fun _ => Unchanged db r s₀) (runEdits es) s ↔
      Q (edited db es s) := by
  rw [wp_runEdits h, secretsOf_of_none hes]
  simp

lemma stationEdits_quiet (rows : List LegacyStation) :
    ∀ e ∈ stationEdits (δ := δ) rows, e.secret = none := by
  intro e he
  obtain ⟨row, -, rfl⟩ := List.mem_map.mp he
  rfl

lemma wp_importStations (h : Same s₀ s) {Q : Table String → State Page → Prop} :
    wp (run db) Q (fun _ => Unchanged db r s₀) (importStations r.legacy) s ↔
      Q (stationSlugs (r.legacy.stations.getD []))
        (edited db (stationEdits (r.legacy.stations.getD [])) s) := by
  rw [importStations, wp_bind, wp_attempt h, wp_bind]
  exact wp_quietEdits h (stationEdits_quiet _)

def restEdit (f : ℓ → δ → δ) (legacy : Legacy ℓ) : Edit δ where
  secret := none
  apply c := { c with rest := f legacy.rest c.rest }

lemma wp_importRest (h : Same s₀ s) (f : ℓ → δ → δ) :
    wp (run db) (fun _ => Q) (fun _ => Unchanged db r s₀) (importRest f r.legacy) s ↔
      Q (edited db [restEdit f r.legacy] s) := by
  rw [importRest, wp_bind, wp_attempt h, wp_execute]
  exact and_iff_left h.unchanged

lemma wp_importSystemSettings (h : Same s₀ s) :
    wp (run db) (fun _ => Q) (fun _ => Unchanged db r s₀) (importSystemSettings r.legacy) s ↔
      (∀ x ∈ secretsOf (δ := δ) (systemEdits r.legacy), s₀.vault x.1 = some x.2) ∧
        Q (edited db (systemEdits r.legacy) s) := by
  rw [importSystemSettings, wp_bind, wp_attempt h]
  exact wp_runEdits h _

def stationSettingEdits (legacy : Legacy ℓ) : List (Edit δ) :=
  (legacy.stationSettings.getD []).map stationSettingEdit

lemma stationSettingEdits_quiet (legacy : Legacy ℓ) :
    ∀ e ∈ stationSettingEdits (δ := δ) legacy, e.secret = none := by
  intro e he
  obtain ⟨row, -, rfl⟩ := List.mem_map.mp he
  rfl

lemma wp_importStationSettings (h : Same s₀ s) {Q : Table Settings → State Page → Prop} :
    wp (run db) Q (fun _ => Unchanged db r s₀) (importStationSettings r.legacy) s ↔
      Q (settingsByStation (r.legacy.stationSettings.getD []))
        (edited db (stationSettingEdits r.legacy) s) := by
  rw [importStationSettings, wp_bind, wp_attempt h, wp_bind]
  exact wp_quietEdits h (stationSettingEdits_quiet _)

/-- What `upsert` does for one station is nothing to another one. -/
lemma outputEdit_other {existing : Option StationOutput} {st st' : ℤ} {settings : Settings}
    (hne : st' ≠ st) (c : Content δ) :
    ((outputEdit existing st settings).apply c).stationOutputs[st']? = c.stationOutputs[st']? := by
  change (c.stationOutputs.insert st _)[st']? = _
  rw [Table.lookup_insert, if_neg hne]

lemma wp_importStationOutputs {rows : List (ℤ × Settings)} {outputs : Table StationOutput}
    (h : Same s₀ s) (hc : Sees db s c) (hrows : (rows.map (·.1)).Nodup)
    (hout : ∀ x ∈ rows, c.stationOutputs[x.1]? = outputs[x.1]?) :
    wp (run db) (fun _ => Q) (fun _ => Unchanged db r s₀) (importStationOutputs rows) s ↔
      (∀ x ∈ secretsOf (δ := δ) (rows.map fun x => outputEdit outputs[x.1]? x.1 x.2),
        s₀.vault x.1 = some x.2) ∧
        Q (edited db (rows.map fun x => outputEdit outputs[x.1]? x.1 x.2) s) := by
  induction rows generalizing s c with
  | nil => simp [importStationOutputs, secretsOf]
  | cons x rows ih =>
    obtain ⟨st, settings⟩ := x
    obtain ⟨hst, hrows⟩ := List.nodup_cons.mp hrows
    have hhere : c.stationOutputs[st]? = outputs[st]? := hout (st, settings) (by simp)
    have hlater : ∀ x ∈ rows,
        ((outputEdit outputs[st]? st settings).apply c).stationOutputs[x.1]? =
          outputs[x.1]? := by
      intro x hx
      have hne : x.1 ≠ st := fun he => hst (List.mem_map.mpr ⟨x, hx, he⟩)
      rw [outputEdit_other hne, hout x (by simp [hx])]
    rw [importStationOutputs, wp_bind, wp_query h hc, hhere, wp_bind, wp_runEdit h, wp_bind,
      wp_attempt (h.edited _), ih (h.edited _) (hc.edited [_]) hrows hlater, ← edited_append]
    rw [List.map_cons, held_cons, and_assoc]
    exact Iff.rfl

/-! ### Tracks -/

section Tracks

variable {copyMedia : Bool} {slugs : Table String} {rows : List LegacyTrack}

/-- Of no track to import, a media file is found. -/
def NothingFound (fnmatch : String → String → Bool) (r : Request ℓ) (files : Files)
    (rows : List LegacyTrack) : Prop :=
  ∀ row ∈ rows, 0 < row.id →
    resolveLegacyMediaSource fnmatch files r.legacyRepoRoot row.filePath = none

lemma nothingFound_iff {files : Files} :
    NothingFound fnmatch r files (r.legacy.tracks.getD []) ↔ copiedMedia fnmatch r files = [] := by
  simp [NothingFound, copiedMedia, List.filterMap_eq_nil_iff]

variable (fnmatch r) in
/-- The path of a track that is imported without its media file. -/
def importedPath (copyMedia : Bool) (slugs : Table String) (files : Files) (row : LegacyTrack) :
    String :=
  match resolveLegacyMediaSource fnmatch files r.legacyRepoRoot row.filePath with
  | none => if copyMedia then (destinationOf r slugs row).text else row.filePath
  | some source => source.text

variable (fnmatch r) in
def trackEdits (copyMedia : Bool) (slugs : Table String) (files : Files)
    (rows : List LegacyTrack) : List (Edit δ) :=
  (rows.filter fun row => 0 < row.id).map fun row =>
    trackEdit row (importedPath fnmatch r copyMedia slugs files row)

lemma wp_listFiles {α : Type} {f : Files → Program δ α} {Q : α → State Page → Prop}
    {E : Raised → State Page → Prop} :
    wp (run db) Q E (perform .listFiles >>= f) s ↔ wp (run db) Q E (f s.files) s := by
  rw [wp_bind, wp_perform]
  constructor
  · exact fun h => h .ok s.files s rfl
  · intro h w a u hrun
    cases hrun
    exact h

lemma wp_resolve (slugs : Table String) (h : Same s₀ s) {row : LegacyTrack}
    (hno : copyMedia = true →
      resolveLegacyMediaSource fnmatch s₀.files r.legacyRepoRoot row.filePath = none) :
    ∃ warnings, ∀ Q : String × Bool × List String → State Page → Prop,
      wp (run db) Q (fun _ => Unchanged db r s₀)
          (resolveImportedFilePath fnmatch r copyMedia slugs row) s ↔
        Q (importedPath fnmatch r copyMedia slugs s₀.files row, false, warnings) s := by
  simp only [resolveImportedFilePath, wp_listFiles, h.files, importedPath]
  cases hfound : resolveLegacyMediaSource fnmatch s₀.files r.legacyRepoRoot row.filePath with
  | none => exact ⟨_, fun Q => Iff.rfl⟩
  | some source =>
    have hcopy : copyMedia = false := by
      cases copyMedia with
      | false => rfl
      | true => simp [hfound] at hno
    exact ⟨[], fun Q => by simp [hcopy]⟩

/-- Where no media file is copied, the tracks are edits of the staged database. -/
lemma wp_importTracks (slugs : Table String) (h : Same s₀ s)
    (hno : copyMedia = true → NothingFound fnmatch r s₀.files rows) (done : ℕ × List String) :
    ∃ result, ∀ Q : ℕ × List String → State Page → Prop,
      wp (run db) Q (fun _ => Unchanged db r s₀)
          (importTracks fnmatch r copyMedia slugs rows done) s ↔
        Q result (edited db (trackEdits fnmatch r copyMedia slugs s₀.files rows) s) := by
  induction rows generalizing s done with
  | nil => exact ⟨done, fun Q => by simp [importTracks, trackEdits]⟩
  | cons row rows ih =>
    have hlater : copyMedia = true → NothingFound fnmatch r s₀.files rows :=
      fun hcopy x hx => hno hcopy x (by simp [hx])
    by_cases hid : row.id ≤ 0
    · obtain ⟨result, hresult⟩ := ih h hlater done
      refine ⟨result, fun Q => ?_⟩
      rw [importTracks, if_pos hid, hresult]
      simp [trackEdits, hid]
    · obtain ⟨warnings, hresolve⟩ := wp_resolve slugs h
        fun hcopy => hno hcopy row (by simp) (by omega)
      obtain ⟨result, hresult⟩ := ih (h.edited
        [trackEdit row (importedPath fnmatch r copyMedia slugs s₀.files row)]) hlater
        (done.1 + false.toNat, done.2 ++ warnings)
      refine ⟨result, fun Q => ?_⟩
      have hcons : trackEdits (δ := δ) fnmatch r copyMedia slugs s₀.files (row :: rows) =
          trackEdit row (importedPath fnmatch r copyMedia slugs s₀.files row) ::
            trackEdits fnmatch r copyMedia slugs s₀.files rows := by
        simp [trackEdits, not_le.mp hid]
      rw [importTracks, if_neg hid, wp_bind, hresolve, wp_bind, wp_runEdit h, hresult,
        ← edited_append, hcons]
      exact and_iff_right nofun

lemma isFile_of_mem_rglob {files : Files} {root p : Path} {pattern : String}
    (h : p ∈ rglob fnmatch files root pattern) : isFile files p = true := by
  obtain ⟨⟨q, bytes⟩, hq, rfl⟩ := List.mem_map.mp (List.mem_dedup.mp (List.mem_filter.mp h).1)
  exact List.lookup_isSome_iff.mpr ⟨(q, bytes), hq, by simp⟩

/-- A file that was found is there. -/
lemma isFile_resolve {files : Files} {root source : Path} {raw : String}
    (h : resolveLegacyMediaSource fnmatch files root raw = some source) :
    isFile files source = true := by
  unfold resolveLegacyMediaSource at h
  dsimp only at h
  by_cases htext : PythonText.trim raw = ""
  · rw [if_pos htext] at h
    cases h
  rw [if_neg htext] at h
  split at h
  · rename_i p hp
    cases h
    exact List.find?_some hp
  · split at h
    · rename_i p hp
      cases h
      by_cases hname : (PurePath.ofText (PythonText.trim raw)).name = ""
      · rw [if_pos hname] at hp
        cases hp
      · rw [if_neg hname] at hp
        exact isFile_of_mem_rglob (hp ▸ List.mem_singleton_self source)
    · cases h

/-- A copy that is cut off is a change of the media tree. -/
lemma nothingFound_of_wp (h : Same s₀ s) {Q : ℕ × List String → State Page → Prop}
    (hcont : ∀ row ∈ rows, 0 < row.id → ∀ source,
      resolveLegacyMediaSource fnmatch s₀.files r.legacyRepoRoot row.filePath = some source →
        r.mediaRoot <+: destinationOf r slugs row ∧ source ≠ destinationOf r slugs row)
    (done : ℕ × List String)
    (hwp : wp (run db) Q (fun _ => Unchanged db r s₀)
      (importTracks fnmatch r true slugs rows done) s) : NothingFound fnmatch r s₀.files rows := by
  induction rows generalizing s done with
  | nil => simp [NothingFound]
  | cons row rows ih =>
    have hlater := fun x hx => hcont x (List.mem_cons_of_mem row hx)
    rw [importTracks] at hwp
    split_ifs at hwp with hid
    · have := ih h hlater done hwp
      intro x hx hpos
      rcases List.mem_cons.mp hx with rfl | hx
      · omega
      · exact this x hx hpos
    · cases hfound : resolveLegacyMediaSource fnmatch s₀.files r.legacyRepoRoot row.filePath with
      | none =>
        obtain ⟨warnings, hresolve⟩ := wp_resolve slugs h fun _ => hfound
        rw [wp_bind, hresolve, wp_bind, wp_runEdit h] at hwp
        have := ih (h.edited _) hlater _ hwp.2
        intro x hx hpos
        rcases List.mem_cons.mp hx with rfl | hx
        · exact hfound
        · exact this x hx hpos
      | some source =>
        exfalso
        obtain ⟨hinto, hne⟩ := hcont row (by simp) (by omega) source hfound
        obtain ⟨bytes, hbytes⟩ := Option.isSome_iff_exists.mp (isFile_resolve hfound)
        rw [wp_bind, resolveImportedFilePath, wp_listFiles, h.files, hfound] at hwp
        simp only [if_true, wp_bind, wp_attempt h, wp_throwing] at hwp
        set dest := destinationOf r slugs row with hdest
        obtain ⟨left, hleft⟩ : ∃ left : Bytes, some left ≠ s₀.files.lookup dest := by
          cases hl : s₀.files.lookup dest with
          | none => exact ⟨[], nofun⟩
          | some b => exact ⟨0 :: b, by simp⟩
        have hcut : run db (.copyMedia source dest : Op δ _) (.failed (some left)) s =
            some (.error .error, { s with files := (dest, left) :: s.files }) := by
          simp [run, hne, h.files, hbytes]
        have := (hwp _ _ _ hcut).media dest hinto
        simp only [List.lookup_cons_self] at this
        exact hleft this

end Tracks

/-! ### The import -/

variable (fnmatch steps r) in
/-- The edits up to the tables whose import stores credentials of its own. -/
def earlyEdits (copyMedia : Bool) (files : Files) (c : Content δ) : List (Edit δ) :=
  initEdits steps c ++ stationEdits (r.legacy.stations.getD []) ++
    trackEdits fnmatch r copyMedia (stationSlugs (r.legacy.stations.getD [])) files
      (r.legacy.tracks.getD []) ++ [restEdit steps.playlists r.legacy]

variable (fnmatch steps r) in
/-- The edits of an import that copies no media file. -/
def importEdits (copyMedia : Bool) (files : Files) (c : Content δ) : List (Edit δ) :=
  earlyEdits fnmatch steps r copyMedia files c ++ systemEdits r.legacy ++
    stationSettingEdits r.legacy ++
    outputEdits (applyAll (initEdits steps c) c).stationOutputs r.legacy ++
    [restEdit steps.metadataRules r.legacy, restEdit steps.schedule r.legacy,
      restEdit steps.ads r.legacy]

/-- The last commit. -/
def committedState (s : State Page) : State Page :=
  { s with staged := s.connection, connection := none }

lemma applyAll_append (es es' : List (Edit δ)) (c : Content δ) :
    applyAll (es ++ es') c = applyAll es' (applyAll es c) := List.foldl_append

lemma applyAll_outputs {es : List (Edit δ)}
    (h : ∀ e ∈ es, ∀ c, (e.apply c).stationOutputs = c.stationOutputs) (c : Content δ) :
    (applyAll es c).stationOutputs = c.stationOutputs := by
  induction es generalizing c with
  | nil => rfl
  | cons e es ih =>
    have := ih (fun x hx => h x (by simp [hx])) (e.apply c)
    exact this.trans (h e (by simp) c)

/-- Between the bootstrap and the outputs, no edit is one of the outputs. -/
lemma outputs_before (copyMedia : Bool) (files : Files) (c : Content δ) :
    (applyAll (earlyEdits fnmatch steps r copyMedia files c ++ systemEdits r.legacy ++
      stationSettingEdits r.legacy) c).stationOutputs =
      (applyAll (initEdits steps c) c).stationOutputs := by
  simp only [earlyEdits, List.append_assoc, applyAll_append _ _ c]
  refine applyAll_outputs (fun e he c => ?_) _
  simp only [List.mem_append, List.mem_singleton] at he
  rcases he with he | he | he | he | he
  · obtain ⟨row, -, rfl⟩ := List.mem_map.mp he
    rfl
  · obtain ⟨row, -, rfl⟩ := List.mem_map.mp he
    rfl
  · subst he
    rfl
  · obtain ⟨row, -, rfl⟩ := List.mem_map.mp he
    unfold systemSettingEdit
    dsimp only
    split_ifs <;> rfl
  · obtain ⟨row, -, rfl⟩ := List.mem_map.mp he
    rfl

lemma nodup_stations (t : Table Settings) : (t.rows.map (·.1)).Nodup := by
  rw [List.Nodup, List.pairwise_map]
  exact (Table.rows_sorted t).imp fun hlt => hlt.ne

/-- The state after an import that changed nothing else. -/
def imported (db : Sqlite Page δ) (fnmatch : String → String → Bool) (steps : Steps ℓ δ)
    (r : Request ℓ) (copyMedia : Bool) (c : Content δ) (s : State Page) : State Page :=
  committedState (edited db (importEdits fnmatch steps r copyMedia s.files c) (connected s))

lemma wp_importLegacyDatabase {copyMedia : Bool} (h : Same s₀ s)
    (hc : db.read (s.staged.getD []) = some c)
    (hno : copyMedia = true → NothingFound fnmatch r s₀.files (r.legacy.tracks.getD [])) :
    ∃ summary, ∀ Q : Summary → State Page → Prop,
      wp (run db) Q (fun _ => Unchanged db r s₀)
          (importLegacyDatabase fnmatch steps r copyMedia) s ↔
        (∀ x ∈ storedSecrets steps r c, s₀.vault x.1 = some x.2) ∧
          Q summary (imported db fnmatch steps r copyMedia c s) := by
  have h₁ : Same s₀ (edited db (initEdits steps c) (connected s)) := h.connected.edited _
  have h₂ : Same s₀ (edited db (stationEdits (r.legacy.stations.getD [])) _) := h₁.edited _
  obtain ⟨done, htracks⟩ :=
    wp_importTracks (stationSlugs (r.legacy.stations.getD [])) h₂ hno (0, [])
  have hsees : Sees db (connected s) c := ⟨_, rfl, hc⟩
  refine ⟨importSummary r.legacy (settingsByStation (r.legacy.stationSettings.getD [])) done,
    fun Q => ?_⟩
  rw [importLegacyDatabase, wp_bind, wp_attempt h, wp_bind, wp_initDb h hc, wp_bind,
    wp_attempt h₁, wp_bind, wp_importStations h₁, wp_bind, wp_attempt h₂, wp_bind, htracks,
    wp_bind, wp_importRest (h₂.edited _), wp_bind, wp_importSystemSettings ((h₂.edited _).edited _),
    wp_bind, wp_importStationSettings (((h₂.edited _).edited _).edited _), wp_bind]
  simp only [← edited_append]
  rw [← earlyEdits]
  have hbefore : Same s₀ (edited db (earlyEdits fnmatch steps r copyMedia s₀.files c ++
      systemEdits r.legacy ++ stationSettingEdits r.legacy) (connected s)) := h.connected.edited _
  have hout : ∀ x ∈ (settingsByStation (r.legacy.stationSettings.getD [])).rows,
      (applyAll (earlyEdits fnmatch steps r copyMedia s₀.files c ++ systemEdits r.legacy ++
        stationSettingEdits r.legacy) c).stationOutputs[x.1]? =
        (applyAll (initEdits steps c) c).stationOutputs[x.1]? := fun x _ => by
    rw [outputs_before]
  have hlast : Same s₀ (edited db
      (outputEdits (applyAll (initEdits steps c) c).stationOutputs r.legacy) _) := hbefore.edited _
  rw [wp_importStationOutputs hbefore (hsees.edited _) (nodup_stations _) hout, ← outputEdits,
    wp_bind, wp_importRest hlast, wp_bind, wp_importRest (hlast.edited _), wp_bind,
    wp_importRest ((hlast.edited _).edited _), wp_bind,
    wp_attempting (t := committedState _) fun _ => rfl,
    and_iff_left (((hlast.edited _).edited _).edited _).unchanged, wp_pure]
  simp only [← edited_append, storedSecrets, List.forall_mem_append, and_assoc]
  simp only [imported, h.files, importEdits, List.append_assoc, List.cons_append, List.nil_append]

/-- A staged file that is no database stops the import at once. -/
lemma wp_importLegacyDatabase_malformed {copyMedia : Bool} {Q : Summary → State Page → Prop}
    (h : Same s₀ s) (hc : db.read (s.staged.getD []) = none) :
    wp (run db) Q (fun _ => Unchanged db r s₀)
      (importLegacyDatabase fnmatch steps r copyMedia) s := by
  rw [importLegacyDatabase, wp_bind, wp_attempt h, wp_bind, initDb, wp_bind,
    wp_reading (s.staged.getD []) (t := connected s) fun _ => rfl, hc]
  exact ⟨h.unchanged, h.unchanged⟩

/-- The first media file that is copied can be cut off. -/
lemma copiedMedia_of_wp {Q : Summary → State Page → Prop} (h : Same s₀ s)
    (hc : db.read (s.staged.getD []) = some c) (hcont : Contained fnmatch r s₀.files)
    (hcopy : r.copyMedia = true)
    (hwp : wp (run db) Q (fun _ => Unchanged db r s₀)
      (importLegacyDatabase fnmatch steps r true) s) : copiedMedia fnmatch r s₀.files = [] := by
  have h₁ : Same s₀ (edited db (initEdits steps c) (connected s)) := h.connected.edited _
  have h₂ : Same s₀ (edited db (stationEdits (r.legacy.stations.getD [])) _) := h₁.edited _
  rw [importLegacyDatabase, wp_bind, wp_attempt h, wp_bind, wp_initDb h hc, wp_bind,
    wp_attempt h₁, wp_bind, wp_importStations h₁, wp_bind, wp_attempt h₂, wp_bind] at hwp
  refine nothingFound_iff.mp (nothingFound_of_wp h₂ (fun row hrow hpos source hfound => ?_) _ hwp.2)
  refine hcont hcopy (source, destinationOf r (stationSlugs (r.legacy.stations.getD [])) row) ?_
  exact List.mem_filterMap.mpr
    ⟨row, List.mem_filter.mpr ⟨hrow, by simpa using hpos⟩, by simp [hfound]⟩

end Parts

/-! ### The migration -/

/-- The state once everything temporary is gone. -/
def cleaned (s : State Page) : State Page :=
  { s with
    staged := none
    connection := none
    overridden := false
    temporaryVault := fun _ => none }

lemma unchanged_cleaned : Unchanged db r s₀ (cleaned s) ↔ Unchanged db r s₀ s :=
  ⟨fun h => ⟨h.content, h.media, h.vault⟩, fun h => ⟨h.content, h.media, h.vault⟩⟩

lemma wp_cleanup {Q : Unit → State Page → Prop} {E : Raised → State Page → Prop} :
    wp (run db) Q E (perform .cleanup) s ↔ Q () (cleaned s) := by
  rw [wp_perform]
  constructor
  · exact fun h => h .ok () _ rfl
  · intro h w a u hrun
    cases hrun
    exact h

/-- What is left to show of a migration, once it has made its directories. -/
lemma wp_migrate (h : Same s₀ s) {Q : Summary → State Page → Prop} :
    wp (run db) Q (fun _ => Unchanged db r s₀) (migrateLegacyDatabaseSafely fnmatch steps r) s ↔
      wp (run db) (fun summary t => wp (run db) (fun a t => Q a (cleaned t))
          (fun _ => Unchanged db r s₀)
          (if r.dryRun then pure (stamped r.dryRun summary)
            else publish (stamped r.dryRun summary)) t)
        (fun _ => Unchanged db r s₀) (stageImport fnmatch steps r) s := by
  rw [migrateLegacyDatabaseSafely, wp_bind, wp_attempt h, wp_finallyDo, wp_bind]
  simp only [wp_cleanup, unchanged_cleaned]

lemma wp_whenTargetExists {p : Program δ Unit} {Q : Bool → State Page → Prop}
    {E : Raised → State Page → Prop} : wp (run db) Q E (whenTargetExists p) s ↔
      if s.target.main.isSome then wp (run db) (fun _ => Q true) E p s else Q false s := by
  rw [whenTargetExists, wp_bind, wp_perform]
  have hrun : ∀ w, run db (.targetExists : Op δ Bool) w s = some (s.target.main.isSome, s) :=
    fun _ => rfl
  constructor
  · intro h
    have := h .ok _ _ (hrun .ok)
    split_ifs with hmain
    · rw [if_pos hmain, wp_bind] at this
      exact this
    · rw [if_neg hmain] at this
      exact this
  · intro h w a u hw
    cases (hrun w).symm.trans hw
    split_ifs at h ⊢ with hmain
    · rw [wp_bind]
      exact h
    · exact h

/-- The copy of the target that an import starts from. -/
def stagedState (dryRun : Bool) (s : State Page) : State Page :=
  { s with staged := s.target.main, overridden := dryRun }

lemma wp_overrideVault (hs : s.overridden = false) {dryRun : Bool}
    {Q : Unit → State Page → Prop} {E : Raised → State Page → Prop} :
    wp (run db) Q E (overrideVault dryRun) s ↔ Q () { s with overridden := dryRun } := by
  cases dryRun with
  | false =>
    rw [show ({ s with overridden := false } : State Page) = s by cases s; cases hs; rfl]
    exact Iff.rfl
  | true =>
    constructor
    · exact fun h => h .ok () _ rfl
    · intro h w a u hrun
      cases hrun
      exact h

lemma wp_stageImport (h : Same s₀ s) (hs : s.staged = none) {Q : Summary → State Page → Prop} :
    wp (run db) Q (fun _ => Unchanged db r s₀) (stageImport fnmatch steps r) s ↔
      wp (run db) Q (fun _ => Unchanged db r s₀)
        (importLegacyDatabase fnmatch steps r (r.copyMedia && !r.dryRun))
        (stagedState r.dryRun s) := by
  rw [stageImport, wp_bind, wp_attempt h, wp_bind, wp_whenTargetExists]
  split_ifs with hmain
  · have hstaged : Same s₀ { s with staged := s.target.main } :=
      ⟨h.target, h.files, h.vault, h.overridden⟩
    rw [wp_attempting fun _ => rfl, and_iff_left h.unchanged, wp_bind,
      wp_overrideVault hstaged.overridden]
    exact Iff.rfl
  · have hnone : s.target.main = none := by simpa using hmain
    rw [wp_bind, wp_overrideVault h.overridden]
    have : stagedState r.dryRun s = { s with overridden := r.dryRun } := by
      simp [stagedState, hnone, hs]
    rw [this]

lemma wp_publish (h : Same s₀ s) (summary : Summary) : ∃ backup backedUp,
    ∀ Q : Summary → State Page → Prop,
      wp (run db) Q (fun _ => Unchanged db r s₀) (publish (δ := δ) summary) s ↔
        Q { summary with targetReplaced := true, backedUp := backedUp }
          { s with target := ⟨s.staged, s.target.log⟩, staged := none, backup := backup } := by
  by_cases hmain : s.target.main.isSome
  · refine ⟨s.target.main, true, fun Q => ?_⟩
    have hkept : Same s₀ { s with backup := s.target.main } :=
      ⟨h.target, h.files, h.vault, h.overridden⟩
    rw [publish, wp_bind, wp_whenTargetExists, if_pos hmain, wp_attempting fun _ => rfl,
      and_iff_left h.unchanged, wp_bind, wp_attempting fun _ => rfl, and_iff_left hkept.unchanged]
    exact Iff.rfl
  · refine ⟨s.backup, false, fun Q => ?_⟩
    rw [publish, wp_bind, wp_whenTargetExists, if_neg hmain, wp_bind, wp_attempting fun _ => rfl,
      and_iff_left h.unchanged]
    exact Iff.rfl

lemma atomic_iff_wp : Atomic db fnmatch steps r s ↔
    wp (run db) (fun summary t => (r.dryRun = true → Unchanged db r s t) ∧
        (summary.targetReplaced = true → Replaced db fnmatch steps r s t))
      (fun _ => Unchanged db r s) (migrateLegacyDatabaseSafely fnmatch steps r) s := by
  rw [wp_iff_ends]
  refine forall_congr' fun ws => forall_congr' fun answer => forall_congr' fun t =>
    imp_congr_right fun _ => ?_
  cases answer <;> exact Iff.rfl

/-! ### Dry runs -/

/-- An operation that leaves the target and the media files alone, and the vault once its place
is taken by a temporary one. -/
def Private : {β : Type} → Op δ β → Prop
  | _, .copyMedia _ _ => False
  | _, .replaceTarget => False
  | _, .cleanup => False
  | _, _ => True

structure Redirected (s₀ s : State Page) : Prop where
  target : s.target = s₀.target
  files : s.files = s₀.files
  vault : s.vault = s₀.vault
  overridden : s.overridden = true

lemma Redirected.unchanged (h : Redirected s₀ s) : Unchanged db r s₀ s where
  content := by rw [h.target]
  media p _ := by rw [h.files]
  vault := h.vault

lemma attempting_keeps {u : State Page} {w : LegacyImport.Outcome} {a : Except Raised Unit}
    (hs : Redirected s₀ s) (ht : Redirected s₀ t) (h : attempting w s t = some (a, u)) :
    Redirected s₀ u := by
  cases w with
  | ok => cases h; exact ht
  | failed left => cases h; exact hs

lemma reading_keeps {u : State Page} {w : LegacyImport.Outcome} {a : Except Raised (Content δ)}
    (hs : Redirected s₀ s) (ht : Redirected s₀ t) (h : reading db w ps s t = some (a, u)) :
    Redirected s₀ u := by
  unfold reading at h
  cases w with
  | failed left => cases h; exact hs
  | ok =>
    dsimp only at h
    split at h
    · cases h; exact hs
    · cases h; exact ht

lemma run_keeps {β : Type} (o : Op δ β) (w : LegacyImport.Outcome) (s : State Page) (b : β)
    (u : State Page) (ho : Private o) (hs : Redirected s₀ s) (h : run db o w s = some (b, u)) :
    Redirected s₀ u := by
  obtain ⟨htarget, hfiles, hvault, hover⟩ := id hs
  cases o with
  | attempt => exact attempting_keeps hs hs h
  | targetExists => cases h; exact hs
  | stageTarget =>
    refine attempting_keeps hs ?_ h
    exact ⟨htarget, hfiles, hvault, hover⟩
  | overrideVault => cases h; exact ⟨htarget, hfiles, hvault, rfl⟩
  | connect =>
    refine reading_keeps hs ?_ h
    exact ⟨htarget, hfiles, hvault, hover⟩
  | query => exact reading_keeps hs hs h
  | execute f =>
    refine attempting_keeps hs ?_ h
    exact ⟨htarget, hfiles, hvault, hover⟩
  | commit =>
    refine attempting_keeps hs ?_ h
    exact ⟨htarget, hfiles, hvault, hover⟩
  | listFiles => cases h; exact hs
  | copyMedia source destination => exact ho.elim
  | storeSecret reference secret =>
    refine attempting_keeps hs ?_ h
    rw [if_pos hover]
    exact ⟨htarget, hfiles, hvault, hover⟩
  | backupTarget =>
    refine attempting_keeps hs ?_ h
    exact ⟨htarget, hfiles, hvault, hover⟩
  | replaceTarget => exact ho.elim
  | cleanup => exact ho.elim

lemma performs_throwing {α : Type} {o : Op δ (Except Raised α)} (h : Private o) :
    Performs Private (throwing o) := by
  refine (performs_perform h).bind fun a => ?_
  cases a <;> exact trivial

lemma performs_attempt : Performs Private (attempt : Program δ Unit) := performs_throwing trivial

lemma performs_execute (f : Content δ → Content δ) : Performs Private (execute f) :=
  performs_throwing trivial

lemma performs_query : Performs Private (throwing (.query : Op δ _)) := performs_throwing trivial

lemma performs_runEdit (e : Edit δ) : Performs Private (runEdit e) := by
  unfold runEdit
  split
  · exact performs_execute _
  · refine Performs.bind (performs_throwing ?_) fun _ => performs_execute _
    exact trivial

lemma performs_runEdits (es : List (Edit δ)) : Performs Private (runEdits es) := by
  induction es with
  | nil => exact trivial
  | cons e es ih => exact (performs_runEdit e).bind fun _ => ih

lemma performs_initDb : Performs Private (initDb steps) := by
  refine Performs.bind (performs_throwing ?_) fun c => Performs.ite (fun _ => trivial) fun _ => ?_
  · exact trivial
  · exact performs_attempt.bind fun _ => (performs_execute _).bind fun _ =>
      performs_query.bind fun c => (performs_runEdits _).bind fun _ => performs_execute _

/-- Without `copy_media`, the tracks are imported with no media file. -/
lemma performs_importTracks (slugs : Table String) (rows : List LegacyTrack)
    (done : ℕ × List String) :
    Performs (Private (δ := δ)) (importTracks fnmatch r false slugs rows done) := by
  induction rows generalizing done with
  | nil => exact trivial
  | cons row rows ih =>
    refine Performs.ite (fun _ => ih done) fun _ => Performs.bind ?_ fun a =>
      (performs_runEdit _).bind fun _ => ih _
    refine Performs.bind (performs_perform ?_) fun files => ?_
    · exact trivial
    · split <;> exact trivial

lemma performs_importStationOutputs (rows : List (ℤ × Settings)) :
    Performs (Private (δ := δ)) (importStationOutputs rows) := by
  induction rows with
  | nil => exact trivial
  | cons x rows ih =>
    exact performs_query.bind fun c => (performs_runEdit _).bind fun _ =>
      performs_attempt.bind fun _ => ih

lemma performs_importRest (f : ℓ → δ → δ) (legacy : Legacy ℓ) :
    Performs Private (importRest f legacy) :=
  performs_attempt.bind fun _ => performs_execute _

lemma performs_importLegacyDatabase :
    Performs Private (importLegacyDatabase fnmatch steps r false) := by
  refine performs_attempt.bind fun _ => performs_initDb.bind fun _ => ?_
  refine performs_attempt.bind fun _ => Performs.bind ?_ fun slugs => ?_
  · exact performs_attempt.bind fun _ => (performs_runEdits _).bind fun _ => trivial
  refine performs_attempt.bind fun _ => (performs_importTracks _ _ _).bind fun done => ?_
  refine (performs_importRest _ _).bind fun _ => Performs.bind ?_ fun _ => Performs.bind ?_
    fun settings => ?_
  · exact performs_attempt.bind fun _ => performs_runEdits _
  · exact performs_attempt.bind fun _ => (performs_runEdits _).bind fun _ => trivial
  refine (performs_importStationOutputs _).bind fun _ => (performs_importRest _ _).bind fun _ => ?_
  refine (performs_importRest _ _).bind fun _ => (performs_importRest _ _).bind fun _ => ?_
  refine Performs.bind (performs_throwing ?_) fun _ => ?_
  all_goals exact trivial

/-- **A dry run** leaves everything as it is, wherever it fails. -/
theorem atomic_of_dryRun (hdry : r.dryRun = true) (target : LoggedFile Page) (files : Files)
    (vault : Vault) : Atomic db fnmatch steps r (State.initial target files vault) := by
  have hsame : Same (State.initial target files vault) (State.initial target files vault) :=
    ⟨rfl, rfl, rfl, rfl⟩
  have hstart : Redirected (State.initial target files vault)
      (stagedState true (State.initial target files vault)) := ⟨rfl, rfl, rfl, rfl⟩
  rw [atomic_iff_wp, wp_migrate hsame, wp_stageImport hsame rfl, hdry, Bool.not_true,
    Bool.and_false]
  refine (performs_importLegacyDatabase.wp run_keeps hstart).mono (fun summary t ht => ?_)
    fun _ t ht => ht.unchanged
  exact ⟨fun _ => unchanged_cleaned.mpr ht.unchanged, nofun⟩

/-! ### Migrations that are applied -/

lemma Sees.read_imported {copyMedia : Bool} (hc : db.read (s.staged.getD []) = some c) :
    ∃ ps, (imported db fnmatch steps r copyMedia c s).staged = some ps ∧
      db.read ps = some (applyAll (importEdits fnmatch steps r copyMedia s.files c) c) := by
  have hsees : Sees db (connected s) c := ⟨_, rfl, hc⟩
  exact hsees.edited _

/-- The import has written at least one page. -/
lemma imported_ne_nil {copyMedia : Bool} {ps : List Page}
    (h : (imported db fnmatch steps r copyMedia c s).staged = some ps) : ps ≠ [] := by
  unfold imported importEdits at h
  rw [edited_append] at h
  simp only [edited, committedState, connected, Option.map_some, Option.some.injEq,
    List.foldl_cons, List.foldl_nil] at h
  rw [← h]
  exact db.exec_ne_nil

lemma atomic_of_malformed (happly : r.dryRun = false) (target : LoggedFile Page)
    (files : Files) (vault : Vault) (hc : db.read target.pages = none) :
    Atomic db fnmatch steps r (State.initial target files vault) := by
  have hsame : Same (State.initial target files vault) (State.initial target files vault) :=
    ⟨rfl, rfl, rfl, rfl⟩
  have hstaged : Same (State.initial target files vault)
      (stagedState false (State.initial target files vault)) := ⟨rfl, rfl, rfl, rfl⟩
  rw [atomic_iff_wp, wp_migrate hsame, wp_stageImport hsame rfl, happly]
  exact wp_importLegacyDatabase_malformed hstaged hc

lemma copiedMedia_of_atomic (happly : r.dryRun = false) (target : LoggedFile Page)
    (files : Files) (vault : Vault) (hc : db.read target.pages = some c)
    (hcont : Contained fnmatch r files)
    (h : Atomic db fnmatch steps r (State.initial target files vault)) :
    r.copyMedia = true → copiedMedia fnmatch r files = [] := by
  intro hcopy
  have hsame : Same (State.initial target files vault) (State.initial target files vault) :=
    ⟨rfl, rfl, rfl, rfl⟩
  have hstaged : Same (State.initial target files vault)
      (stagedState false (State.initial target files vault)) := ⟨rfl, rfl, rfl, rfl⟩
  have hwp := (wp_stageImport hsame rfl).mp ((wp_migrate hsame).mp (atomic_iff_wp.mp h))
  rw [happly, hcopy] at hwp
  have hnone := copiedMedia_of_wp hstaged hc hcont hcopy hwp
  exact hnone

lemma atomic_iff_of_applied (happly : r.dryRun = false) (target : LoggedFile Page)
    (files : Files) (vault : Vault) (hc : db.read target.pages = some c)
    (hno : r.copyMedia = true → copiedMedia fnmatch r files = []) :
    Atomic db fnmatch steps r (State.initial target files vault) ↔
      (∀ x ∈ storedSecrets steps r c, vault x.1 = some x.2) ∧ committed target.log = [] := by
  set s₀ := State.initial target files vault with hs₀
  have hsame : Same s₀ s₀ := ⟨rfl, rfl, rfl, rfl⟩
  have hstaged : Same s₀ (stagedState false s₀) := ⟨rfl, rfl, rfl, rfl⟩
  have hfound : r.copyMedia = true →
      NothingFound fnmatch r s₀.files (r.legacy.tracks.getD []) :=
    fun hcopy => nothingFound_iff.mpr (hno hcopy)
  obtain ⟨summary, himport⟩ :=
    @wp_importLegacyDatabase Page ℓ δ db fnmatch steps r _ s₀ c r.copyMedia hstaged hc hfound
  obtain ⟨ps, hps, hread⟩ : ∃ ps,
      (imported db fnmatch steps r r.copyMedia c (stagedState false s₀)).staged = some ps ∧
        db.read ps = some (applyAll (importEdits fnmatch steps r r.copyMedia files c) c) :=
    Sees.read_imported hc
  have hne : ps ≠ [] := imported_ne_nil hps
  have hdone : Same s₀ (imported db fnmatch steps r r.copyMedia c (stagedState false s₀)) :=
    ⟨rfl, rfl, rfl, rfl⟩
  generalize imported db fnmatch steps r r.copyMedia c (stagedState false s₀) = u at *
  generalize applyAll (importEdits fnmatch steps r r.copyMedia files c) c = c' at *
  obtain ⟨backup, backedUp, hpublish⟩ := wp_publish hdone (stamped false summary)
  have htarget : u.target.log = target.log := congrArg LoggedFile.log hdone.target
  have hpages : (LoggedFile.mk u.staged u.target.log).pages = ps := by
    rw [LoggedFile.pages, hps]
    rfl
  rw [atomic_iff_wp, wp_migrate hsame, wp_stageImport hsame rfl, happly, Bool.not_false,
    Bool.and_true]
  constructor
  · intro h
    obtain ⟨hheld, hpub⟩ := (himport _).mp h
    have hlog : (LoggedFile.mk u.staged u.target.log).applied = [] :=
      (((hpublish _).mp hpub).2 rfl).log
    rw [LoggedFile.applied_of_pages (hpages ▸ hne)] at hlog
    exact ⟨hheld, htarget ▸ hlog⟩
  · rintro ⟨hheld, hlog⟩
    have hold : target.applied = [] := LoggedFile.applied_of_committed hlog
    have hnew : (LoggedFile.mk u.staged u.target.log).applied = [] :=
      LoggedFile.applied_of_committed (htarget ▸ hlog)
    have hran := ((himport fun a t => a = summary ∧ t = u).mpr ⟨hheld, rfl, rfl⟩).ran
    refine hran.mono ?_ fun _ _ h => h
    rintro a t ⟨⟨rfl, rfl⟩, ws, hws⟩
    refine (hpublish _).mpr ⟨nofun, fun _ => ⟨⟨c, c', ?_, ?_, ?_⟩, hnew⟩⟩
    · rw [content, hs₀, State.initial, LoggedFile.image_of_applied hold]
      exact hc
    · rw [content, cleaned, LoggedFile.image_of_applied hnew, hpages]
      exact hread
    · refine ⟨s₀.target.main, hc, ws, a, t, ?_, by rw [hps]; exact hread⟩
      rw [happly, Bool.not_false, Bool.and_true]
      exact hws

end Rules

/-! ### Three migrations that are not atomic -/

section Examples

/-- A page holds a table. -/
inductive TablePage
  | stations (t : Table String)
  | tracks (t : Table Track)
  | systemSettings (t : Std.ExtTreeMap String Setting)
  | stationSettings (t : Table (Std.ExtTreeMap String Setting))
  | stationOutputs (t : Table StationOutput)

def tablePages (c : Content Unit) : List TablePage :=
  [.stations c.stations, .tracks c.tracks, .systemSettings c.systemSettings,
    .stationSettings c.stationSettings, .stationOutputs c.stationOutputs]

def readTables : List TablePage → Option (Content Unit)
  | [] => some ⟨∅, ∅, ∅, ∅, ∅, ()⟩
  | [.stations a, .tracks b, .systemSettings c, .stationSettings d, .stationOutputs e] =>
    some ⟨a, b, c, d, e, ()⟩
  | _ => none

/-- A database whose tables fill a page each. -/
def pagedTables : Sqlite TablePage Unit where
  read := readTables
  exec f ps := ((readTables ps).map fun c => tablePages (f c)).getD ps
  read_nil := rfl
  read_exec h := by
    rw [h]
    rfl
  exec_ne_nil {f ps} := by
    cases h : readTables ps with
    | some c => simp [tablePages]
    | none =>
      rintro rfl
      cases h

/-- The schema is up to date, and the other tables of the legacy database are missing. -/
def upToDate : Steps Unit Unit :=
  ⟨fun _ => true, id, id, fun _ => id, fun _ => id, fun _ => id, fun _ => id⟩

def oneStation : Content Unit := ⟨(∅ : Table String).insert 1 "Main Radio", ∅, ∅, ∅, ∅, ()⟩

def onair : LoggedFile TablePage := ⟨some (tablePages oneStation), []⟩

/-- The legacy database holds the password of an administrator. -/
def withPassword : Request Unit where
  legacy := ⟨none, none, some [⟨"rocket_admin_password", "secret", ""⟩], none, ()⟩
  dryRun := false
  copyMedia := false
  mediaRoot := ["onair", "media"]
  legacyRepoRoot := ["legacy"]

/-- It holds a track with a media file. -/
def withTrack : Request Unit where
  legacy := ⟨none, some [⟨1, 1, "/legacy/media/a.mp3", "A", "", "", "", "", 0, 180, "music", "1"⟩],
    none, none, ()⟩
  dryRun := false
  copyMedia := true
  mediaRoot := ["onair", "media"]
  legacyRepoRoot := ["legacy"]

/-- It holds a station. -/
def withStation : Request Unit where
  legacy := ⟨some [⟨3, "Legacy Radio", ""⟩], none, none, none, ()⟩
  dryRun := false
  copyMedia := false
  mediaRoot := ["onair", "media"]
  legacyRepoRoot := ["legacy"]

/-- A second station was added, and that is in the log still. -/
def withLog : LoggedFile TablePage where
  main := some (tablePages oneStation)
  log := [⟨0, .stations (((∅ : Table String).insert 1 "Main Radio").insert 2 "Studio"), some 5⟩]

abbrev start (target : LoggedFile TablePage) (files : Files) : State TablePage :=
  State.initial target files fun _ => none

abbrev AtomicFrom (r : Request Unit) (s : State TablePage) : Prop :=
  Atomic pagedTables (fun pattern name => pattern = name) upToDate r s

def endOf (r : Request Unit) (script : List LegacyImport.Outcome) (s : State TablePage) :
    Option (Except Raised Summary × State TablePage) :=
  ends (run pagedTables) (migrateLegacyDatabaseSafely (fun pattern name => pattern = name)
    upToDate r) script s

/-- A run that raises, and shows what it has changed. -/
lemma not_atomic_of_raised {r : Request Unit} {s : State TablePage} {shows : State TablePage → Bool}
    (script : List LegacyImport.Outcome)
    (hrun : ((endOf r script s).any fun x => !x.1.isOk && shows x.2) = true)
    (hshows : ∀ t, Unchanged pagedTables r s t → shows t = false) : ¬ AtomicFrom r s := by
  intro h
  obtain ⟨⟨answer, t⟩, hends, ht⟩ := (Option.any_eq_true ..).mp hrun
  rw [Bool.and_eq_true] at ht
  have hanswer := h script answer t hends
  cases answer with
  | ok summary => cases ht.1
  | error e => exact Bool.false_ne_true ((hshows t hanswer).symm.trans ht.2)

/-- The operations go well, and the one after them fails. -/
def failingAfter (n : ℕ) : List LegacyImport.Outcome :=
  List.replicate n .ok ++ [.failed none, .ok]

end Examples

end OnAir.SafeMigration
