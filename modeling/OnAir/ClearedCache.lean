import Mathlib.Data.Rat.Defs
import Mathlib.Algebra.Order.Ring.Rat
import Mathlib.Tactic.Linarith
import OnAir.Runs

/-!
The cache of announcements that is cleared while others look it up.

A clear takes a time that no file is later than, forgets the announcements in memory, and returns;
the files up to that time are deleted afterwards, one by one. A lookup hits where the audio is still
there, whatever the time of the last clear. It reads first and returns later.

Writes are numbered, and a file remembers the number of its last one.
-/

namespace OnAir.ClearedCache

open Runs

/-! ### The cache -/

/-- The files of an announcement, by its cache key. -/
inductive Path
  | audio (key : String)
  | metadata (key : String)
  deriving DecidableEq, Repr

/-- A file; of the metadata the fields that are looked at. -/
structure File where
  index : ℕ
  mtime : ℚ
  dedupeKey : String
  provider : String
  deriving DecidableEq, Repr

/-- A call of `clear_cache` that has not returned. -/
structure Clear where
  index : ℕ
  cutoff : ℚ
  forgot : Bool
  deriving DecidableEq, Repr

/-- The deletion of a clear that has returned, with the files it has not deleted. -/
structure Deletion where
  index : ℕ
  cutoff : ℚ
  left : List Path
  deriving DecidableEq, Repr

/-- The lookups: `_load_cached_announcement`, which asks the memory and then the files, those of the
prefetch and that of the worker. -/
inductive Lookup
  | memory (key : String)
  | file (key : String)
  | prefetched (dedupeKey provider key : String)
  | worker (dedupeKey provider key : String)
  deriving DecidableEq, Repr

def Lookup.key : Lookup → String
  | .memory k | .file k | .prefetched _ _ k | .worker _ _ k => k

/-- A lookup that has hit, the last write of the files of its announcement, and how many clears had
returned. -/
structure Flight where
  lookup : Lookup
  index : ℕ
  cleared : ℕ
  deriving DecidableEq, Repr

structure State where
  files : List (Path × File)
  memory : List String
  writes : ℕ
  clears : List Clear
  deletions : List Deletion
  flights : List Flight
  /-- an announcement was returned whose files were all written before a clear that has returned -/
  stale : Bool
  deriving DecidableEq, Repr

def initial : State := ⟨[], [], 0, [], [], [], false⟩

/-- `_latest_cache_file_mtime`. -/
def latestCacheFileMtime (files : List (Path × File)) : ℚ :=
  (files.map (·.2.mtime)).foldr max 0

/-- A lookup finds its announcement, whose audio it then returns. -/
def State.hits (s : State) (l : Lookup) : Option File :=
  let audio := s.files.lookup (.audio l.key)
  match l with
  | .memory k => if k ∈ s.memory then audio else none
  | .file _ => audio
  | .prefetched dedupeKey provider k =>
    (s.files.lookup (.metadata k)).bind fun m =>
      if m.dedupeKey ≠ dedupeKey || provider ≠ "" && m.provider ≠ "" && m.provider ≠ provider then
        none
      else audio
  | .worker dedupeKey provider k =>
    (s.files.lookup (.metadata k)).bind fun m =>
      if m.dedupeKey ≠ dedupeKey || provider ≠ "" && m.provider ≠ provider then none else audio

inductive Event
  /-- the speech is written -/
  | synthesize (key : String) (mtime : ℚ)
  /-- `_store_cached_announcement` -/
  | store (key dedupeKey provider : String) (mtime : ℚ) (ok : Bool)
  | clear (now : ℚ)
  | forget (c : Clear)
  | clearReturns (c : Clear)
  /-- a deletion comes to a file, which can be deleted or not -/
  | delete (d : Deletion) (path : Path) (ok : Bool)
  | look (l : Lookup)
  /-- what was found in the files is put into the memory -/
  | remember (f : Flight)
  | returns (f : Flight)
  deriving DecidableEq, Repr

def State.write (s : State) (path : Path) (mtime : ℚ) (dedupeKey provider : String) : State :=
  { s with
    files := (path, ⟨s.writes, mtime, dedupeKey, provider⟩) :: s.files.filter (·.1 ≠ path)
    writes := s.writes + 1 }

/-- The last write of the files of an announcement. -/
def State.newest (s : State) (key : String) (audio : File) : ℕ :=
  max audio.index ((s.files.lookup (.metadata key)).elim 0 (·.index))

/-- A file that a deletion has come to. -/
def Deletion.done (d : Deletion) (path : Path) : Deletion :=
  { d with left := d.left.filter (· ≠ path) }

def step (s : State) : Event → Option State
  | .synthesize key mtime => some (s.write (.audio key) mtime "" "")
  | .store key dedupeKey provider mtime ok =>
    let s := { s with memory := key :: s.memory }
    some (if ok then s.write (.metadata key) mtime dedupeKey provider else s)
  | .clear now => some { s with
      clears := ⟨s.writes, max now (latestCacheFileMtime s.files + 1 / 1000), false⟩ :: s.clears }
  | .forget c =>
    if c ∈ s.clears ∧ !c.forgot then some { s with
      memory := []
      clears := { c with forgot := true } :: s.clears.erase c }
    else none
  | .clearReturns c =>
    if c ∈ s.clears ∧ c.forgot then some { s with
      clears := s.clears.erase c
      deletions := ⟨c.index, c.cutoff, s.files.map (·.1)⟩ :: s.deletions }
    else none
  | .delete d path ok =>
    if d ∈ s.deletions then
      let old := (s.files.lookup path).any (·.mtime ≤ d.cutoff)
      if old && !ok then some s
      else some { s with
        files := if old then s.files.filter (·.1 ≠ path) else s.files
        deletions := s.deletions.replace d (d.done path) }
    else none
  | .look l => (s.hits l).map fun f => { s with
      flights := ⟨l, s.newest l.key f, s.deletions.length⟩ :: s.flights }
  | .remember f =>
    match f.lookup with
    | .file key => if f ∈ s.flights then some { s with memory := key :: s.memory } else none
    | _ => none
  | .returns f =>
    if f ∈ s.flights then some { s with
      flights := s.flights.erase f
      stale := s.stale || s.deletions.any (f.index < ·.index) }
    else none

/-! ### Cleared announcements -/

/-- A lookup hits only audio that no deletion has still to come to or could not delete, and returns
before the next clear does. -/
def Sound (s : State) : Event → Prop
  | .look l => ∀ d ∈ s.deletions, .audio l.key ∉ d.left
  | .returns f => f.cleared = s.deletions.length
  | _ => True

instance decidableSound : ∀ (s : State) (e : Event), Decidable (Sound s e)
  | s, .look l => inferInstanceAs (Decidable (∀ d ∈ s.deletions, .audio l.key ∉ d.left))
  | s, .returns f => inferInstanceAs (Decidable (f.cleared = s.deletions.length))
  | _, .synthesize .. | _, .store .. | _, .clear _ | _, .forget _ | _, .clearReturns _
  | _, .delete .. | _, .remember _ => isTrue trivial

/-- What a clear has to do with a file that was written before. -/
structure Invariant (s : State) : Prop where
  keys : (s.files.map Prod.fst).Nodup
  clears : ∀ c ∈ s.clears, ∀ f ∈ s.files, f.2.index < c.index → f.2.mtime ≤ c.cutoff
  deletions : ∀ d ∈ s.deletions, ∀ f ∈ s.files, f.2.index < d.index →
    f.2.mtime ≤ d.cutoff ∧ f.1 ∈ d.left
  future : (∀ c ∈ s.clears, c.index ≤ s.writes) ∧ ∀ d ∈ s.deletions, d.index ≤ s.writes
  flights : ∀ f ∈ s.flights, f.cleared ≤ s.deletions.length ∧
    (f.cleared = s.deletions.length → ∀ d ∈ s.deletions, d.index ≤ f.index)
  kept : s.stale = false

lemma le_latestCacheFileMtime {files : List (Path × File)} {f : Path × File} (hf : f ∈ files) :
    f.2.mtime ≤ latestCacheFileMtime files := by
  induction files with
  | nil => cases hf
  | cons g files ih =>
    rcases List.mem_cons.mp hf with rfl | hf
    · exact le_max_left _ _
    · exact (ih hf).trans (le_max_right _ _)

lemma mem_of_lookup {files : List (Path × File)} {path : Path} {f : File}
    (h : files.lookup path = some f) : (path, f) ∈ files := by
  obtain ⟨l₁, l₂, rfl, -⟩ := List.lookup_eq_some_iff.mp h
  simp

lemma lookup_of_mem {files : List (Path × File)} (hk : (files.map Prod.fst).Nodup)
    {f : Path × File} (hf : f ∈ files) : files.lookup f.1 = some f.2 := by
  induction files with
  | nil => cases hf
  | cons g files ih =>
    rw [List.map_cons, List.nodup_cons] at hk
    rcases List.mem_cons.mp hf with rfl | hf
    · exact List.lookup_cons_self
    · have hne : f.1 ≠ g.1 := fun he => hk.1 (he ▸ List.mem_map_of_mem hf)
      rw [List.lookup_cons, beq_eq_false_iff_ne.mpr hne]
      exact ih hk.2 hf

lemma mem_replace {ds : List Deletion} {d d' e : Deletion} (h : e ∈ ds.replace d d') :
    e = d' ∨ e ∈ ds := by
  induction ds with
  | nil => exact .inr h
  | cons a ds ih =>
    rw [List.replace_cons] at h
    split at h
    · exact (List.mem_cons.mp h).imp_right (List.mem_cons_of_mem _)
    · rcases List.mem_cons.mp h with rfl | h
      · exact .inr List.mem_cons_self
      · exact (ih h).imp_right (List.mem_cons_of_mem _)

/-- The audio that a lookup hits. -/
lemma audio_of_hits {s : State} {l : Lookup} {f : File} (h : s.hits l = some f) :
    (.audio l.key, f) ∈ s.files := by
  refine mem_of_lookup ?_
  unfold State.hits Lookup.key at *
  cases l <;> simp only [Option.bind_eq_some_iff] at h ⊢
  case memory k => split_ifs at h; exact h
  case file k => exact h
  all_goals
    obtain ⟨m, -, h⟩ := h
    split_ifs at h
    exact h

namespace Invariant

variable {s t : State}

lemma initial : Invariant initial := ⟨by simp [ClearedCache.initial], nofun, nofun, ⟨nofun, nofun⟩,
  nofun, rfl⟩

lemma withMemory (h : Invariant s) (memory : List String) : Invariant { s with memory } :=
  ⟨h.keys, h.clears, h.deletions, h.future, h.flights, h.kept⟩

/-- What is written has a number that no clear is waiting for. -/
lemma write (h : Invariant s) (path : Path) (mtime : ℚ) (dedupeKey provider : String) :
    Invariant (s.write path mtime dedupeKey provider) := by
  have hold : ∀ f ∈ (s.write path mtime dedupeKey provider).files, f.2.index = s.writes ∨
      f ∈ s.files := by
    intro f hf
    rcases List.mem_cons.mp hf with rfl | hf
    · exact .inl rfl
    · exact .inr (List.mem_filter.mp hf).1
  constructor
  case keys =>
    have hkeys := h.keys.sublist ((List.filter_sublist (p := fun f => f.1 ≠ path)).map Prod.fst)
    refine List.nodup_cons.mpr ⟨fun hp => ?_, hkeys⟩
    obtain ⟨f, hf, hfp⟩ := List.mem_map.mp hp
    simp [hfp] at hf
  case clears =>
    intro c hc f hf hlt
    rcases hold f hf with he | hf
    · exact absurd hlt (he ▸ (h.future.1 c hc).not_gt)
    · exact h.clears c hc f hf hlt
  case deletions =>
    intro d hd f hf hlt
    rcases hold f hf with he | hf
    · exact absurd hlt (he ▸ (h.future.2 d hd).not_gt)
    · exact h.deletions d hd f hf hlt
  case future =>
    exact ⟨fun c hc => (h.future.1 c hc).trans (Nat.le_succ _),
      fun d hd => (h.future.2 d hd).trans (Nat.le_succ _)⟩
  case flights => exact h.flights
  case kept => exact h.kept

/-- A clear takes a time that no file is later than. -/
lemma clear (h : Invariant s) (now : ℚ) :
    Invariant { s with
      clears := ⟨s.writes, max now (latestCacheFileMtime s.files + 1 / 1000), false⟩ ::
        s.clears } := by
  refine ⟨h.keys, fun c hc f hf hlt => ?_, h.deletions, ⟨fun c hc => ?_, h.future.2⟩, h.flights,
    h.kept⟩
  · rcases List.mem_cons.mp hc with rfl | hc
    · have hle := le_latestCacheFileMtime hf
      exact le_max_of_le_right (by linarith)
    · exact h.clears c hc f hf hlt
  · rcases List.mem_cons.mp hc with rfl | hc
    · exact le_rfl
    · exact h.future.1 c hc

lemma forget (h : Invariant s) {c : Clear} (hc : c ∈ s.clears) :
    Invariant { s with memory := [], clears := { c with forgot := true } :: s.clears.erase c } := by
  have hall : ∀ e ∈ ({ c with forgot := true } : Clear) :: s.clears.erase c,
      ∃ e' ∈ s.clears, e.index = e'.index ∧ e.cutoff = e'.cutoff := by
    intro e he
    rcases List.mem_cons.mp he with rfl | he
    · exact ⟨c, hc, rfl, rfl⟩
    · exact ⟨e, List.mem_of_mem_erase he, rfl, rfl⟩
  refine ⟨h.keys, fun e he f hf hlt => ?_, h.deletions, ⟨fun e he => ?_, h.future.2⟩, h.flights,
    h.kept⟩
  · obtain ⟨e', he', hi, hcut⟩ := hall e he
    exact hcut ▸ h.clears e' he' f hf (hi ▸ hlt)
  · obtain ⟨e', he', hi, -⟩ := hall e he
    exact hi ▸ h.future.1 e' he'

/-- The deletion of a clear that returns has all files before it. -/
lemma clearReturns (h : Invariant s) {c : Clear} (hc : c ∈ s.clears) :
    Invariant { s with
      clears := s.clears.erase c
      deletions := ⟨c.index, c.cutoff, s.files.map Prod.fst⟩ :: s.deletions } := by
  refine ⟨h.keys, fun e he => h.clears e (List.mem_of_mem_erase he), fun d hd f hf hlt => ?_,
    ⟨fun e he => h.future.1 e (List.mem_of_mem_erase he), fun d hd => ?_⟩, fun f hf => ?_, h.kept⟩
  · rcases List.mem_cons.mp hd with rfl | hd
    · exact ⟨h.clears c hc f hf hlt, List.mem_map_of_mem hf⟩
    · exact h.deletions d hd f hf hlt
  · rcases List.mem_cons.mp hd with rfl | hd
    · exact h.future.1 c hc
    · exact h.future.2 d hd
  · have hle := (h.flights f hf).1
    dsimp only [List.length_cons]
    exact ⟨hle.trans (Nat.le_succ _), fun he => by omega⟩

/-- A deletion that has come to a path leaves no file there that was written before. -/
lemma delete (h : Invariant s) {d : Deletion} (hd : d ∈ s.deletions) (path : Path) :
    Invariant { s with
      files := if (s.files.lookup path).any (·.mtime ≤ d.cutoff) then
        s.files.filter (·.1 ≠ path) else s.files
      deletions := s.deletions.replace d (d.done path) } := by
  have hsub : List.Sublist (if (s.files.lookup path).any (·.mtime ≤ d.cutoff) then
      s.files.filter (·.1 ≠ path) else s.files) s.files := by
    split_ifs
    · exact List.filter_sublist
    · exact List.Sublist.refl _
  have hgone : ∀ f ∈ (if (s.files.lookup path).any (·.mtime ≤ d.cutoff) then
      s.files.filter (·.1 ≠ path) else s.files), f.2.mtime ≤ d.cutoff → f.1 ≠ path := by
    rintro f hf hle rfl
    rw [lookup_of_mem h.keys (hsub.subset hf)] at hf
    simp [hle] at hf
  refine ⟨h.keys.sublist (hsub.map _), fun c hc f hf => h.clears c hc f (hsub.subset hf),
    fun e he f hf hlt => ?_, ⟨h.future.1, fun e he => ?_⟩, fun f hf => ?_, h.kept⟩
  · rcases mem_replace he with rfl | he
    · obtain ⟨hle, hleft⟩ := h.deletions d hd f (hsub.subset hf) hlt
      exact ⟨hle, List.mem_filter.mpr ⟨hleft, by simpa using hgone f hf hle⟩⟩
    · exact h.deletions e he f (hsub.subset hf) hlt
  · rcases mem_replace he with rfl | he
    · exact h.future.2 d hd
    · exact h.future.2 e he
  · obtain ⟨hle, hstands⟩ := h.flights f hf
    refine ⟨hle.trans_eq List.length_replace.symm, fun hlen e he => ?_⟩
    have hstands := hstands (hlen.trans List.length_replace)
    rcases mem_replace he with rfl | he
    · exact hstands d hd
    · exact hstands e he

/-- What a lookup hits was written after every clear that has returned. -/
lemma look (h : Invariant s) {l : Lookup} {f : File} (hs : Sound s (.look l))
    (hf : s.hits l = some f) :
    Invariant { s with flights := ⟨l, s.newest l.key f, s.deletions.length⟩ :: s.flights } := by
  refine ⟨h.keys, h.clears, h.deletions, h.future, fun e he => ?_, h.kept⟩
  rcases List.mem_cons.mp he with rfl | he
  · refine ⟨le_rfl, fun _ d hd => le_max_of_le_left (Nat.le_of_not_lt fun hlt => ?_)⟩
    exact hs d hd (h.deletions d hd _ (audio_of_hits hf) hlt).2
  · exact h.flights e he

lemma returns (h : Invariant s) {f : Flight} (hs : Sound s (.returns f)) (hf : f ∈ s.flights) :
    Invariant { s with
      flights := s.flights.erase f
      stale := s.stale || s.deletions.any (f.index < ·.index) } := by
  refine ⟨h.keys, h.clears, h.deletions, h.future,
    fun e he => h.flights e (List.mem_of_mem_erase he), ?_⟩
  have hstands := (h.flights f hf).2 hs
  simpa [h.kept] using hstands

theorem step {e : Event} (h : Invariant s) (hs : Sound s e) (he : step s e = some t) :
    Invariant t := by
  unfold ClearedCache.step at he
  cases e with
  | synthesize key mtime => exact Option.some.inj he ▸ h.write ..
  | store key dedupeKey provider mtime ok =>
    obtain rfl := Option.some.inj he
    split_ifs
    · exact (h.withMemory _).write ..
    · exact h.withMemory _
  | clear now => exact Option.some.inj he ▸ h.clear now
  | forget c =>
    dsimp only at he
    split_ifs at he with hc
    exact Option.some.inj he ▸ h.forget hc.1
  | clearReturns c =>
    dsimp only at he
    split_ifs at he with hc
    exact Option.some.inj he ▸ h.clearReturns hc.1
  | delete d path ok =>
    dsimp only at he
    split at he
    case isTrue hd =>
      split at he
      · exact Option.some.inj he ▸ h
      · exact Option.some.inj he ▸ h.delete hd path
    case isFalse => cases he
  | look l =>
    obtain ⟨f, hf, rfl⟩ := Option.map_eq_some_iff.mp he
    exact h.look hs hf
  | remember f =>
    dsimp only at he
    split at he
    · split_ifs at he
      exact Option.some.inj he ▸ h.withMemory _
    · cases he
  | returns f =>
    dsimp only at he
    split_ifs at he with hf
    exact Option.some.inj he ▸ h.returns hs hf

end Invariant

/-- **Cleared announcements stay cleared.** In a run whose lookups hit only what no deletion has
still to come to, and return before the next clear does, no announcement is returned whose files
were all written before a clear that had returned. -/
theorem cleared_stays_cleared {events : List Event} {s : State}
    (hm : Meets step Sound initial events) (he : exec step initial events = some s) :
    s.stale = false :=
  (inv_of_exec (fun _ _ _ h hs ht => h.step hs ht) Invariant.initial hm he).kept

theorem cleared_stays_cleared_again :
    let c : Clear := ⟨2, 20, false⟩
    let d : Deletion := ⟨2, 20, [.metadata "k", .audio "k"]⟩
    let events := [.synthesize "k" 10, .store "k" "d" "edge" 11 true, .clear 20, .forget c,
      .clearReturns { c with forgot := true }, .delete d (.audio "k") true,
      .delete (d.done (.audio "k")) (.metadata "k") true, .synthesize "k" 30, .look (.file "k"),
      .returns ⟨.file "k", 2, 1⟩]
    ∃ s : State, exec step initial events = some s ∧ s.stale = false := by
  intro c d events
  have hm : Meets step Sound initial events := by decide +kernel
  obtain ⟨s, he⟩ := Option.isSome_iff_exists.mp
    (by decide +kernel : (exec step initial events).isSome)
  exact ⟨s, he, cleared_stays_cleared hm he⟩

/-- A clear returns before its deletion has begun. -/
theorem cleared_returned :
    ¬∀ (events : List Event) (s : State), exec step initial events = some s → s.stale = false := by
  intro h
  let c : Clear := ⟨2, 20, false⟩
  let l : Lookup := .worker "d" "edge" "k"
  have hrun : (exec step initial [.synthesize "k" 10, .store "k" "d" "edge" 11 true, .clear 20,
      .forget c, .clearReturns { c with forgot := true }, .look l, .returns ⟨l, 1, 1⟩]).map
        (·.stale) = some true := by decide +kernel
  obtain ⟨s, he, hs⟩ := Option.map_eq_some_iff.mp hrun
  exact absurd (h _ s he) (by simp [hs])

end OnAir.ClearedCache
