import OnAir.FolderSync

/-!
Which files of a folder a sync goes by, where its writes went through.

Of the files of one canonical path the first one is a candidate. A candidate that does not play is
taken out by the path that is displayed of it, which need not be its own. But a candidate that stays
has metadata, and no more paths are taken out than there are candidates that do not play; so where
all that stay have metadata, just these were taken out.
-/

namespace OnAir.KeptFiles

open FolderSync

variable {fs : Files} {p : Payload} {l : Library} {v : Validated} {key path : String}
  {found : List String}

/-! ### Candidates -/

/-- The audio files of the folder, in the order in which they are found. -/
def files (fs : Files) (p : Payload) : List String :=
  match resolveBase fs p with
  | .error _ => []
  | .ok base => audioFiles fs ((fs.iterate base p.recursive).getD [])

def plays (fs : Files) (path : String) : Bool := (metadataOf fs path).isOk

/-- The first file with the canonical path. -/
def firstFile (fs : Files) (found : List String) (key : String) : Option String :=
  found.find? fun path => canonicalLibraryPath fs path = key

lemma firstFile_concat : firstFile fs (found ++ [path]) key =
    (firstFile fs found key).or
      (if canonicalLibraryPath fs path = key then some path else none) := by
  unfold firstFile
  rw [List.find?_append, List.find?_singleton]
  simp

lemma canonical_of_firstFile (h : firstFile fs found key = some path) :
    canonicalLibraryPath fs path = key := by
  simpa using List.find?_some h

lemma mem_of_firstFile (h : firstFile fs found key = some path) : path ∈ found :=
  List.mem_of_find?_eq_some h

lemma exists_firstFile (h : path ∈ found) :
    ∃ first, firstFile fs found (canonicalLibraryPath fs path) = some first := by
  rw [← Option.isSome_iff_exists, firstFile, List.find?_isSome]
  exact ⟨path, h, by simp⟩

/-- **A file is a candidate** if and only if it is the first of its canonical path. -/
theorem mem_candidatesByPath :
    (key, path) ∈ candidatesByPath fs found ↔ firstFile fs found key = some path := by
  induction found using List.reverseRecOn generalizing key path with
  | nil => simp [candidatesByPath, firstFile]
  | append_singleton found last ih =>
    have hstep : candidatesByPath fs (found ++ [last]) =
        setDefault (candidatesByPath fs found) (canonicalLibraryPath fs last) last :=
      List.foldl_concat ..
    have hknown : (candidatesByPath fs found).any (·.1 = canonicalLibraryPath fs last) = true ↔
        (firstFile fs found (canonicalLibraryPath fs last)).isSome = true := by
      rw [List.any_eq_true, Option.isSome_iff_exists]
      constructor
      · rintro ⟨⟨k, q⟩, hmem, hk⟩
        obtain rfl : k = canonicalLibraryPath fs last := by simpa using hk
        exact ⟨q, ih.mp hmem⟩
      · rintro ⟨q, hq⟩
        exact ⟨(_, q), ih.mpr hq, by simp⟩
    rw [hstep, setDefault, firstFile_concat]
    split_ifs with hany hkey hkey
    · obtain rfl := hkey
      obtain ⟨q, hq⟩ := Option.isSome_iff_exists.mp (hknown.mp hany)
      rw [ih, hq, Option.some_or]
    · rw [ih, Option.or_none]
    · obtain rfl := hkey
      have hnone : firstFile fs found (canonicalLibraryPath fs last) = none :=
        Option.not_isSome_iff_eq_none.mp (mt hknown.mpr hany)
      rw [List.mem_append, ih, hnone, List.mem_singleton]
      simp [eq_comm]
    · rw [List.mem_append, ih, Option.or_none, List.mem_singleton]
      refine or_iff_left fun he => hkey ?_
      exact (Prod.mk.inj he).1.symm

lemma candidatesByPath_nodup : ((candidatesByPath fs found).map Prod.fst).Nodup := by
  induction found using List.reverseRecOn with
  | nil => exact List.nodup_nil
  | append_singleton found last ih =>
    rw [show candidatesByPath fs (found ++ [last]) =
      setDefault (candidatesByPath fs found) (canonicalLibraryPath fs last) last from
      List.foldl_concat .., setDefault]
    split_ifs with hany
    · exact ih
    · rw [List.map_append, List.map_singleton]
      refine ih.append (List.nodup_singleton _) fun k hk hlast => hany ?_
      obtain rfl := List.mem_singleton.mp hlast
      obtain ⟨item, hitem, hkey⟩ := List.mem_map.mp hk
      exact List.any_eq_true.mpr ⟨item, hitem, decide_eq_true hkey⟩

lemma byKeys_perm (d : List (String × String)) : (byKeys d).Perm (d.map Prod.snd) :=
  (List.perm_insertionSort ..).map _

lemma mem_byKeys {d : List (String × String)} : path ∈ byKeys d ↔ ∃ key, (key, path) ∈ d := by
  rw [(byKeys_perm d).mem_iff, List.mem_map]
  exact ⟨fun ⟨⟨k, _⟩, hmem, he⟩ => ⟨k, he ▸ hmem⟩, fun ⟨k, hk⟩ => ⟨_, hk, rfl⟩⟩

/-! ### What is known before the first write -/

/-- What holds of a folder that was validated. -/
structure Checked (fs : Files) (p : Payload) (v : Validated) : Prop where
  mode : p.modeOf = some v.mode
  metadata : v.metadata = metadataByPath fs (byKeys (candidatesByPath fs (files fs p)))
  unplayable : v.unplayable =
    unplayableFiles fs v.base (byKeys (candidatesByPath fs (files fs p)))
  candidates : v.candidates = (candidatesByPath fs (files fs p)).filter fun item =>
    item.1 ∉ v.unplayable.map fun u => canonicalLibraryPath fs (fs.join v.base u.file)

lemma checked (h : validate fs p l = .ok v) : Checked fs p v := by
  unfold validate at h
  cases hmode : p.modeOf with
  | none => simp [hmode, throw, throwThe, MonadExceptOf.throw] at h
  | some mode =>
  cases hname : l.stations[p.sid]? with
  | none => simp [hmode, hname, throw, throwThe, MonadExceptOf.throw] at h
  | some name =>
  cases hbase : resolveBase fs p with
  | error e => simp [hmode, hname, hbase, bind, Except.bind] at h
  | ok base =>
  cases hpaths : fs.iterate base p.recursive with
  | none => simp [hmode, hname, hbase, hpaths, bind, Except.bind, throw, throwThe,
      MonadExceptOf.throw] at h
  | some paths =>
  have hfiles : files fs p = audioFiles fs paths := by
    rw [files, hbase]
    dsimp only
    rw [hpaths, Option.getD_some]
  simp only [hmode, hname, hbase, hpaths, bind, Except.bind, throw, throwThe,
    MonadExceptOf.throw, pure, Except.pure] at h
  rw [← hfiles] at h
  split_ifs at h with _ _ _ hnone
  · obtain rfl := Except.ok.inj h
    refine ⟨hmode, by dsimp only, by dsimp only, ?_⟩
    dsimp only
    rw [hnone, List.map_nil, List.filter_eq_self.mpr fun _ _ => by simp]
  · obtain rfl := Except.ok.inj h
    exact ⟨hmode, by dsimp only, by dsimp only, by dsimp only⟩

namespace Checked

variable (h : Checked fs p v)

include h

lemma firstFile_of_mem (hitem : (key, path) ∈ v.candidates) :
    firstFile fs (files fs p) key = some path := by
  rw [h.candidates] at hitem
  exact mem_candidatesByPath.mp (List.mem_of_mem_filter hitem)

lemma nodup : (v.candidates.map Prod.fst).Nodup := by
  rw [h.candidates]
  exact candidatesByPath_nodup.sublist (List.filter_sublist.map _)

lemma canonical_of_mem (hpath : path ∈ byKeys v.candidates) :
    (canonicalLibraryPath fs path, path) ∈ v.candidates := by
  obtain ⟨key, hitem⟩ := mem_byKeys.mp hpath
  rwa [canonical_of_firstFile (h.firstFile_of_mem hitem)]

/-- A candidate that has metadata plays. -/
lemma plays_of_lookup {m : Metadata} (hitem : (key, path) ∈ v.candidates)
    (hlookup : v.metadata.lookup key = some m) : plays fs path = true := by
  obtain ⟨before, after, hsplit, -⟩ := List.lookup_eq_some_iff.mp hlookup
  have hmem : (key, m) ∈ metadataByPath fs (byKeys (candidatesByPath fs (files fs p))) := by
    rw [← h.metadata, hsplit]
    simp
  obtain ⟨q, hq, hmeta⟩ := List.mem_filterMap.mp hmem
  obtain ⟨m', hok, heq⟩ := Option.map_eq_some_iff.mp hmeta
  obtain ⟨hkey, rfl⟩ := Prod.mk.inj heq
  obtain ⟨k, hk⟩ := mem_byKeys.mp hq
  have hfirst := mem_candidatesByPath.mp hk
  rw [← canonical_of_firstFile hfirst, hkey, h.firstFile_of_mem hitem] at hfirst
  obtain rfl := Option.some.inj hfirst
  unfold plays
  cases hread : metadataOf fs path with
  | ok m => rfl
  | error e => simp [hread, Except.toOption] at hok

/-- **Where all candidates that stayed play**, these are the first files that play. -/
theorem mem_candidates (hplays : ∀ path ∈ byKeys v.candidates, plays fs path = true) :
    (key, path) ∈ v.candidates ↔
      firstFile fs (files fs p) key = some path ∧ plays fs path = true := by
  let d := candidatesByPath fs (files fs p)
  let silent := d.filter fun item => !plays fs item.2
  let invalid := v.unplayable.map fun u => canonicalLibraryPath fs (fs.join v.base u.file)
  have hstays : ∀ item, item ∈ v.candidates ↔ item ∈ d ∧ item.1 ∉ invalid := fun item => by
    rw [h.candidates, List.mem_filter, decide_eq_true_eq]
  have hcount : invalid.length = silent.length := by
    have hone : ∀ l : List String, (unplayableFiles fs v.base l).length =
        l.countP fun path => !plays fs path := fun l => by
      rw [unplayableFiles, List.length_filterMap_eq_countP]
      refine List.countP_congr fun path _ => ?_
      unfold plays
      cases metadataOf fs path <;> simp [Except.isOk, Except.toBool]
    rw [List.length_map, h.unplayable, hone, (byKeys_perm _).countP_eq, List.countP_map,
      List.countP_eq_length_filter]
    rfl
  -- what does not play was taken out, so nothing else was
  have hsub : (silent.map Prod.fst).toFinset ⊆ invalid.toFinset := fun k hk => by
    obtain ⟨item, hitem, rfl⟩ := List.mem_map.mp (List.mem_toFinset.mp hk)
    obtain ⟨hd, hsilent⟩ := List.mem_filter.mp hitem
    by_contra hkept
    have hin := (hstays item).mpr ⟨hd, fun hmem => hkept (List.mem_toFinset.mpr hmem)⟩
    rw [hplays item.2 (mem_byKeys.mpr ⟨item.1, hin⟩)] at hsilent
    exact Bool.false_ne_true hsilent
  have hsame : (silent.map Prod.fst).toFinset = invalid.toFinset := by
    refine Finset.eq_of_subset_of_card_le hsub ?_
    have hnodup : (silent.map Prod.fst).Nodup :=
      candidatesByPath_nodup.sublist (List.filter_sublist.map _)
    rw [List.toFinset_card_of_nodup hnodup, List.length_map, ← hcount]
    exact List.toFinset_card_le _
  rw [← mem_candidatesByPath]
  refine ⟨fun hitem => ⟨((hstays _).mp hitem).1, hplays path (mem_byKeys.mpr ⟨key, hitem⟩)⟩, ?_⟩
  rintro ⟨hd, hplay⟩
  refine (hstays _).mpr ⟨hd, fun hmem => ?_⟩
  rw [← List.mem_toFinset, ← hsame, List.mem_toFinset] at hmem
  obtain ⟨⟨k, q⟩, hitem, rfl⟩ := List.mem_map.mp hmem
  obtain ⟨hd', hsilent⟩ := List.mem_filter.mp hitem
  rw [mem_candidatesByPath] at hd hd'
  obtain rfl := Option.some.inj (hd.symm.trans hd')
  rw [hplay] at hsilent
  exact Bool.false_ne_true hsilent

end Checked

end OnAir.KeptFiles
