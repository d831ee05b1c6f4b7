import OnAir.LibraryReplacement

/-!
When a sync that returns as verified has kept library and queue consistent.

The tracks mirror the files, unless one that plays was passed over for one of the same canonical
path. References to duplicates and those of other stations stay. And since what waits is numbered
from one on, a row that plays further behind comes after it.
-/

namespace OnAir.VerifiedSync

open ActiveRows FolderSync KeptFiles LibraryReplacement PlayoutTables QueueEdits QueueRepository
  SweeperQueue OnAir.Table Transactions

variable {fs : Files} {p : Payload} {l : Library} {v : Validated} {w : Work} {st id j : ℤ}
  {s t : Engine}

/-! ### What waits is numbered -/

/-- Each row gets its place in the list as its position. -/
lemma lookup_position {ids : List ℤ} (hnodup : ids.Nodup) {i : ℕ} (hi : ids[i]? = some j)
    (s : Engine) : (setPositions ids s).queueItems[j]? =
      s.queueItems[j]?.map fun q => { q with position := i + 1 } := by
  have hall : ∀ (start i : ℕ) (s : Engine), ids[i]? = some j →
      ((ids.zipIdx start).foldl (fun s r => updateQueue r.1 (fun q => { q with position := r.2 }) s)
        s).queueItems[j]? =
          s.queueItems[j]?.map fun q => { q with position := (i + start : ℕ) } := by
    clear hi
    induction ids with
    | nil => simp
    | cons k ids ih =>
      intro start i s hi
      obtain ⟨hk, hnodup⟩ := List.nodup_cons.mp hnodup
      rw [List.zipIdx_cons, List.foldl_cons]
      cases i with
      | zero =>
        obtain rfl := Option.some.inj hi
        rw [(lookup_positions _ _ _).2 (by rwa [List.zipIdx_map_fst]), updateQueue,
          lookup_modify, if_pos rfl, Nat.zero_add]
      | succ i =>
        have hj : j ≠ k := fun he => hk (he ▸ List.mem_of_getElem? hi)
        rw [ih hnodup (start + 1) i _ hi, updateQueue, lookup_modify, if_neg hj,
          Nat.succ_add_eq_add_succ]
  exact hall 1 i s hi

/-- The rows of the station that wait, in their order. -/
def waiting (st : ℤ) (s : Engine) : List Row := Sql.orderBy byPosition (queueRows st s [.pending])

lemma mem_waiting {r : Row} : r ∈ waiting st s ↔ s.queueItems[r.1]? = some r.2 ∧
    r.2.stationId = st ∧ r.2.status = .pending := by
  unfold waiting queueRows
  rw [Sql.mem_orderBy, List.mem_filter, mem_rows]
  simp

lemma waiting_sorted (st : ℤ) (s : Engine) :
    (waiting st s).Pairwise fun a b => Before (key a) (key b) :=
  Sql.orderBy_pairwise (fun r : Row => r.2.position) ((rows_sorted _).filter _)

lemma waiting_nodup (st : ℤ) (s : Engine) : ((waiting st s).map Prod.fst).Nodup := by
  have hids : ((queueRows st s [.pending]).map Prod.fst).Nodup :=
    List.pairwise_map.mpr (((rows_sorted s.queueItems).filter _).imp fun h => h.ne)
  exact (((List.perm_insertionSort ..).map Prod.fst).nodup_iff).mpr hids

/-- A row that waits afterwards has the place it had as its position. -/
lemma waiting_reindexed {q : QueueItem} :
    ((reindexPendingQueue st s).queueItems[j]? = some q ∧ q.stationId = st ∧ q.status = .pending) ↔
      ∃ (i : ℕ) (r : QueueItem), (waiting st s)[i]? = some (j, r) ∧
        q = { r with position := i + 1 } := by
  have hcontent := (lookup_setPositions ((waiting st s).map Prod.fst) s j).1
  have hplace : ∀ (i : ℕ) (r : QueueItem), (waiting st s)[i]? = some (j, r) →
      (reindexPendingQueue st s).queueItems[j]? = some { r with position := i + 1 } := by
    intro i r hi
    have hids : ((waiting st s).map Prod.fst)[i]? = some j := by simp [hi]
    have hrow := (mem_waiting.mp (List.mem_of_getElem? hi)).1
    exact (lookup_position (waiting_nodup st s) hids s).trans (by rw [hrow, Option.map_some])
  constructor
  · rintro ⟨hq, hst, hpending⟩
    change (reindexPendingQueue st s).queueItems[j]?.map content = _ at hcontent
    rw [hq, Option.map_some] at hcontent
    obtain ⟨r, hr, heq⟩ := Option.map_eq_some_iff.mp hcontent.symm
    have hmem : (j, r) ∈ waiting st s := mem_waiting.mpr ⟨hr,
      (congrArg QueueItem.stationId heq).trans hst, (congrArg QueueItem.status heq).trans hpending⟩
    obtain ⟨i, hi⟩ := List.mem_iff_getElem?.mp hmem
    exact ⟨i, r, hi, Option.some.inj (hq.symm.trans (hplace i r hi))⟩
  · rintro ⟨i, r, hi, rfl⟩
    obtain ⟨-, hst, hpending⟩ := mem_waiting.mp (List.mem_of_getElem? hi)
    exact ⟨hplace i r hi, hst, hpending⟩

lemma reindexed_aside (hj : ∀ q : QueueItem, s.queueItems[j]? = some q → q.stationId = st →
    q.status ≠ .pending) : (reindexPendingQueue st s).queueItems[j]? = s.queueItems[j]? := by
  refine (lookup_setPositions ((waiting st s).map Prod.fst) s j).2 fun hmem => ?_
  obtain ⟨⟨_, r⟩, hr, rfl⟩ := List.mem_map.mp hmem
  obtain ⟨hrow, hst, hpending⟩ := mem_waiting.mp hr
  exact hj r hrow hst hpending

/-! ### What plays before what waits -/

/-- The row stands before every row of the station that waits. -/
def Leads (st : ℤ) (s : Engine) (r : Row) : Prop :=
  ∀ q ∈ listActiveOrdered st s, q.2.status = .pending → [r, q].Sublist (listActiveOrdered st s)

/-- In the list of the active rows one comes after another if and only if it does in the order. -/
lemma sublist_iff {r q : Row} (hr : r ∈ listActiveOrdered st s) (hq : q ∈ listActiveOrdered st s) :
    [r, q].Sublist (listActiveOrdered st s) ↔ Before (key r) (key q) := by
  have hsorted : (listActiveOrdered st s).Pairwise fun a b => Before (key a) (key b) :=
    List.pairwise_map.mp (keys_sorted st s)
  constructor
  · intro h
    have hpair := hsorted.sublist h
    exact (List.pairwise_cons.mp hpair).1 q List.mem_cons_self
  · intro h
    obtain ⟨before, after, hsplit⟩ := List.append_of_mem hr
    rw [hsplit] at hq hsorted ⊢
    have hafter : q ∈ after := by
      rcases List.mem_append.mp hq with hq | hq
      · exact absurd ((List.pairwise_append.mp hsorted).2.2 q hq r List.mem_cons_self) h.asymm
      · refine (List.mem_cons.mp hq).resolve_left fun he => ?_
        exact Before.irrefl _ (he ▸ h)
    exact ((List.singleton_sublist.mpr hafter).cons_cons r).trans (List.sublist_append_right _ _)

lemma leads_iff {r : QueueItem} (hr : s.queueItems[id]? = some r) (hst : r.stationId = st)
    (hplaying : r.status = .playing) : Leads st s (id, r) ↔
      ∀ (j : ℤ) (q : QueueItem), s.queueItems[j]? = some q → q.stationId = st →
        q.status = .pending → Before (key (id, r)) (key (j, q)) := by
  have hrow : (id, r) ∈ listActiveOrdered st s :=
    mem_listActiveOrdered.mpr ⟨hr, hst, by simp [hplaying, isActive]⟩
  constructor
  · intro h j q hq hqst hpending
    have hmem : (j, q) ∈ listActiveOrdered st s :=
      mem_listActiveOrdered.mpr ⟨hq, hqst, by simp [hpending, isActive]⟩
    exact (sublist_iff hrow hmem).mp (h _ hmem hpending)
  · rintro h ⟨j, q⟩ hmem hpending
    obtain ⟨hq, hqst, -⟩ := mem_listActiveOrdered.mp hmem
    exact (sublist_iff hrow hmem).mpr (h j q hq hqst hpending)

/-- **A row that plays comes first after the numbering** if and only if it does so by its own
position, against the one that waits first. -/
theorem leads_reindexed {r : QueueItem} (hr : s.queueItems[id]? = some r) (hst : r.stationId = st)
    (hplaying : r.status = .playing) : Leads st (reindexPendingQueue st s) (id, r) ↔
      ∀ q, (waiting st s).head? = some q →
        r.position < 1 ∨ r.position = 1 ∧ id < q.1 := by
  have hrow : (reindexPendingQueue st s).queueItems[id]? = some r := by
    refine (reindexed_aside fun q hq _ => ?_).trans hr
    rw [hr] at hq
    rw [← Option.some.inj hq, hplaying]
    decide
  rw [leads_iff hrow hst hplaying]
  constructor
  · rintro h ⟨j, q⟩ hhead
    rw [List.head?_eq_getElem?] at hhead
    obtain ⟨hq, hqst, hpending⟩ := waiting_reindexed.mpr ⟨0, q, hhead, rfl⟩
    have hbefore := h j _ hq hqst hpending
    simpa [Before, key] using hbefore
  · intro h j q hq hqst hpending
    obtain ⟨i, q, hi, rfl⟩ := waiting_reindexed.mp ⟨hq, hqst, hpending⟩
    have hlen : i < (waiting st s).length := (List.getElem?_eq_some_iff.mp hi).1
    obtain ⟨first, hfirst⟩ : ∃ first, (waiting st s).head? = some first := by
      rw [← Option.isSome_iff_exists, List.isSome_head?]
      exact List.ne_nil_of_length_pos (by omega)
    have hle := h first hfirst
    unfold Before key
    dsimp only
    cases i with
    | zero =>
      rw [List.head?_eq_getElem?, hi] at hfirst
      obtain rfl := Option.some.inj hfirst
      simpa using hle
    | succ i =>
      left
      push_cast
      omega

/-- The row that waits first. -/
lemma head_waiting {q : Row} : (waiting st s).head? = some q ↔
    q ∈ waiting st s ∧ ∀ q' ∈ waiting st s, q' = q ∨ Before (key q) (key q') := by
  have hsorted := waiting_sorted st s
  constructor
  · intro h
    obtain ⟨rest, hrest⟩ := List.head?_eq_some_iff.mp h
    rw [hrest] at hsorted ⊢
    refine ⟨List.mem_cons_self, fun q' hq' => ?_⟩
    exact (List.mem_cons.mp hq').imp id fun hmem => (List.pairwise_cons.mp hsorted).1 q' hmem
  · rintro ⟨hq, hleast⟩
    cases hlist : waiting st s with
    | nil => simp [hlist] at hq
    | cons first rest =>
      rw [hlist] at hsorted hq
      rcases hleast first (by simp [hlist]) with rfl | hbefore
      · rfl
      · rcases List.mem_cons.mp hq with rfl | hmem
        · rfl
        · exact absurd ((List.pairwise_cons.mp hsorted).1 q hmem) hbefore.asymm

/-! ### What is deleted -/

lemma setPositions_tables (ids : List ℤ) (s : Engine) :
    setPositions ids s = { s with queueItems := (setPositions ids s).queueItems } := by
  have hall : ∀ (l : List (ℤ × ℕ)) (s : Engine),
      let t := l.foldl (fun s r => updateQueue r.1 (fun q => { q with position := r.2 }) s) s
      t = { s with queueItems := t.queueItems } := by
    intro l
    induction l with
    | nil => exact fun _ => rfl
    | cons r l ih => exact fun s => ih _
  exact hall _ s

lemma referred_reindexed : Referred j id (reindexPendingQueue st s) ↔ Referred j id s := by
  have hcontent := lookup_setPositions ((waiting st s).map Prod.fst) s
  have htables := setPositions_tables ((waiting st s).map Prod.fst) s
  change reindexPendingQueue st s = _ at htables
  unfold Referred
  refine or_congr ⟨?_, ?_⟩ (by rw [htables])
  · rintro ⟨k, q, hq, hst, hpending, hid⟩
    have hk := (hcontent k).1
    change (reindexPendingQueue st s).queueItems[k]?.map content = _ at hk
    rw [hq, Option.map_some] at hk
    obtain ⟨r, hr, heq⟩ := Option.map_eq_some_iff.mp hk.symm
    exact ⟨k, r, hr, (congrArg QueueItem.stationId heq).trans hst,
      (congrArg QueueItem.status heq).trans hpending, (congrArg QueueItem.trackId heq).trans hid⟩
  · rintro ⟨k, q, hq, hst, hpending, hid⟩
    have hk := (hcontent k).1
    change (reindexPendingQueue st s).queueItems[k]?.map content = _ at hk
    rw [hq, Option.map_some] at hk
    obtain ⟨r, hr, heq⟩ := Option.map_eq_some_iff.mp hk
    exact ⟨k, r, hr, (congrArg QueueItem.stationId heq).trans hst,
      (congrArg QueueItem.status heq).trans hpending, (congrArg QueueItem.trackId heq).trans hid⟩

lemma referred_cleared {ids : List ℤ} : Referred st id (clearReferences p ids s) ↔
    Referred st id s ∧ ¬ (st = p.sid ∧ id ∈ ids) := by
  unfold Referred clearReferences
  simp only [Std.ExtTreeMap.getElem?_filter', Option.filter_eq_some_iff, Bool.not_eq_true']
  constructor
  · rintro (⟨k, q, ⟨hq, hno⟩, rfl, hpending, rfl⟩ | ⟨k, q, ⟨hq, hno⟩, rfl, rfl⟩ |
      ⟨k, q, ⟨hq, hno⟩, rfl, hpending, rfl⟩)
    · refine ⟨.inl ⟨k, q, hq, rfl, hpending, rfl⟩, fun ⟨hst, hid⟩ => ?_⟩
      simp [ofQueue, hst, hid, hpending] at hno
    · refine ⟨.inr (.inl ⟨k, q, hq, rfl, rfl⟩), fun ⟨hst, hid⟩ => ?_⟩
      simp [ofProgramQueue, hst, hid] at hno
    · refine ⟨.inr (.inr ⟨k, q, hq, rfl, hpending, rfl⟩), fun ⟨hst, hid⟩ => ?_⟩
      simp [ofSchedule, hst, hid, hpending] at hno
  · rintro ⟨⟨k, q, hq, rfl, hpending, rfl⟩ | ⟨k, q, hq, rfl, rfl⟩ |
      ⟨k, q, hq, rfl, hpending, rfl⟩, hno⟩
    · refine .inl ⟨k, q, ⟨hq, ?_⟩, rfl, hpending, rfl⟩
      simpa [ofQueue, hpending] using hno
    · refine .inr (.inl ⟨k, q, ⟨hq, ?_⟩, rfl, rfl⟩)
      simpa [ofProgramQueue] using hno
    · refine .inr (.inr ⟨k, q, ⟨hq, ?_⟩, rfl, hpending, rfl⟩)
      simpa [ofSchedule, hpending] using hno

/-- The references that go are those of the station to the stale tracks. -/
lemma referred_removed : Referred st id (removeReferences p w).library.engine ↔
    Referred st id w.library.engine ∧ ¬ (st = p.sid ∧ id ∈ w.deactivatedIds) := by
  unfold removeReferences
  split_ifs with hnone
  · simp [hnone]
  · exact referred_reindexed.trans referred_cleared

/-- The rows of other stations are left alone. -/
lemma lookup_removed_other {q : QueueItem} (hst : q.stationId ≠ p.sid) :
    (removeReferences p w).library.engine.queueItems[j]? = some q ↔
      w.library.engine.queueItems[j]? = some q := by
  have hclear : (clearReferences p w.deactivatedIds w.library.engine).queueItems[j]? = some q ↔
      w.library.engine.queueItems[j]? = some q := by
    unfold clearReferences
    rw [Std.ExtTreeMap.getElem?_filter', Option.filter_eq_some_iff]
    simp [ofQueue, hst]
  unfold removeReferences
  split_ifs
  · rfl
  · refine Iff.trans ⟨fun h => ?_, fun h => ?_⟩ hclear
    · have hcontent := (lookup_setPositions ((waiting p.sid
        (clearReferences p w.deactivatedIds w.library.engine)).map Prod.fst)
          (clearReferences p w.deactivatedIds w.library.engine) j).1
      change (reindexPendingQueue _ _).queueItems[j]?.map content = _ at hcontent
      rw [h, Option.map_some] at hcontent
      obtain ⟨q', hq', heq⟩ := Option.map_eq_some_iff.mp hcontent.symm
      have hsame := congrArg QueueItem.stationId heq
      change q'.stationId = q.stationId at hsame
      rw [reindexed_aside fun q'' hq'' hst'' => ?_] at h
      · exact h
      · rw [hq'] at hq''
        obtain rfl := Option.some.inj hq''
        exact absurd (hsame.symm.trans hst'') hst
    · rw [reindexed_aside fun q' hq' hst' => ?_, h]
      rw [h] at hq'
      exact absurd hst' (Option.some.inj hq' ▸ hst)

section Playing

variable {r : QueueItem} (hr : w.library.engine.queueItems[id]? = some r)
  (hplaying : r.status = .playing)

include hr hplaying

lemma lookup_cleared (ids : List ℤ) :
    (clearReferences p ids w.library.engine).queueItems[id]? = some r := by
  unfold clearReferences
  rw [Std.ExtTreeMap.getElem?_filter', hr, Option.filter_some, if_pos]
  simp [ofQueue, hplaying]

/-- What plays is left alone. -/
lemma lookup_removed : (removeReferences p w).library.engine.queueItems[id]? = some r := by
  unfold removeReferences
  split_ifs
  · exact hr
  · refine (reindexed_aside fun q hq _ => ?_).trans (lookup_cleared hr hplaying _)
    rw [lookup_cleared hr hplaying] at hq
    rw [← Option.some.inj hq, hplaying]
    decide

/-- On another station nothing comes before what plays. -/
lemma leads_removed_other (hst : r.stationId ≠ p.sid) :
    Leads r.stationId (removeReferences p w).library.engine (id, r) ↔
      Leads r.stationId w.library.engine (id, r) := by
  rw [leads_iff (lookup_removed hr hplaying) rfl hplaying, leads_iff hr rfl hplaying]
  refine forall₂_congr fun k q => ⟨fun h hq hqst => ?_, fun h hq hqst => ?_⟩
  · exact h ((lookup_removed_other (hqst ▸ hst)).mpr hq) hqst
  · exact h ((lookup_removed_other (hqst ▸ hst)).mp hq) hqst

/-- A refill leaves what plays in front of what waits. -/
lemma leads_grown (hgrown : Grown st w.library.engine t) :
    Leads r.stationId t (id, r) ↔ Leads r.stationId w.library.engine (id, r) := by
  rw [leads_iff (hgrown.kept id r hr) rfl hplaying, leads_iff hr rfl hplaying]
  refine forall₂_congr fun k q => ⟨fun h hq => h (hgrown.kept k q hq), fun h hq hqst => ?_⟩
  refine h ((hgrown.new k q hq).resolve_right fun hnew => ?_) hqst
  have hmem : (id, r) ∈ listActiveOrdered st w.library.engine :=
    mem_listActiveOrdered.mpr ⟨hr, hqst.symm.trans hnew.1, by simp [hplaying, isActive]⟩
  rw [hnew.2.1] at hmem
  exact List.not_mem_nil hmem

end Playing

/-! ### The transaction -/

/-- A sync either leaves what was there, or has made all its writes. -/
lemma execute_interrupted (fails : Option ℕ) (writes : List (Work → Option Work)) (w : Work) :
    match execute ((interrupted fails writes).map .write ++ [.commit]) (.opened w) with
    | (c, false) => c.committed = w
    | (c, true) => writes.foldlM (fun w f => f w) w = some c.committed := by
  rw [execute_transaction]
  cases fails with
  | some n =>
    have hnone : (interrupted (some n) writes).foldlM (fun w f => f w) w = none := by
      rw [interrupted, List.foldlM_append]
      cases (writes.take n).foldlM (fun w f => f w) w <;> rfl
    rw [hnone]
    rfl
  | none =>
    rw [interrupted]
    cases writes.foldlM (fun w f => f w) w <;> rfl

/-- **A sync that raises before its commit** has changed nothing. -/
theorem refused_unchanged {faults : Faults} {e : Raised}
    (h : (syncStationLibraryFolder fs p faults l).2 = .refused e) :
    (syncStationLibraryFolder fs p faults l).1 = l := by
  unfold syncStationLibraryFolder at h ⊢
  cases hv : validate fs p l with
  | error e => rfl
  | ok v =>
    rw [hv] at h
    dsimp only at h ⊢
    unfold write at h ⊢
    have hexecute := execute_interrupted faults.write (writes fs p v l) (.start l)
    split at h
    case h_1 c hc =>
      rw [hc] at hexecute
      exact congrArg Work.library hexecute
    case h_2 c hc =>
      dsimp only at h
      split_ifs at h

/-! ### A sync that returns as verified -/

/-- What a sync that replaces the library has made when it returns as verified. -/
structure Synced (fs : Files) (p : Payload) (l : Library) (v : Validated) (w : Work) (t : Engine) :
    Prop where
  checked : Checked fs p v
  written : Written fs p l (byKeys v.candidates) w
  plays : ∀ path ∈ byKeys v.candidates, plays fs path = true
  grown : Grown p.sid (removeReferences p (deactivateStale p w)).library.engine t

lemma upserts_tables (st : ℤ) (values : List (String × String)) (s : Engine) :
    values.foldl (fun s x => upsertSetting st x.1 x.2 s) s = { s with
      stationSettings :=
        (values.foldl (fun s x => upsertSetting st x.1 x.2 s) s).stationSettings } := by
  induction values generalizing s with
  | nil => rfl
  | cons x values ih => exact ih _

lemma canonical_nodup (h : Checked fs p v) :
    ((byKeys v.candidates).map (canonicalLibraryPath fs)).Nodup := by
  refine (((byKeys_perm v.candidates).map _).nodup_iff).mpr ?_
  rw [List.map_map, List.map_congr_left (g := Prod.fst) fun item hitem => ?_]
  · exact h.nodup
  · exact canonical_of_firstFile (h.firstFile_of_mem hitem)

lemma synced (hmode : p.modeOf = some .replace) (hremove : p.removePendingQueue = true)
    {faults : Faults} {r : Response}
    (h : (syncStationLibraryFolder fs p faults l).2 = .verified r) :
    ∃ v w, Synced fs p l v w (syncStationLibraryFolder fs p faults l).1.engine := by
  unfold syncStationLibraryFolder at h ⊢
  cases hv : validate fs p l with
  | error e => simp [hv] at h
  | ok v =>
    rw [hv] at h
    dsimp only at h ⊢
    have hchecked := checked hv
    have hreplace : v.mode = .replace := Option.some.inj (hchecked.mode.symm.trans hmode)
    have hexecute := execute_interrupted faults.write (writes fs p v l) (.start l)
    unfold write at h ⊢
    split at h
    case h_1 => simp at h
    case h_2 c hc =>
      rw [hc] at hexecute
      dsimp only at h hexecute ⊢
      split_ifs at h with hmatch hsettings
      rw [if_neg hmatch, if_neg hsettings]
      rw [writes, if_pos hreplace, hremove, if_pos rfl, List.append_assoc,
        List.foldlM_append] at hexecute
      obtain ⟨w, hloop, hrest⟩ := Option.bind_eq_some_iff.mp hexecute
      have hcommitted : c.committed =
          writeProfile p v (removeReferences p (deactivateStale p w)) :=
        (Option.some.inj hrest).symm
      obtain ⟨hwritten, hmetadata⟩ :=
        (Written.start l).run (by simpa using canonical_nodup hchecked) hloop
      refine ⟨v, w, hchecked, hwritten, fun path hpath => ?_, ?_⟩
      · obtain ⟨m, hm⟩ := hmetadata path hpath
        exact hchecked.plays_of_lookup (hchecked.canonical_of_mem hpath) hm
      · have hgrown := grown_filledUpTo faults.refill p.sid c.committed.library.engine
        rw [hcommitted, writeProfile, upserts_tables] at hgrown
        rw [hcommitted, writeProfile, upserts_tables]
        exact hgrown.settings

/-! ### Consistency -/

/-- The canonical paths of the files of the folder that play. -/
def playablePaths (fs : Files) (p : Payload) : Set String :=
  {key | ∃ path ∈ files fs p, plays fs path = true ∧ canonicalLibraryPath fs path = key}

/-- The active tracks of the station and the type are one for each playable file; no item that waits
refers to a track that was deactivated; what plays is as it was, and stands before what waits where
it did so before. -/
structure Consistent (fs : Files) (p : Payload) (s t : Engine) : Prop where
  mirrors : Set.BijOn (canonicalOf fs t) (activeTracks p t) (playablePaths fs p)
  unreferenced : ∀ id ∈ deactivated s t, ∀ st, ¬ Referred st id t
  playing : ∀ (id : ℤ) (r : QueueItem), s.queueItems[id]? = some r → r.status = .playing →
    t.queueItems[id]? = some r ∧ (Leads r.stationId s (id, r) → Leads r.stationId t (id, r))

/-- The rows of the station that wait, and are of no track outside of the folder. -/
def remaining (fs : Files) (p : Payload) (l : Library) (keys : Set String) : Set Row :=
  {q | q ∈ waiting p.sid l.engine ∧ ¬ Outside fs p l keys q.2.trackId}

/-- What plays has a position in front of what waits once this is numbered, where a track is
outside of the folder. -/
def PlaysInFront (fs : Files) (p : Payload) (l : Library) (keys : Set String) : Prop :=
  (∃ id, Outside fs p l keys id) → ∀ (id : ℤ) (r : QueueItem), l.engine.queueItems[id]? = some r →
    r.stationId = p.sid → r.status = .playing → Leads p.sid l.engine (id, r) →
      ∀ q ∈ remaining fs p l keys,
        (∀ q' ∈ remaining fs p l keys, q' = q ∨ Before (key q) (key q')) →
          r.position < 1 ∨ r.position = 1 ∧ id < q.1

/-- No file that plays comes after one of its canonical path that does not; no other station refers
to a track outside of the folder, and none at all to a duplicate. -/
structure Spares (fs : Files) (p : Payload) (l : Library) : Prop where
  files : ∀ path ∈ files fs p, plays fs path = true → ∀ first,
    firstFile fs (files fs p) (canonicalLibraryPath fs path) = some first → plays fs first = true
  outside : ∀ id, Outside fs p l (playablePaths fs p) id → ∀ st, st ≠ p.sid →
    ¬ Referred st id l.engine
  duplicates : ∀ id, Duplicate fs p l (playablePaths fs p) id → ∀ st, ¬ Referred st id l.engine
  inFront : PlaysInFront fs p l (playablePaths fs p)

lemma removed_tracks : (removeReferences p w).library.engine.tracks = w.library.engine.tracks := by
  unfold removeReferences
  split_ifs
  · rfl
  · dsimp only
    rw [reindexPendingQueue, setPositions_tables]
    rfl

namespace Synced

variable (h : Synced fs p l v w t)

include h

lemma tracks : t.tracks = deactivate (staleRows p w) w.library.engine.tracks :=
  h.grown.tracks.trans removed_tracks

lemma mem_keys {key : String} : key ∈ keysOf fs (byKeys v.candidates) ↔
    ∃ path, firstFile fs (files fs p) key = some path ∧ KeptFiles.plays fs path = true := by
  constructor
  · rintro ⟨path, hpath, rfl⟩
    exact ⟨path, (h.checked.mem_candidates h.plays).mp (h.checked.canonical_of_mem hpath)⟩
  · rintro ⟨path, hfirst⟩
    have hitem := (h.checked.mem_candidates h.plays).mpr hfirst
    exact ⟨path, mem_byKeys.mpr ⟨key, hitem⟩, canonical_of_firstFile hfirst.1⟩

/-- **The files that were gone by** are all that play, unless one of these is passed over. -/
theorem keys_eq_iff : keysOf fs (byKeys v.candidates) = playablePaths fs p ↔
    ∀ path ∈ files fs p, KeptFiles.plays fs path = true → ∀ first,
      firstFile fs (files fs p) (canonicalLibraryPath fs path) = some first →
        KeptFiles.plays fs first = true := by
  constructor
  · intro heq path hpath hplays first hfirst
    have hkey : canonicalLibraryPath fs path ∈ keysOf fs (byKeys v.candidates) :=
      heq ▸ ⟨path, hpath, hplays, rfl⟩
    obtain ⟨path', hfirst', hplays'⟩ := h.mem_keys.mp hkey
    rw [hfirst] at hfirst'
    rwa [Option.some.inj hfirst']
  · intro hall
    ext key
    rw [h.mem_keys]
    constructor
    · rintro ⟨path, hfirst, hplays⟩
      exact ⟨path, mem_of_firstFile hfirst, hplays, canonical_of_firstFile hfirst⟩
    · rintro ⟨path, hpath, hplays, rfl⟩
      obtain ⟨first, hfirst⟩ := @exists_firstFile fs _ _ hpath
      exact ⟨first, hfirst, hall path hpath hplays first hfirst⟩

lemma mirrors_iff : Set.BijOn (canonicalOf fs t) (activeTracks p t) (playablePaths fs p) ↔
    keysOf fs (byKeys v.candidates) = playablePaths fs p := by
  have hbij := bijOn_canonical h.written h.tracks (canonical_nodup h.checked)
  exact ⟨fun h' => hbij.image_eq.symm.trans h'.image_eq, fun heq => heq ▸ hbij⟩

/-- What is inactive is referred to as before, but for the stale tracks on the station itself. -/
lemma referred_iff (hid : id ∈ deactivated l.engine t) : Referred st id t ↔
    Referred st id l.engine ∧
      ¬ (st = p.sid ∧ Outside fs p l (keysOf fs (byKeys v.candidates)) id) := by
  obtain ⟨-, y, hy, hinactive⟩ := hid
  have hnone : RetiredTracks.Inactive id
      (removeReferences p (deactivateStale p w)).library.engine := by
    intro x hx
    rw [← h.grown.tracks, hy] at hx
    exact Option.some.inj hx ▸ hinactive
  rw [h.grown.referred_iff hnone, referred_removed]
  change Referred st id { w.library.engine with tracks := _ } ∧ ¬ (_ ∧ id ∈ staleRows p w) ↔ _
  rw [mem_staleRows_iff h.written, h.written.other]
  rfl

/-- **References to what was deactivated** stay where they are to a duplicate, or of another
station. -/
theorem unreferenced_iff : (∀ id ∈ deactivated l.engine t, ∀ st, ¬ Referred st id t) ↔
    (∀ id, Outside fs p l (keysOf fs (byKeys v.candidates)) id → ∀ st, st ≠ p.sid →
      ¬ Referred st id l.engine) ∧
    ∀ id, Duplicate fs p l (keysOf fs (byKeys v.candidates)) id → ∀ st,
      ¬ Referred st id l.engine := by
  have hiff : ∀ id, id ∈ deactivated l.engine t ↔ _ := fun id => deactivated_iff h.written h.tracks
  constructor
  · refine fun hall => ⟨fun id hout st hst href => ?_, fun id hdup st href => ?_⟩
    · have hid := (hiff id).mpr (.inl hout)
      exact hall id hid st ((h.referred_iff hid).mpr ⟨href, fun h => hst h.1⟩)
    · have hid := (hiff id).mpr (.inr hdup)
      refine hall id hid st ((h.referred_iff hid).mpr ⟨href, fun ⟨_, x, hx, _, _, hkeys⟩ => ?_⟩)
      obtain ⟨y, -, key, hkey, hmem, -⟩ := hdup
      obtain ⟨hy, -, hpath⟩ := mem_existingByPath.mp hmem
      rw [hx] at hy
      exact hkeys key hkey (Option.some.inj hy ▸ hpath)
  · rintro ⟨hout, hdup⟩ id hid st href
    obtain ⟨hbefore, hno⟩ := (h.referred_iff hid).mp href
    rcases (hiff id).mp hid with hid | hid
    · exact hout id hid st (fun hst => hno ⟨hst, hid⟩) hbefore
    · exact hdup id hid st hbefore

/-- The rows of the queue before the references are removed are those before the sync. -/
lemma queueItems_before :
    (deactivateStale p w).library.engine.queueItems = l.engine.queueItems := by
  change w.library.engine.queueItems = _
  rw [h.written.other]

lemma staleRows_eq_nil : staleRows p w = [] ↔
    ¬ ∃ id, Outside fs p l (keysOf fs (byKeys v.candidates)) id := by
  rw [List.eq_nil_iff_forall_not_mem, not_exists]
  exact forall_congr' fun id => not_congr (mem_staleRows_iff h.written)

/-- What waits once the references are removed. -/
lemma mem_waiting_cleared {q : Row} :
    q ∈ waiting p.sid (clearReferences p (staleRows p w) (deactivateStale p w).library.engine) ↔
      q ∈ remaining fs p l (keysOf fs (byKeys v.candidates)) := by
  have hstale : q.2.trackId ∈ staleRows p w ↔ _ := mem_staleRows_iff h.written
  rw [mem_waiting, clearReferences, remaining, Set.mem_ofPred_eq, mem_waiting, ← hstale,
    ← h.queueItems_before, Std.ExtTreeMap.getElem?_filter', Option.filter_eq_some_iff]
  constructor
  · rintro ⟨⟨hq, hno⟩, hst, hpending⟩
    exact ⟨⟨hq, hst, hpending⟩, fun hmem => by simp [ofQueue, hst, hpending, hmem] at hno⟩
  · rintro ⟨⟨hq, hst, hpending⟩, hno⟩
    exact ⟨⟨hq, by simp [ofQueue, hno]⟩, hst, hpending⟩

/-- **What plays comes first afterwards** if and only if its position is in front of the first one
that is given anew. -/
theorem playing_iff : (∀ (id : ℤ) (r : QueueItem), l.engine.queueItems[id]? = some r →
    r.status = .playing → t.queueItems[id]? = some r ∧
      (Leads r.stationId l.engine (id, r) → Leads r.stationId t (id, r))) ↔
    PlaysInFront fs p l (keysOf fs (byKeys v.candidates)) := by
  have hrow : ∀ {id : ℤ} {r : QueueItem}, l.engine.queueItems[id]? = some r →
      (deactivateStale p w).library.engine.queueItems[id]? = some r := fun hr => by
    rw [h.queueItems_before, hr]
  have hbefore : ∀ {id : ℤ} {r : QueueItem}, Leads r.stationId l.engine (id, r) ↔
      Leads r.stationId (deactivateStale p w).library.engine (id, r) := fun {id r} => by
    unfold Leads listActiveOrdered queueRows
    rw [h.queueItems_before]
  have hafter : ∀ {id : ℤ} {r : QueueItem}, l.engine.queueItems[id]? = some r →
      r.status = .playing → (Leads r.stationId t (id, r) ↔ Leads r.stationId
        (removeReferences p (deactivateStale p w)).library.engine (id, r)) := fun hr hplaying =>
    leads_grown (lookup_removed (hrow hr) hplaying) hplaying h.grown
  -- where something is stale, what is left of what waits is numbered
  have hnumbered : ∀ {id : ℤ} {r : QueueItem}, l.engine.queueItems[id]? = some r →
      r.status = .playing → r.stationId = p.sid → staleRows p w ≠ [] →
        (Leads r.stationId (removeReferences p (deactivateStale p w)).library.engine (id, r) ↔
          ∀ q ∈ remaining fs p l (keysOf fs (byKeys v.candidates)),
            (∀ q' ∈ remaining fs p l (keysOf fs (byKeys v.candidates)),
              q' = q ∨ Before (key q) (key q')) → r.position < 1 ∨ r.position = 1 ∧ id < q.1) := by
    intro id r hr hplaying hst hstale
    have hengine : (removeReferences p (deactivateStale p w)).library.engine =
        reindexPendingQueue p.sid
          (clearReferences p (staleRows p w) (deactivateStale p w).library.engine) := by
      rw [removeReferences, if_neg (show (deactivateStale p w).deactivatedIds ≠ [] from hstale)]
      rfl
    rw [hengine, hst, leads_reindexed (lookup_cleared (hrow hr) hplaying _) hst hplaying]
    refine forall_congr' fun q => ?_
    rw [head_waiting, and_imp]
    simp only [h.mem_waiting_cleared]
  constructor
  · intro hall hout id r hr hst hplaying hleads
    have hstale : staleRows p w ≠ [] := fun hnil => h.staleRows_eq_nil.mp hnil hout
    have hleads' := (hall id r hr hplaying).2 (hst ▸ hleads)
    exact (hnumbered hr hplaying hst hstale).mp ((hafter hr hplaying).mp hleads')
  · intro hfront id r hr hplaying
    refine ⟨h.grown.kept id r (lookup_removed (hrow hr) hplaying), fun hleads => ?_⟩
    rw [hafter hr hplaying]
    by_cases hst : r.stationId = p.sid
    · by_cases hstale : staleRows p w = []
      · rw [removeReferences, if_pos (show (deactivateStale p w).deactivatedIds = [] from hstale)]
        exact hbefore.mp hleads
      · have hout := not_not.mp (mt h.staleRows_eq_nil.mpr hstale)
        exact (hnumbered hr hplaying hst hstale).mpr
          (hfront hout id r hr hst hplaying (hst ▸ hleads))
    · exact (leads_removed_other (hrow hr) hplaying hst).mpr (hbefore.mp hleads)

end Synced

/-- **A managed folder sync** changes nothing where it raises before its commit; and where it
returns as verified it keeps library and queue consistent if and only if it spares what it does not
clean up. -/
theorem sync_consistent_iff (hmode : p.modeOf = some .replace)
    (hremove : p.removePendingQueue = true) (faults : Faults) (l : Library) :
    (∀ e, (syncStationLibraryFolder fs p faults l).2 = .refused e →
      (syncStationLibraryFolder fs p faults l).1 = l) ∧
    ∀ r, (syncStationLibraryFolder fs p faults l).2 = .verified r →
      (Consistent fs p l.engine (syncStationLibraryFolder fs p faults l).1.engine ↔
        Spares fs p l) := by
  refine ⟨fun e => refused_unchanged, fun r hverified => ?_⟩
  obtain ⟨v, w, h⟩ := synced hmode hremove hverified
  have hrefs := h.unreferenced_iff
  have hplays := h.playing_iff
  constructor
  · rintro ⟨hmirrors, hunreferenced, hplaying⟩
    have heq := h.mirrors_iff.mp hmirrors
    rw [heq] at hrefs hplays
    exact ⟨h.keys_eq_iff.mp heq, (hrefs.mp hunreferenced).1, (hrefs.mp hunreferenced).2,
      hplays.mp hplaying⟩
  · rintro ⟨hfiles, hout, hdup, hfront⟩
    have heq := h.keys_eq_iff.mpr hfiles
    rw [heq] at hrefs hplays
    exact ⟨h.mirrors_iff.mpr heq, hrefs.mpr ⟨hout, hdup⟩, hplays.mpr hfront⟩

/-! ### A folder with one file -/

def oneFile : Files where
  expandUser := fun path => path
  isDir := fun _ => true
  resolve := .ok
  iterate := fun _ _ => some ["/media/a.mp3"]
  isFile := fun _ => true
  suffix := fun _ => ".mp3"
  stem := fun _ => "a"
  name := fun _ => "a.mp3"
  relativeTo := fun _ _ => some "a.mp3"
  join := fun _ _ => "/media/a.mp3"
  absolute := fun path => path
  casefold := fun path => path
  audioMetadata := fun _ title => .ok ⟨title, "", "", "", "", "", 180⟩

def replaceMusic : Payload := ⟨1, "/media", true, "music", "replace", false, true, "", "", ""⟩

def song (path : String) : Track := ⟨1, "a", "", path, 180, "music", true, false, 0, none⟩

/-- A track of the file, and another one of it where there is a duplicate; a third one, of another
file, plays and also waits. -/
def songLibrary (duplicate : Bool) (position waits : ℤ) : Library where
  engine := { Engine.empty with
    tracks :=
      let t := ((∅ : Table Track).insert 1 (song "/media/a.mp3")).insert 3 (song "/old/b.mp3")
      if duplicate then t.insert 2 (song "/media/a.mp3") else t
    queueItems :=
      (((∅ : Table QueueItem).insert 10 ⟨1, 3, position, .playing, none, none⟩).insert 11
        ⟨1, waits, 6, .pending, none, none⟩).insert 12 ⟨1, 3, 7, .pending, none, none⟩ }
  tags := ∅
  stations := (∅ : Table String).insert 1 "Station"

def syncedSongs (duplicate : Bool) (position waits : ℤ) : Library × FolderSync.Outcome :=
  syncStationLibraryFolder oneFile replaceMusic ⟨none, 0, false⟩
    (songLibrary duplicate position waits)

/-- The row of the duplicate still waits, and it has come in front of the row that plays. -/
theorem duplicate_waits_first :
    (∃ r, (syncedSongs true 5 2).2 = .verified r) ∧
    ¬ Consistent oneFile replaceMusic (songLibrary true 5 2).engine
      (syncedSongs true 5 2).1.engine ∧
    (listActiveOrdered 1 (songLibrary true 5 2).engine).map Prod.fst = [10, 11, 12] ∧
    (listActiveOrdered 1 (syncedSongs true 5 2).1.engine).map Prod.fst = [11, 10] := by
  have hverified : (match (syncedSongs true 5 2).2 with | .verified _ => true | _ => false) =
      true := by decide +kernel
  refine ⟨?_, fun h => ?_, by decide +kernel, by decide +kernel⟩
  · split at hverified
    case h_1 r hr => exact ⟨r, hr⟩
    case h_2 => exact absurd hverified Bool.false_ne_true
  · have hbefore : (songLibrary true 5 2).engine.tracks[(2 : ℤ)]? =
        some (song "/media/a.mp3") := by decide +kernel
    have hafter : (syncedSongs true 5 2).1.engine.tracks[(2 : ℤ)]? =
        some { song "/media/a.mp3" with isActive := false } := by decide +kernel
    have hrow : (syncedSongs true 5 2).1.engine.queueItems[(11 : ℤ)]? =
        some ⟨1, 2, 1, .pending, none, none⟩ := by decide +kernel
    exact h.unreferenced 2 ⟨⟨_, hbefore, rfl⟩, _, hafter, rfl⟩ 1 (.inl ⟨11, _, hrow, rfl, rfl, rfl⟩)

lemma songLibrary_queue {q : QueueItem}
    (h : (songLibrary false 1 1).engine.queueItems[j]? = some q) : q.stationId = 1 ∧
      (q.status = .playing → j = 10 ∧ q.position = 1) ∧ (q.status = .pending → 10 < j) := by
  simp only [songLibrary, lookup_insert] at h
  split_ifs at h with h12 h11 h10
  · obtain rfl := Option.some.inj h
    exact ⟨rfl, by simp, fun _ => by omega⟩
  · obtain rfl := Option.some.inj h
    exact ⟨rfl, by simp, fun _ => by omega⟩
  · obtain rfl := Option.some.inj h
    exact ⟨rfl, fun _ => ⟨h10, rfl⟩, by simp⟩
  · simp at h

/-- A library without a duplicate, and a row that plays at the first position. -/
theorem sync_consistent_songs : (∃ r, (syncedSongs false 1 1).2 = .verified r) ∧
    Consistent oneFile replaceMusic (songLibrary false 1 1).engine
      (syncedSongs false 1 1).1.engine := by
  have hverified : (match (syncedSongs false 1 1).2 with | .verified _ => true | _ => false) =
      true := by decide +kernel
  split at hverified
  case h_2 => exact absurd hverified Bool.false_ne_true
  case h_1 r hr =>
    refine ⟨⟨r, hr⟩, ((sync_consistent_iff (by decide +kernel) rfl ⟨none, 0, false⟩
      (songLibrary false 1 1)).2 r hr).mpr ⟨fun _ _ _ _ _ => rfl, ?_, ?_, ?_⟩⟩
    · rintro id - st hst (⟨j, q, hq, rfl, -⟩ | ⟨j, q, hq, -⟩ | ⟨j, q, hq, -⟩)
      · exact hst (songLibrary_queue hq).1
      · exact absurd hq (by simp [songLibrary, Engine.empty])
      · exact absurd hq (by simp [songLibrary, Engine.empty])
    · rintro id ⟨x, -, key, ⟨path, hpath, -, rfl⟩, hmem, hhead⟩
      have hfile : path = "/media/a.mp3" := by
        have hfiles : files oneFile replaceMusic = ["/media/a.mp3"] := by decide +kernel
        rw [hfiles] at hpath
        exact List.mem_singleton.mp hpath
      have hrows : existingByPath oneFile replaceMusic (songLibrary false 1 1)
          (canonicalLibraryPath oneFile "/media/a.mp3") = [(1, song "/media/a.mp3")] := by
        decide +kernel
      rw [hfile, hrows] at hmem hhead
      exact absurd (congrArg some (List.mem_singleton.mp hmem).symm) hhead
    · rintro - id r hr - hplaying - q ⟨hq, -⟩ -
      obtain ⟨hrow, -, hpending⟩ := mem_waiting.mp hq
      obtain ⟨rfl, hposition⟩ := (songLibrary_queue hr).2.1 hplaying
      exact .inr ⟨hposition, (songLibrary_queue hrow).2.2 hpending⟩

end OnAir.VerifiedSync
