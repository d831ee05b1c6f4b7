import OnAir.StreamTurns

/-!
The output of a station on the standby.

A call of `apply` journals its configuration before it writes and verifies it; a call that fails
and a rollback put the row of the leader back and journal nothing. The standby writes the row of
every entry it is given, and keeps its own password.
-/

namespace OnAir.StandbyOutput

open OnAir.Database Json Programs ReplicationApplier ReplicationJournal Runs StreamConfigService
  StreamRestore StreamTurns OnAir.Table

/-! ### Runs -/

/-- The leader, and the tables of the standby once it has applied the journal of the leader. -/
structure Pair where
  leader : Service
  standby : Data

inductive Event
  /-- a draft is created, or validated -/
  | drafted (draftId : ℤ) (draft : Draft)
  /-- a secret is put into the vault -/
  | stored (reference secret : String)
  | apply (env : Env) (draftId : ℤ) (idempotencyKey overrideReason : String)
  | rollback (operationId : ℤ)

def leaderAfter (s : Service) : Event → Service
  | .drafted id draft => { s with drafts := s.drafts.insert id draft }
  | .stored reference secret =>
    { s with credentials := s.credentials.insert reference secret }
  | .apply env id key reason => final (StreamConfigService.apply env id key reason s)
  | .rollback id => final (StreamConfigService.rollback id s)

/-- The rows that have come into a journal. -/
def journaled (j j' : Journal) : List (ℤ × JournalRow) :=
  (rows j'.rows).filter fun r => (j.rows[r.1]?).isNone

def step (p : Pair) (e : Event) : Pair :=
  let leader := leaderAfter p.leader e
  ⟨leader, runRows applyRow (journaled p.leader.journal leader.journal) p.standby⟩

/-- A row without its password. -/
def exposed (r : StationOutput) : StationOutput := { r with icecastPassword := "" }

/-- The rows of the standby are those of the leader, the passwords aside. -/
def Follows (p : Pair) : Prop :=
  ∀ st : ℤ, p.standby.stationOutputs[st]?.map exposed = (output p.leader st).map exposed

/-! ### The condition on a call -/

/-- The verification of the live output, which looks at nothing in the database. -/
def verified (env : Env) (c : StreamConfig) : Bool :=
  match verifyLive env c .empty with
  | .ok _ _ => true
  | .error _ _ => false

/-- A call comes to the journal. -/
def journals (env : Env) : Bool := passes env [.safeMutation, .journal]

/-- Nothing in a call raises. -/
def goesThrough (env : Env) (s : Service) (c : StreamConfig) : Bool :=
  writesRow env (newPassword s c) && passes env [.settings, .readback, .record, .audit] &&
    verified env c

/-- The configuration was not journaled from this draft before. -/
def isNew (env : Env) (draftId : ℤ) (c : StreamConfig) (s : Service) : Bool :=
  (s.journal.find (env.sha256 (entryOf draftId c).material)).isNone

/-- A row as `_restore_previous` writes it. -/
def putBack (r : Option StationOutput) : Option StationOutput :=
  r.map fun r => exposed (restoredOutput r)

/-- Where the standby is given the configuration, the call goes through or puts back the same
row. Where it is not, the row that is there is that of the configuration, or comes back as it
was. -/
def Keeps (env : Env) (draftId : ℤ) (c : StreamConfig) (s : Service) : Prop :=
  let found := output s c.stationId
  let new := exposed (outputOf c "")
  if journals env && isNew env draftId c s then goesThrough env s c ∨ putBack found = some new
  else if goesThrough env s c then found.map exposed = some new
  else putBack found = found.map exposed

/-- The condition on an event. -/
def Followable (p : Pair) : Event → Prop
  | .apply env id key reason =>
    match beginApply id key reason p.leader with
    | .ok (.new _ c) _ => Keeps env id c p.leader
    | _ => True
  | .rollback id => ∀ op ∈ p.leader.operations[id]?,
      putBack op.previous.output = (output p.leader op.stationId).map exposed
  | _ => True

instance (env : Env) (draftId : ℤ) (c : StreamConfig) (s : Service) :
    Decidable (Keeps env draftId c s) := by
  unfold Keeps
  infer_instance

instance (p : Pair) : ∀ e : Event, Decidable (Followable p e)
  | .drafted .. => isTrue trivial
  | .stored .. => isTrue trivial
  | .apply env id key reason =>
    match h : beginApply id key reason p.leader with
    | .ok (.new _ c) _ => decidable_of_iff (Keeps env id c p.leader) (by simp [Followable, h])
    | .ok (.known _) _ => isTrue (by simp [Followable, h])
    | .error _ _ => isTrue (by simp [Followable, h])
  | .rollback id =>
    inferInstanceAs (Decidable (∀ op ∈ p.leader.operations[id]?,
      putBack op.previous.output = (output p.leader op.stationId).map exposed))

/-! ### What the standby writes -/

lemma sortKeys_publicConfig (c : StreamConfig) :
    sortKeys (.obj (publicConfig c)) = .obj (publicConfig c) := by
  simp [publicConfig, sortKeys, sortFields, insertField]

lemma toReal_orElse (m : ℤ) (p : ℕ) :
    ((Value.num m p).orElse (.num 0 0)).toReal = some ((m : ℚ) / 10 ^ p) := by
  by_cases h : m = 0 <;> simp [Value.orElse, Value.truthy, h, Value.toReal]

lemma truthy_str {s : String} (h : s ≠ "") : (Value.str s).truthy := by simp [Value.truthy, h]

lemma truthy_num {m : ℤ} (h : m ≠ 0) (p : ℕ) : (Value.num m p).truthy := by
  simp [Value.truthy, h]

/-- Every column of an accepted configuration is read back as it is. -/
lemma outputRow_publicConfig (c : StreamConfig) (st : ℤ) (existing : Option StationOutput) :
    ∃ password, outputRow (publicConfig c) st existing = some (outputOf c password) := by
  have hmount : c.icecastMount ≠ "" := by
    intro h
    have hok := c.mount_ok
    rw [h] at hok
    exact absurd hok (by decide)
  have hport : c.icecastPort ≠ 0 := by
    have := c.port_mem
    omega
  have hprofile : c.streamCodecProfile.text ≠ "" := by
    cases c.streamCodecProfile <;> decide
  have hbitrate : c.streamCodecProfile.bitrate ≠ 0 := by
    cases c.streamCodecProfile <;> decide
  refine ⟨storedPassword st ((existing.map (·.icecastPassword)).getD ""), ?_⟩
  unfold outputRow
  rw [show get (publicConfig c) "output_device_id" = .str c.outputDeviceId from rfl,
    show get (publicConfig c) "icecast_host" = .str c.icecastHost from rfl,
    show get (publicConfig c) "icecast_port" = .num c.icecastPort 0 from rfl,
    show get (publicConfig c) "icecast_mount" = .str c.icecastMount from rfl,
    show get (publicConfig c) "icecast_user" = .str c.icecastUser from rfl,
    show get (publicConfig c) "output_gain_db" =
      .num c.outputGainDb.mantissa c.outputGainDb.places from rfl,
    show get (publicConfig c) "stream_codec_profile" = .str c.streamCodecProfile.text from rfl,
    show get (publicConfig c) "stream_bitrate_kbps" =
      .num c.streamCodecProfile.bitrate 0 from rfl,
    orElse_str, orElse_of_truthy (truthy_str c.host_ne), orElse_of_truthy (truthy_num hport 0),
    orElse_of_truthy (truthy_str hmount), orElse_of_truthy (truthy_str c.user_ne), toReal_orElse,
    orElse_of_truthy (truthy_str hprofile), orElse_of_truthy (truthy_num hbitrate 0)]
  simp only [Value.text, Value.toInt, Option.bind_eq_bind, Option.bind_some, pow_zero,
    Int.tdiv_one, if_neg hbitrate]
  rfl

/-- The standby writes the row of a configuration that is journaled, and no other. -/
lemma applyRow_entryOf (draftId : ℤ) (c : StreamConfig) (d : Data) :
    ∃ d', applyRow (entryOf draftId c) d = some (d', true) ∧ ∀ st : ℤ,
      d'.stationOutputs[st]?.map exposed = if st = c.stationId then some (exposed (outputOf c ""))
        else d.stationOutputs[st]?.map exposed := by
  have hloads : loads (entryOf draftId c).payloadJson = some (.obj (publicConfig c)) := by
    rw [entryOf, loads_canonicalJson, sortKeys_publicConfig]
  have hne : (entryOf draftId c).payloadJson ≠ "" := by
    have hempty : loads "" = none := by decide
    intro h
    simp [h, hempty] at hloads
  obtain ⟨password, hrow⟩ := outputRow_publicConfig c c.stationId d.stationOutputs[c.stationId]?
  have hst : (get (publicConfig c) "station_id").toInt = some c.stationId := by
    rw [show get (publicConfig c) "station_id" = .num c.stationId 0 from rfl]
    simp [Value.toInt]
  unfold applyRow applyStreamConfig
  simp only [if_neg hne, hloads, Option.bind_eq_bind, Option.bind_some, Value.fields, hst, hrow]
  refine ⟨_, rfl, fun st => ?_⟩
  change (d.stationOutputs.insert c.stationId (outputOf c password))[st]?.map exposed = _
  rw [lookup_insert]
  split_ifs <;> rfl

/-! ### What a call journals -/

/-- At most one row has come into the journal. -/
def Gained (j j' : Journal) : Option Entry → Prop
  | none => ∀ k : ℤ, j'.rows[k]?.isSome → j.rows[k]?.isSome
  | some e => ∃ (k : ℤ) (r : JournalRow), j.rows[k]? = none ∧ j'.rows[k]? = some r ∧ r.entry = e ∧
      ∀ l ≠ k, j'.rows[l]?.isSome → j.rows[l]?.isSome

lemma mem_journaled {j j' : Journal} {k : ℤ} {r : JournalRow} :
    (k, r) ∈ journaled j j' ↔ j'.rows[k]? = some r ∧ j.rows[k]? = none := by
  rw [journaled, List.mem_filter, mem_rows, Option.isNone_iff_eq_none]

/-- The entries that the standby is given. -/
lemma Gained.entries {j j' : Journal} {new : Option Entry} (h : Gained j j' new) :
    (journaled j j').map (·.2.entry) = new.toList := by
  cases new with
  | none =>
    have hnil : journaled j j' = [] := by
      refine List.eq_nil_iff_forall_not_mem.mpr fun ⟨k, r⟩ hr => ?_
      obtain ⟨hr, hnone⟩ := mem_journaled.mp hr
      have hsome := h k (by rw [hr]; rfl)
      rw [hnone] at hsome
      cases hsome
    rw [hnil]
    rfl
  | some e =>
    obtain ⟨k, r, hk, hr, rfl, hold⟩ := h
    have hsingle : journaled j j' = [(k, r)] := by
      refine ((rows_sorted j'.rows).filter _).eq_of_mem_iff (List.pairwise_singleton _ _)
        fun {q} => ?_
      obtain ⟨l, q⟩ := q
      refine mem_journaled.trans ?_
      rw [List.mem_singleton, Prod.mk.injEq]
      constructor
      · rintro ⟨hq, hnone⟩
        by_cases hl : l = k
        · subst hl
          exact ⟨rfl, Option.some.inj (hq.symm.trans hr)⟩
        · have hsome := hold l hl (by rw [hq]; rfl)
          rw [hnone] at hsome
          cases hsome
      · rintro ⟨rfl, rfl⟩
        exact ⟨hr, hk⟩
    rw [hsingle]
    rfl

/-- What a call leaves alone: the rows of other stations, and the entries of the journal. -/
structure Framed (st : ℤ) (s s' : Service) : Prop where
  others : ∀ j : ℤ, j ≠ st → output s' j = output s j
  entries : ∀ k : ℤ, s'.journal.rows[k]?.map (·.entry) = s.journal.rows[k]?.map (·.entry)

instance (st : ℤ) : IsPreorder Service (Framed st) where
  refl _ := ⟨fun _ _ => rfl, fun _ => rfl⟩
  trans _ _ _ h h' :=
    ⟨fun j hj => (h'.others j hj).trans (h.others j hj),
      fun k => (h'.entries k).trans (h.entries k)⟩

lemma Gained.framed {s s' : Service} {st : ℤ} {j : Journal} {new : Option Entry}
    (h : Gained j s.journal new) (hf : Framed st s s') : Gained j s'.journal new := by
  have hsome : ∀ k : ℤ, s'.journal.rows[k]?.isSome = s.journal.rows[k]?.isSome := fun k => by
    rw [← Option.isSome_map (f := (·.entry)), hf.entries, Option.isSome_map]
  cases new with
  | none => exact fun k hk => h k (by rwa [← hsome])
  | some e =>
    obtain ⟨k, r, hk, hr, rfl, hold⟩ := h
    have hr' := hf.entries k
    rw [hr] at hr'
    obtain ⟨r', hr'', he⟩ := Option.map_eq_some_iff.mp hr'
    exact ⟨k, r', hk, hr'', he, fun l hl hs => hold l hl (by rwa [← hsome])⟩

lemma gained_refl (j : Journal) : Gained j j none := fun _ h => h

section Changes

variable {s : Service} {env : Env} {c : StreamConfig} {st id draftId : ℤ}

lemma gained_appendJournal : Gained s.journal (appendJournal env draftId c s).journal
    (if isNew env draftId c s then some (entryOf draftId c) else none) := by
  unfold isNew appendJournal
  cases hf : s.journal.find (env.sha256 (entryOf draftId c).material) with
  | some k =>
    intro l hl
    have hknown : s.journal.find (env.sha256 (entryOf draftId c).material) ≠ none := by
      rw [hf]
      simp
    dsimp only at hl
    rwa [Journal.append_of_known env.sha256 hknown] at hl
  | none =>
    have hk : s.journal.rows[s.journal.autoSeq + 1]? = none := Journal.lookup_above (by omega)
    have hins := Journal.insertOrIgnore_of_free
      (r := Journal.ownRow env.sha256 (entryOf draftId c)) hk hf
    refine ⟨s.journal.autoSeq + 1, Journal.ownRow env.sha256 (entryOf draftId c), hk, ?_, rfl,
      fun l hl hs => ?_⟩
    · dsimp only [Journal.append]
      rw [hins, lookup_insert, if_pos rfl]
    · dsimp only [Journal.append] at hs
      rwa [hins, lookup_insert, if_neg hl] at hs

lemma entries_markReplicated (j : Journal) (k l : ℤ) :
    (j.markReplicated k).rows[l]?.map (·.entry) = j.rows[l]?.map (·.entry) := by
  rw [Journal.markReplicated, Journal.update, lookup_modify]
  split_ifs
  · rw [Option.map_map]
    rfl
  · rfl

lemma framed_replicateOrdered (s : Service) : Framed st s (replicateOrdered env draftId c s) := by
  unfold replicateOrdered
  split
  · exact refl_of (Framed st) s
  · refine ⟨fun _ _ => rfl, ?_⟩
    exact inv_of_foldl (P := fun j : Journal => ∀ k : ℤ,
        j.rows[k]?.map (·.entry) = s.journal.rows[k]?.map (·.entry))
      (fun j r h k => (entries_markReplicated j r.1 k).trans (h k)) _ fun _ => rfl

lemma framed_of_kept {s' : Service} (h : Kept s s') (hj : s'.journal = s.journal) :
    Framed st s s' :=
  ⟨fun j _ => by rw [output, h.output, output], fun k => by rw [hj]⟩

lemma framed_upsertSettings (values : List (String × String)) (j : ℤ) (s : Service) :
    Framed st s (upsertSettings j values s) :=
  framed_of_kept (kept_upsertSettings j values s) rfl

lemma framed_markApplied (s : Service) : Framed st s (markApplied id draftId s) :=
  framed_of_kept (kept_markApplied id draftId s) rfl

lemma framed_check (p : Point) : Moves (Framed st) (check env p) := by
  unfold check
  cases env.raises p with
  | none => exact Moves.pure _
  | some e => exact Moves.throw _

lemma stateless_check (p : Point) : Stateless (check env p) := by
  unfold check
  cases env.raises p with
  | none => exact .pure _
  | some e => exact .throw _

lemma stateless_listen (icecast : Bool) (rs : List Round) (successes failures : ℕ) (last : Bool) :
    Stateless (listen icecast rs successes failures last) := by
  induction rs generalizing successes failures last with
  | nil => exact .pure _
  | cons r rs ih =>
    unfold StreamConfigService.listen
    refine .ite (fun _ => .throw _) fun _ => .ite (fun _ => ih ..) fun _ => ?_
    exact .ite (fun _ => ih ..) fun _ => .ite (fun _ => .throw _) fun _ => ih ..

/-- The verification looks at nothing in the database. -/
lemma stateless_verifyLive (c : StreamConfig) : Stateless (verifyLive env c) := by
  unfold verifyLive
  split
  · exact .pure _
  · refine .ite (fun _ => .throw _) fun _ => (stateless_check _).bind fun _ => ?_
    refine .ite (fun _ => .throw _) fun _ => (stateless_listen ..).bind fun r => ?_
    refine (stateless_check _).bind fun _ => ?_
    exact .ite (fun _ => .throw _) fun _ => .pure _

lemma verifyLive_ends (c : StreamConfig) (s : Service) : Ends (verifyLive env c) s
    (fun _ s' => s' = s ∧ verified env c = true) (fun s' => s' = s ∧ verified env c = false) := by
  refine ((stateless_verifyLive c).ends s .empty).mono (fun a s' h => ⟨h.1, ?_⟩)
    fun s' h => ⟨h.1, ?_⟩
  · rw [verified, h.2]
  · obtain ⟨-, e, he⟩ := h
    rw [verified, he]

lemma framed_upsert (o : StationOutput) : Moves (Framed st) (upsert env st o) := by
  have hput : ∀ given : String, Moves (Framed st) (do
      check env .output
      modify (putOutput st given o)) := by
    intro given
    refine (framed_check _).bind fun _ => Moves.modify fun s => ⟨fun j hj => ?_, fun _ => rfl⟩
    rw [output, putOutput, lookup_insert, if_neg hj, output]
  unfold upsert
  refine Moves.bindGet fun s => Moves.ite (fun _ => ?_) fun _ => hput _
  refine (framed_check _).bind fun _ => Moves.bindModify (fun s => ?_) fun _ => hput _
  exact ⟨fun _ _ => rfl, fun _ => rfl⟩

/-- What becomes of the other stations and of the journal in a call. -/
structure Called (env : Env) (draftId : ℤ) (c : StreamConfig) (s s' : Service) : Prop where
  others : ∀ j : ℤ, j ≠ c.stationId → output s' j = output s j
  gained : Gained s.journal s'.journal
    (if journals env && isNew env draftId c s then some (entryOf draftId c) else none)

lemma Called.framed {s' s'' : Service} (h : Called env draftId c s s')
    (hf : Framed c.stationId s' s'') : Called env draftId c s s'' :=
  ⟨fun j hj => (hf.others j hj).trans (h.others j hj), h.gained.framed hf⟩

lemma called_applyChanges (s : Service) : Ends (applyChanges env id draftId c) s
    (fun _ => Called env draftId c s) (Called env draftId c s) := by
  have hnot : journals env = false → Called env draftId c s s := fun hj =>
    ⟨fun _ _ => rfl, by rw [hj]; exact gained_refl _⟩
  have hrest : Moves (Framed c.stationId) (applyOutput env c id draftId) := by
    refine (framed_check _).bind fun _ => Moves.bindGet fun s => ?_
    refine (framed_upsert _).bind fun _ => (framed_check _).bind fun _ => ?_
    refine Moves.bindModify (framed_upsertSettings _ _) fun _ => ?_
    refine (framed_check _).bind fun _ => Moves.bindGet fun s => ?_
    refine Moves.ite (fun _ => Moves.throw _) fun _ => ?_
    have hlive : Moves (Framed c.stationId) (verifyLive env c) := by
      refine ⟨fun s => (verifyLive_ends c s).mono ?_ ?_⟩
      · rintro a s' ⟨rfl, -⟩
        exact refl_of (Framed c.stationId) s'
      · rintro s' ⟨rfl, -⟩
        exact refl_of (Framed c.stationId) s'
    refine hlive.bind fun live => (framed_check _).bind fun _ => ?_
    refine Moves.bindModify framed_markApplied fun _ => ?_
    exact (framed_check _).bind fun _ => Moves.pure _
  unfold applyChanges
  rw [ends_bind, ends_check]
  refine ⟨fun hsafe => ?_, fun hraise => hnot (by simp [journals, passes, hraise])⟩
  rw [ends_bind, ends_check]
  refine ⟨fun hjournal => ?_, fun hraise => hnot (by simp [journals, passes, hraise])⟩
  rw [ends_bind, ends_modify]
  have hcalled : Called env draftId c s (appendJournal env draftId c s) := by
    have hj : journals env = true := by simp [journals, passes, hsafe, hjournal]
    refine ⟨fun _ _ => rfl, ?_⟩
    rw [hj, Bool.true_and]
    exact gained_appendJournal
  refine Ends.ite (fun _ => ?_) fun _ => ?_
  · rw [ends_bind, ends_check]
    refine ⟨fun _ => ?_, fun _ => hcalled⟩
    rw [ends_bind, ends_modify]
    exact (hrest.after (framed_replicateOrdered _)).mono (fun _ _ h => hcalled.framed h)
      fun _ h => hcalled.framed h
  · exact (hrest.ends _).mono (fun _ _ h => hcalled.framed h) fun _ h => hcalled.framed h

/-- The row that a call has written. -/
def Wrote (c : StreamConfig) (s : Service) : Prop :=
  (output s c.stationId).map exposed = some (exposed (outputOf c ""))

lemma Wrote.kept {s' : Service} (h : Wrote c s) (hk : Kept s s') : Wrote c s' := by
  unfold Wrote output at *
  rwa [hk.output]

/-- From the output on, a call goes through if nothing raises. -/
lemma finishApply_goes {s' : Service} (h : Wrote c s') (hw : writesRow env (newPassword s c)) :
    Ends (finishApply env c id draftId) s'
      (fun _ s'' => goesThrough env s c = true ∧ Wrote c s'')
      (fun _ => goesThrough env s c = false) := by
  have hsettings := kept_upsertSettings c.stationId (settingsOf c) s'
  unfold finishApply
  rw [ends_bind, ends_check]
  refine ⟨fun h1 => ?_, fun hraise => by simp [goesThrough, passes, hraise]⟩
  rw [ends_bind, ends_modify]
  generalize upsertSettings c.stationId (settingsOf c) s' = s₁ at hsettings ⊢
  have hwrote : Wrote c s₁ := h.kept hsettings
  rw [ends_bind, ends_check]
  refine ⟨fun h2 => ?_, fun hraise => by simp [goesThrough, passes, hraise]⟩
  rw [ends_bind, ends_get]
  -- the row that is read back is the one that was written
  obtain ⟨r, hr, hexp⟩ := Option.map_eq_some_iff.mp hwrote
  have hhost : r.icecastHost = c.icecastHost := congrArg StationOutput.icecastHost hexp
  have hmount : r.icecastMount = c.icecastMount := congrArg StationOutput.icecastMount hexp
  rw [hr]
  refine Ends.ite (fun hne => absurd hne (by simp [hhost, hmount])) fun _ => ?_
  refine Ends.bind ((verifyLive_ends c s₁).mono (fun _ _ hq => hq) ?_) ?_
  · rintro s₂ ⟨-, hv⟩
    simp [goesThrough, hv]
  rintro live s₂ ⟨rfl, hv⟩
  rw [ends_bind, ends_check]
  refine ⟨fun h3 => ?_, fun hraise => by simp [goesThrough, passes, hraise]⟩
  rw [ends_bind, ends_modify, ends_bind, ends_check]
  refine ⟨fun h4 => ?_, fun hraise => by simp [goesThrough, passes, hraise]⟩
  rw [ends_pure]
  exact ⟨by simp [goesThrough, passes, hw, h1, h2, h3, h4, hv],
    hwrote.kept (kept_markApplied id draftId s₂)⟩

lemma wrote_putOutput (given password : String) (s : Service) :
    Wrote c (putOutput c.stationId given (outputOf c password) s) := by
  have hprofile : c.streamCodecProfile.text ≠ "" := by
    cases c.streamCodecProfile <;> decide
  have hbitrate : c.streamCodecProfile.bitrate ≠ 0 := by
    cases c.streamCodecProfile <;> decide
  rw [Wrote, output, putOutput, lookup_insert, if_pos rfl]
  simp [exposed, outputOf, hprofile, hbitrate]

/-- A call goes through if nothing raises, and then the row is that of the configuration. -/
lemma applyChanges_goes (s : Service) : Ends (applyChanges env id draftId c) s
    (fun _ s' => goesThrough env s c = true ∧ Wrote c s')
    (fun _ => goesThrough env s c = false) := by
  have hrest : ∀ s', Kept s s' → env.raises .safeMutation = none → env.raises .journal = none →
      (env.haEnabled = true → env.raises .replicate = none) →
      Ends (applyOutput env c id draftId) s' (fun _ s' => goesThrough env s c = true ∧ Wrote c s')
        (fun _ => goesThrough env s c = false) := by
    intro s' hk hsafe hjournal hrep
    unfold applyOutput
    rw [ends_bind, ends_check]
    refine ⟨fun hres => ?_, fun hraise => by
      simp [goesThrough, writesRow, reachesOutput, passes, hraise]⟩
    have hreach : reachesOutput env := by
      cases hha : env.haEnabled with
      | false => simp [reachesOutput, passes, hsafe, hjournal, hres, hha]
      | true => simp [reachesOutput, passes, hsafe, hjournal, hres, hrep hha]
    have hgiven : givenPassword (output s' c.stationId)
        (resolveCredential s' c.passwordReference) = newPassword s c := by
      unfold newPassword output resolveCredential
      rw [hk.output, hk.credentials]
    have hput : ∀ t : Service, (isPlain (newPassword s c) → env.raises .credential = none) →
        Ends (do
          check env .output
          modify (putOutput c.stationId (newPassword s c)
            (outputOf c (resolveCredential s' c.passwordReference)))) t
          (fun _ t' => writesRow env (newPassword s c) = true ∧ Wrote c t')
          (fun _ => goesThrough env s c = false) := by
      intro t hcred
      rw [ends_bind, ends_check]
      refine ⟨fun hout => ⟨?_, wrote_putOutput ..⟩, fun hraise => by
        simp [goesThrough, writesRow, passes, hraise]⟩
      cases hp : isPlain (newPassword s c) with
      | false => simp [writesRow, hreach, passes, hout, hp]
      | true => simp [writesRow, hreach, passes, hout, hcred hp]
    have hwritten : Ends (upsert env c.stationId
          (outputOf c (resolveCredential s' c.passwordReference))) s'
        (fun _ t => writesRow env (newPassword s c) = true ∧ Wrote c t)
        (fun _ => goesThrough env s c = false) := by
      unfold upsert
      rw [ends_bind, ends_get]
      have hpass : (outputOf c (resolveCredential s' c.passwordReference)).icecastPassword =
          resolveCredential s' c.passwordReference := rfl
      rw [hpass, hgiven]
      refine Ends.ite (fun hplain => ?_) fun hplain => hput _ fun h => absurd h hplain
      rw [ends_bind, ends_check]
      refine ⟨fun hcred => ?_, fun hraise => by
        simp [goesThrough, writesRow, passes, hplain, hraise]⟩
      rw [ends_bind, ends_modify]
      exact hput _ fun _ => hcred
    rw [ends_bind, ends_get]
    exact hwritten.bind fun _ t ht => finishApply_goes ht.2 ht.1
  unfold applyChanges
  rw [ends_bind, ends_check]
  refine ⟨fun hsafe => ?_, fun hraise => by
    simp [goesThrough, writesRow, reachesOutput, passes, hraise]⟩
  rw [ends_bind, ends_check]
  refine ⟨fun hjournal => ?_, fun hraise => by
    simp [goesThrough, writesRow, reachesOutput, passes, hraise]⟩
  have hkept : Kept s (appendJournal env draftId c s) := ⟨rfl, rfl, fun _ => rfl⟩
  rw [ends_bind, ends_modify]
  refine Ends.ite (fun hha => ?_) fun hha => hrest _ hkept hsafe hjournal fun h => absurd h hha
  rw [ends_bind, ends_check]
  refine ⟨fun hrep => ?_, fun hraise => by
    simp [goesThrough, writesRow, reachesOutput, passes, hha, hraise]⟩
  rw [ends_bind, ends_modify]
  exact hrest _ (trans_of Kept hkept (kept_replicateOrdered ..)) hsafe hjournal fun _ => hrep

end Changes

/-! ### What is put back -/

section PutBack

variable {s s₁ : Service} {env : Env} {c : StreamConfig} {id draftId : ℤ} {key reason : String}

lemma exposed_restored (op : Operation) (s : Service) :
    (output (restored op s) op.stationId).map exposed = putBack op.previous.output := by
  rw [output_restored]
  unfold restoreOutput
  cases op.previous.output with
  | some r =>
    dsimp only
    rw [output_upsertOutput]
    rfl
  | none =>
    dsimp only [output]
    rw [lookup_erase, if_pos rfl]
    rfl

lemma framed_upsertOutput (st : ℤ) (o : StationOutput) (s : Service) :
    Framed st s (upsertOutput st o s) := by
  unfold upsertOutput
  dsimp only
  generalize isPlain _ = plain
  refine ⟨fun j hj => ?_, fun k => ?_⟩
  · dsimp only [output, putOutput]
    rw [lookup_insert, if_neg hj]
    cases plain <;> rfl
  · cases plain <;> rfl

lemma framed_restoreOutput (op : Operation) (s : Service) :
    Framed op.stationId s (restoreOutput op s) := by
  unfold restoreOutput
  cases op.previous.output with
  | some r => exact framed_upsertOutput ..
  | none =>
    refine ⟨fun j hj => ?_, fun _ => rfl⟩
    dsimp only [output]
    rw [lookup_erase, if_neg hj]

lemma framed_restored (op : Operation) (s : Service) : Framed op.stationId s (restored op s) := by
  have hclear : Framed op.stationId (restoreOutput op s)
      (clearSettings op.stationId (restoreOutput op s)) := ⟨fun _ _ => rfl, fun _ => rfl⟩
  exact trans_of (Framed op.stationId) (framed_restoreOutput op s)
    (trans_of (Framed op.stationId) hclear (framed_upsertSettings ..))

/-- What a call makes of the leader. -/
structure Led (env : Env) (draftId : ℤ) (c : StreamConfig) (s s' : Service) : Prop where
  called : Called env draftId c s s'
  row : (output s' c.stationId).map exposed =
    if goesThrough env s c then some (exposed (outputOf c ""))
    else putBack (output s c.stationId)

lemma led_apply (hb : beginApply draftId key reason s = .ok (.new id c) s₁) :
    Led env draftId c s (final (StreamConfigService.apply env draftId key reason s)) := by
  obtain ⟨operation, hs₁, -, hst, hp⟩ := beginApply_new hb
  have hop : s₁.operations[id]? = some operation := by
    rw [hs₁, lookup_insert, if_pos rfl]
  have hcalled : ∀ {s' : Service}, Called env draftId c s₁ s' → Called env draftId c s s' := by
    subst hs₁
    exact fun h => ⟨h.others, h.gained⟩
  have hgoes : goesThrough env s₁ c = goesThrough env s c := by
    rw [hs₁]
    rfl
  refine Ends.final (P := Led env draftId c s) ?_
  unfold StreamConfigService.apply
  rw [ends_bind]
  unfold Ends
  rw [hb]
  change Ends (applyOperation env id draftId c >>= fun _ => pure id) s₁ _ _
  rw [ends_bind]
  unfold applyOperation
  rw [ends_tryCatch]
  have hends : Ends (applyChanges env id draftId c) s₁
      (fun _ s' => (Written env c s₁ s' ∧ Called env draftId c s₁ s') ∧
        goesThrough env s₁ c = true ∧ Wrote c s')
      (fun s' => (Written env c s₁ s' ∧ Called env draftId c s₁ s') ∧
        goesThrough env s₁ c = false) :=
    ((applyChanges_ends s₁ id draftId).and (called_applyChanges s₁)).and (applyChanges_goes s₁)
  unfold Ends at hends
  cases hr : applyChanges env id draftId c s₁ with
  | ok live s₂ =>
    rw [hr] at hends
    obtain ⟨⟨-, hcall⟩, hgo, hwrote⟩ := hends
    exact ⟨hcalled hcall, by rw [← hgoes, hgo]; exact hwrote⟩
  | error e s₂ =>
    rw [hr] at hends
    obtain ⟨⟨hwritten, hcall⟩, hgo⟩ := hends
    have hsaved := hwritten.saved id
    rw [hop] at hsaved
    obtain ⟨op, hop₂, heq⟩ := Option.map_eq_some_iff.mp hsaved
    obtain ⟨hst₂, hp₂⟩ := Prod.mk.inj heq
    have hopst : op.stationId = c.stationId := hst₂.trans hst
    have hled : Led env draftId c s (restored op s₂) := by
      refine ⟨(hcalled hcall).framed (hopst ▸ framed_restored op s₂), ?_⟩
      have hrow := exposed_restored op s₂
      rw [hopst] at hrow
      rw [← hgoes, hgo, hrow, hp₂, hp]
      rfl
    dsimp only
    refine (restorePrevious_ends hop₂ hled).bind fun _ s' h => ?_
    rw [ends_bind, ends_modify, ends_throw]
    exact ⟨⟨h.called.others, h.called.gained⟩, h.row⟩

/-- What a rollback makes of the leader. -/
lemma rollback_some {op : Operation} (hop : s.operations[id]? = some op) :
    Framed op.stationId s (final (StreamConfigService.rollback id s)) ∧
      (output (final (StreamConfigService.rollback id s)) op.stationId).map exposed =
        putBack op.previous.output := by
  have hback : Framed op.stationId s (restored op s) ∧
      (output (restored op s) op.stationId).map exposed = putBack op.previous.output :=
    ⟨framed_restored op s, exposed_restored op s⟩
  refine Ends.final (P := fun s' => Framed op.stationId s s' ∧
    (output s' op.stationId).map exposed = putBack op.previous.output) ?_
  unfold StreamConfigService.rollback
  refine (restorePrevious_ends hop hback).bind fun _ s' h => ?_
  exact ⟨⟨h.1.others, h.1.entries⟩, h.2⟩

lemma rollback_none (hop : s.operations[id]? = none) :
    final (StreamConfigService.rollback id s) = s := by
  refine Ends.final (P := fun s' => s' = s) ?_
  unfold StreamConfigService.rollback restorePrevious
  rw [ends_bind, ends_bind, ends_get, hop]
  rfl

/-- A call that is refused, or that finds its key in use, changes nothing. -/
lemma beginApply_same (draftId : ℤ) (key reason : String) (s : Service) :
    Ends (beginApply draftId key reason) s
      (fun begun s₁ => ∀ id, begun = .known id → s₁ = s) (fun s' => s' = s) := by
  unfold beginApply
  refine Ends.ite (fun _ => rfl) fun _ => ?_
  rw [ends_bind, ends_get]
  dsimp only
  split
  · exact fun _ _ => rfl
  · split
    · rfl
    · refine Ends.ite (fun _ => rfl) fun _ => Ends.ite (fun _ => rfl) fun _ => ?_
      rw [ends_bind, ends_set, ends_pure]
      exact fun id h => by cases h

lemma apply_other (h : ∀ id c s₁, beginApply draftId key reason s ≠ .ok (.new id c) s₁) :
    final (StreamConfigService.apply env draftId key reason s) = s := by
  have hbegin := beginApply_same draftId key reason s
  refine Ends.final (P := fun s' => s' = s) ?_
  unfold StreamConfigService.apply
  rw [ends_bind]
  unfold Ends at hbegin ⊢
  cases hr : beginApply draftId key reason s with
  | error e s' =>
    rw [hr] at hbegin
    exact hbegin
  | ok begun s' =>
    rw [hr] at hbegin
    cases begun with
    | known id => exact hbegin id rfl
    | new id c => exact absurd hr (h id c s')

end PutBack

/-! ### Runs that the standby follows -/

section Follow

variable {p p' : Pair} {e : Event}

/-- What the standby makes of the entry of a call. -/
lemma standby_gained {j j' : Journal} {new : Option Entry} (h : Gained j j' new) (d : Data) :
    runRows applyRow (journaled j j') d =
      new.elim d fun e => ((applyRow e d).map Prod.fst).getD d := by
  have hfold : runRows applyRow (journaled j j') d =
      ((journaled j j').map (·.2.entry)).foldl
        (fun d e => ((applyRow e d).map Prod.fst).getD d) d := by
    rw [List.foldl_map]
    rfl
  rw [hfold, h.entries]
  cases new <;> rfl

/-- Where only one station is touched, the standby follows if it does so there. -/
lemma follows_iff {leader : Service} {standby : Data} {st : ℤ} (h : Follows p)
    (hl : ∀ j : ℤ, j ≠ st → output leader j = output p.leader j)
    (hs : ∀ j : ℤ, j ≠ st → standby.stationOutputs[j]?.map exposed =
      p.standby.stationOutputs[j]?.map exposed) :
    Follows ⟨leader, standby⟩ ↔
      standby.stationOutputs[st]?.map exposed = (output leader st).map exposed := by
  refine ⟨fun hf => hf st, fun hst j => ?_⟩
  by_cases hj : j = st
  · rw [hj]
    exact hst
  · dsimp only
    rw [hs j hj, hl j hj]
    exact h j

lemma follows_same (h : Follows p) {leader : Service} (hj : leader.journal = p.leader.journal)
    (hout : ∀ j, output leader j = output p.leader j) :
    Follows ⟨leader, runRows applyRow (journaled p.leader.journal leader.journal) p.standby⟩ := by
  intro j
  rw [hj, standby_gained (gained_refl _)]
  dsimp only
  rw [hout]
  exact h j

/-- **The standby follows one call** exactly under the condition on it. -/
lemma follows_step (h : Follows p) : Follows (step p e) ↔ Followable p e := by
  cases e with
  | drafted id draft => exact iff_of_true (follows_same h rfl fun _ => rfl) trivial
  | stored reference secret => exact iff_of_true (follows_same h rfl fun _ => rfl) trivial
  | rollback id =>
    cases hop : p.leader.operations[id]? with
    | none =>
      have hnone : leaderAfter p.leader (.rollback id) = p.leader := rollback_none hop
      refine iff_of_true ?_ fun op hmem => ?_
      · rw [step, hnone]
        exact follows_same h rfl fun _ => rfl
      · rw [hop] at hmem
        cases hmem
    | some op =>
      have hback : Framed op.stationId p.leader (leaderAfter p.leader (.rollback id)) ∧
          (output (leaderAfter p.leader (.rollback id)) op.stationId).map exposed =
            putBack op.previous.output := rollback_some hop
      obtain ⟨hf, hrow⟩ := hback
      have hst := (h op.stationId).symm
      have hiff : Followable p (.rollback id) ↔
          putBack op.previous.output = (output p.leader op.stationId).map exposed := by
        simp [Followable, hop]
      rw [hiff, step, standby_gained ((gained_refl _).framed hf)]
      refine (follows_iff h hf.others fun _ _ => rfl).trans ?_
      rw [hrow, ← hst]
      exact eq_comm
  | apply env id key reason =>
    by_cases hb : ∃ operationId c s₁,
        beginApply id key reason p.leader = .ok (.new operationId c) s₁
    · obtain ⟨operationId, c, s₁, hb⟩ := hb
      have hled : Led env id c p.leader (leaderAfter p.leader (.apply env id key reason)) :=
        led_apply hb
      have hst := h c.stationId
      have hiff : Followable p (.apply env id key reason) ↔ Keeps env id c p.leader := by
        simp [Followable, hb]
      rw [hiff, step, standby_gained hled.called.gained]
      generalize leaderAfter p.leader (.apply env id key reason) = leader at hled ⊢
      obtain ⟨d', happ, hrows⟩ := applyRow_entryOf id c p.standby
      unfold Keeps
      cases hnew : journals env && isNew env id c p.leader with
      | true =>
        rw [if_pos rfl, if_pos rfl, Option.elim, happ]
        refine (follows_iff h hled.called.others fun j hj => ?_).trans ?_
        · exact (hrows j).trans (if_neg hj)
        · dsimp only [Option.map_some, Option.getD_some]
          rw [hrows, if_pos rfl, hled.row]
          cases goesThrough env p.leader c with
          | true => simp
          | false => simp [eq_comm]
      | false =>
        rw [if_neg (by simp), if_neg (by simp), Option.elim]
        refine (follows_iff h hled.called.others fun j hj => rfl).trans ?_
        rw [hst, hled.row]
        cases goesThrough env p.leader c with
        | true => simp
        | false => simp [eq_comm]
    · push Not at hb
      have hsame : leaderAfter p.leader (.apply env id key reason) = p.leader :=
        apply_other hb
      refine iff_of_true ?_ ?_
      · rw [step, hsame]
        exact follows_same h rfl fun _ => rfl
      · unfold Followable
        dsimp only
        split
        next operationId c s₁ hr => exact absurd hr (hb operationId c s₁)
        next => trivial

end Follow

/-! ### A call that fails -/

/-- A leader and a standby on the old destination. -/
def onOldDestinations : Pair := ⟨onOldDestination, onOldDestination.data⟩

/-- A call of the leader in which one place may raise. -/
def leaderCall (point : Option Point) : Event :=
  .apply { raising point with haEnabled := true } 1 "key" ""

end OnAir.StandbyOutput
