import OnAir.RoleChange
import OnAir.Transactions

/-!
`apply_pending` by statements, and what is left of it by a crash.

A stream configuration commits twice, and with it everything that was done before. All else waits
for the end of the batch. So a crash leaves rows that are applied and marked, and perhaps one more
configuration that is written and not marked.
-/

namespace OnAir.CrashedBatch

open Acknowledgement OnAir.Database Json ReplicationApplier ReplicationJournal OnAir.Table
  Transactions

/-! ### Statements -/

/-- A write to the tables other than the journal. -/
def onData (f : Data → Option Data) (s : Replica Data) : Option (Replica Data) :=
  (f s.data).map fun d => { s with data := d }

def dataWrite (f : Data → Option Data) : Statement (Replica Data) := .write (onData f)

/-- An exception before the next statement. -/
def raises : Data → Option Data := fun _ => none

/-- `UPDATE replication_journal SET applied_at`. -/
def mark (k : ℤ) (s : Replica Data) : Option (Replica Data) :=
  some { s with journal := s.journal.markApplied k }

/-- One upsert for each row of a payload. -/
def upserts (upsert : Data → Value → Option Data) (rows : Value) : List (Data → Option Data) :=
  match rows.elems with
  | none => [raises]
  | some sources => sources.map fun source d => upsert d source

def guestRoomWrites (payload : Fields) : List (Data → Option Data) :=
  upserts upsertInvite (getD payload "invites" (.arr [])) ++
    upserts upsertSession (getD payload "sessions" (.arr []))

def guestRecordingWrites (payload : Fields) : List (Data → Option Data) :=
  match ((get payload "recording").orElse (.obj [])).fields with
  | none => [raises]
  | some row =>
    if row = [] then []
    else
      let upsertRecording (d : Data) : Option Data := do
        let (id, r) ← recordingRow row
        return { d with guestRecordings := d.guestRecordings.insert id r }
      upsertRecording :: upserts upsertConsent (getD payload "consents" (.arr []))

/-- `StationOutputRepository.upsert`. -/
def writeOutput (config : Fields) (stationId : ℤ) (d : Data) : Option Data := do
  let row ← outputRow config stationId d.stationOutputs[stationId]?
  return { d with stationOutputs := d.stationOutputs.insert stationId row }

def streamConfigStatements (config : Fields) : List (Statement (Replica Data)) :=
  match (get config "station_id").toInt with
  | none => [dataWrite raises]
  | some stationId =>
    let tls := if (get config "icecast_tls_enabled").truthy then "true" else "false"
    [dataWrite (writeOutput config stationId), .commit,
      dataWrite fun d => some (setSetting d stationId "icecast_tls_enabled" tls),
      dataWrite fun d => some (setSetting d stationId "icecast_password" ""), .commit]

/-- The statements of an entry. -/
def entryStatements (e : Entry) : List (Statement (Replica Data)) :=
  let text := if e.payloadJson = "" then "\x7b\x7d" else e.payloadJson
  match loads text with
  | none => [dataWrite raises]
  | some payload =>
    let on (statements : Fields → List (Statement (Replica Data))) :=
      match payload.fields with
      | none => [dataWrite raises]
      | some f => statements f
    if e.entityType = "stream_config" then on streamConfigStatements
    else if e.entityType = "guest_room" then on fun f => (guestRoomWrites f).map dataWrite
    else if e.entityType = "guest_recording" then
      on fun f => (guestRecordingWrites f).map dataWrite
    else if e.entityType = "schedule" then on fun f => [dataWrite (applySchedule e.operation f)]
    else []

def rowStatements (r : ℤ × JournalRow) : List (Statement (Replica Data)) :=
  entryStatements r.2.entry ++ [.write (mark r.1)]

/-- The statements of a batch. -/
def batch (rows : List (ℤ × JournalRow)) : List (Statement (Replica Data)) :=
  rows.flatMap rowStatements ++ [.commit]

/-- How many rows `apply_pending` selects at most. -/
def batchLimit (limit : ℕ) : ℕ := max 1 (min limit 1000)

/-- The rows that `apply_pending` selects. -/
def selected (limit : ℕ) (s : Replica Data) : List (ℤ × JournalRow) :=
  s.journal.unapplied.take (batchLimit limit)

/-- The database after the batch, and whether nothing was raised. -/
def run (rows : List (ℤ × JournalRow)) (s : Replica Data) : Replica Data × Bool :=
  let out := execute (batch rows) (.opened s)
  (out.1.committed, out.2)

/-- What is left of `apply_pending` by a crash after `n` statements. -/
def crashed (limit n : ℕ) (s : Replica Data) : Replica Data :=
  crash n (batch (selected limit s)) (.opened s)

/-! ### The statements of an entry -/

/-- Writes, one after the other. -/
def inTurn (fs : List (Data → Option Data)) (d : Data) : Option Data :=
  fs.foldlM (fun d f => f d) d

/-- How the statements of an entry come to what the entry writes. -/
inductive Kind (e : Entry) : Prop
  | waits (fs : List (Data → Option Data)) (hs : entryStatements e = fs.map dataWrite)
      (happly : ∀ d, applyRow e d = (inTurn fs d).map fun d => (d, false))
  | commits (g : Data → Option Data) (h h' : Data → Data)
      (hs : entryStatements e = [dataWrite g, .commit, dataWrite fun d => some (h d),
        dataWrite fun d => some (h' d), .commit])
      (happly : ∀ d, applyRow e d = (g d).map fun d₁ => (h' (h d₁), true))
      (hagain : ∀ d d₁, g d = some d₁ → applyRow e d₁ = applyRow e d ∧
        applyRow e (h' (h d₁)) = applyRow e d)

lemma inTurn_upserts (upsert : Data → Value → Option Data) (rows : Value) (d : Data) :
    inTurn (upserts upsert rows) d = rows.elems.bind fun sources => sources.foldlM upsert d := by
  unfold inTurn upserts
  cases rows.elems with
  | none => rfl
  | some sources => exact List.foldlM_map ..

lemma inTurn_guestRoom (payload : Fields) (d : Data) :
    inTurn (guestRoomWrites payload) d = applyGuestRoom payload d := by
  have happ : inTurn (guestRoomWrites payload) d =
      (inTurn (upserts upsertInvite (getD payload "invites" (.arr []))) d).bind
        (inTurn (upserts upsertSession (getD payload "sessions" (.arr [])))) :=
      List.foldlM_append ..
  rw [happ, inTurn_upserts, applyGuestRoom]
  simp only [funext (inTurn_upserts upsertSession (getD payload "sessions" (.arr [])))]
  cases (getD payload "invites" (.arr [])).elems with
  | none => rfl
  | some invites =>
    cases (getD payload "sessions" (.arr [])).elems with
    | none => cases h : invites.foldlM upsertInvite d <;> simp [h]
    | some sessions => rfl

lemma inTurn_guestRecording (payload : Fields) (d : Data) :
    inTurn (guestRecordingWrites payload) d = applyGuestRecording payload d := by
  unfold guestRecordingWrites applyGuestRecording
  cases ((get payload "recording").orElse (.obj [])).fields with
  | none => rfl
  | some row =>
    dsimp only [Option.bind_eq_bind, Option.bind_some]
    split_ifs with hrow
    · rfl
    · cases hr : recordingRow row with
      | none => simp [inTurn]
      | some r =>
        have htail := inTurn_upserts upsertConsent (getD payload "consents" (.arr []))
          { d with guestRecordings := d.guestRecordings.insert r.1 r.2 }
        simp only [inTurn] at htail
        simp only [inTurn, List.foldlM_cons, Option.bind_eq_bind, Option.bind_some,
          Option.pure_def]
        exact htail

lemma insert_absorb {α : Type*} {t : Table α} {k : ℤ} {a : α} (h : t[k]? = some a) :
    t.insert k a = t := by
  refine Std.ExtTreeMap.ext_getElem? fun j => ?_
  rw [lookup_insert]
  split_ifs with hj
  · rw [hj, h]
  · rfl

/-- The output that was written is written again. -/
lemma writeOutput_again {config : Fields} {st : ℤ} {d d₁ d₂ : Data}
    (h : writeOutput config st d = some d₁) (ho : d₂.stationOutputs = d₁.stationOutputs) :
    writeOutput config st d₂ = some d₂ := by
  obtain ⟨row, hrow, hd₁⟩ := Option.bind_eq_some_iff.mp h
  obtain rfl := Option.some.inj hd₁
  have hlook : d₂.stationOutputs[st]? = some row := by
    rw [ho, lookup_insert, if_pos rfl]
  have hagain : outputRow config st (some row) = some row := by
    rw [RoleChange.outputRow_eq] at hrow ⊢
    obtain ⟨r, hr, rfl⟩ := Option.map_eq_some_iff.mp hrow
    simp [hr, RoleChange.storedPassword_idem]
  simp [writeOutput, hlook, hagain, insert_absorb hlook]

lemma setSetting_absorb {d : Data} {st : ℤ} {key value : String}
    {t : Std.ExtTreeMap String String} (ht : d.stationSettings[st]? = some t)
    (hv : t[key]? = some value) : setSetting d st key value = d := by
  have hinner : t.insert key value = t := by
    refine Std.ExtTreeMap.ext_getElem? fun k => ?_
    rw [Std.ExtTreeMap.getElem?_insert]
    split_ifs with hk
    · rw [← compare_eq_iff_eq.mp hk, hv]
    · rfl
  rw [setSetting, Std.ExtTreeMap.getD_eq_getD_getElem?, ht, Option.getD_some, hinner,
    insert_absorb ht]

/-- The two settings that `_apply_stream_config` writes. -/
def writeSettings (st : ℤ) (tls : String) (d : Data) : Data :=
  setSetting (setSetting d st "icecast_tls_enabled" tls) st "icecast_password" ""

lemma writeSettings_again (st : ℤ) (tls : String) (d : Data) :
    writeSettings st tls (writeSettings st tls d) = writeSettings st tls d := by
  obtain ⟨t, ht, htls, hpass⟩ : ∃ t : Std.ExtTreeMap String String,
      (writeSettings st tls d).stationSettings[st]? = some t ∧
        t["icecast_tls_enabled"]? = some tls ∧ t["icecast_password"]? = some "" := by
    unfold writeSettings setSetting
    dsimp only
    rw [lookup_insert, if_pos rfl, Std.ExtTreeMap.getD_eq_getD_getElem?, lookup_insert, if_pos rfl]
    refine ⟨_, rfl, ?_, Std.ExtTreeMap.getElem?_insert_self⟩
    rw [Std.ExtTreeMap.getElem?_insert, if_neg (by decide)]
    exact Std.ExtTreeMap.getElem?_insert_self
  generalize writeSettings st tls d = done at ht
  rw [writeSettings, setSetting_absorb ht htls, setSetting_absorb ht hpass]

lemma kind_streamConfig {e : Entry} {config : Fields}
    (hs : entryStatements e = streamConfigStatements config)
    (happly : ∀ d, applyRow e d = (applyStreamConfig config d).map fun d => (d, true)) :
    Kind e := by
  unfold streamConfigStatements at hs
  cases hst : (get config "station_id").toInt with
  | none =>
    rw [hst] at hs
    exact .waits [raises] hs fun d => by simp [happly, applyStreamConfig, hst, inTurn, raises]
  | some st =>
    rw [hst] at hs
    dsimp only at hs
    generalize htls : (if (get config "icecast_tls_enabled").truthy then "true" else "false") =
      tls at hs
    have heq : ∀ d, applyRow e d =
        (writeOutput config st d).map fun d₁ => (writeSettings st tls d₁, true) := by
      intro d
      rw [happly, ← htls]
      simp [applyStreamConfig, writeOutput, hst, writeSettings, Option.map_bind]
    refine .commits (writeOutput config st)
      (fun d => setSetting d st "icecast_tls_enabled" tls)
      (fun d => setSetting d st "icecast_password" "") hs heq fun d d₁ hd₁ => ⟨?_, ?_⟩
    · rw [heq, heq, hd₁, writeOutput_again hd₁ rfl]
    · have hB :
          writeOutput config st (writeSettings st tls d₁) = some (writeSettings st tls d₁) :=
        writeOutput_again hd₁ rfl
      change applyRow e (writeSettings st tls d₁) = _
      rw [heq, heq, hB, hd₁, Option.map_some, Option.map_some, writeSettings_again]

lemma kind_waits {e : Entry} {f : Fields → Data → Option Data} {payload : Value}
    {writes : Fields → List (Data → Option Data)}
    (hs : entryStatements e = (match payload.fields with
      | none => [dataWrite raises]
      | some fields => (writes fields).map dataWrite))
    (happly : ∀ d, applyRow e d =
      (payload.fields.bind fun fields => f fields d).map fun d => (d, false))
    (hw : ∀ fields d, inTurn (writes fields) d = f fields d) : Kind e := by
  cases hf : payload.fields with
  | none =>
    rw [hf] at hs
    exact .waits [raises] hs fun d => by simp [happly, hf, inTurn, raises]
  | some fields =>
    rw [hf] at hs
    exact .waits (writes fields) hs fun d => by simp [happly, hf, hw]

/-- **Entries.** The statements of an entry make of the tables what the entry does; only a stream
configuration commits, and it does again what it has done. -/
theorem kind (e : Entry) : Kind e := by
  cases hload : loads (if e.payloadJson = "" then "\x7b\x7d" else e.payloadJson) with
  | none =>
    exact .waits [raises] (by simp [entryStatements, hload])
      fun d => by simp [applyRow, hload, inTurn, raises]
  | some payload =>
    by_cases hstream : e.entityType = "stream_config"
    · cases hf : payload.fields with
      | none =>
        exact .waits [raises] (by simp [entryStatements, hload, hstream, hf])
          fun d => by simp [applyRow, hload, hstream, hf, inTurn, raises]
      | some config =>
        have hs : entryStatements e = streamConfigStatements config := by
          simp [entryStatements, hload, hstream, hf]
        refine kind_streamConfig hs fun d => ?_
        simp [applyRow, hload, hstream, hf, Option.map_eq_bind]
    by_cases hroom : e.entityType = "guest_room"
    · refine @kind_waits e applyGuestRoom payload guestRoomWrites ?_ (fun d => ?_)
        inTurn_guestRoom
      · simp [entryStatements, hload, hroom]
      · simp [applyRow, hload, hroom, Option.map_eq_bind]
    by_cases hrecording : e.entityType = "guest_recording"
    · refine @kind_waits e applyGuestRecording payload guestRecordingWrites ?_ (fun d => ?_)
        inTurn_guestRecording
      · simp [entryStatements, hload, hrecording]
      · simp [applyRow, hload, hrecording, Option.map_eq_bind]
    by_cases hschedule : e.entityType = "schedule"
    · refine @kind_waits e (applySchedule e.operation) payload
        (fun fields => [applySchedule e.operation fields]) ?_ (fun d => ?_)
        fun fields d => by simp [inTurn]
      · simp [entryStatements, hload, hschedule]
      · simp [applyRow, hload, hschedule, Option.map_eq_bind]
    · exact .waits [] (by simp [entryStatements, hload, hstream, hroom, hrecording, hschedule])
        fun d => by simp [applyRow, hload, hstream, hroom, hrecording, hschedule, inTurn]

/-! ### The statements of a batch -/

section Batch

variable {r : ℤ × JournalRow} {rows : List (ℤ × JournalRow)} {c s t x : Replica Data} {n : ℕ}

lemma execute_dataWrites (fs : List (Data → Option Data)) (c s : Replica Data) :
    execute (fs.map dataWrite) ⟨c, s⟩ =
      match inTurn fs s.data with
      | none => (.opened c, false)
      | some d => (⟨c, { s with data := d }⟩, true) := by
  have hmap : fs.map dataWrite = (fs.map onData).map .write := by
    rw [List.map_map]
    rfl
  have hfold : (fs.map onData).foldlM (fun s f => f s) s =
      (inTurn fs s.data).map fun d => { s with data := d } := by
    clear hmap
    induction fs generalizing s with
    | nil => rfl
    | cons f fs ih =>
      simp only [inTurn, List.map_cons, List.foldlM_cons, onData, Option.bind_eq_bind]
      cases f s.data with
      | none => rfl
      | some d => exact ih _
  rw [hmap, execute_writes, hfold]
  cases inTurn fs s.data <;> rfl

lemma execute_row (r : ℤ × JournalRow) (c s : Replica Data) :
    execute (rowStatements r) ⟨c, s⟩ =
      match applyRow r.2.entry s.data with
      | none => (.opened c, false)
      | some (d, commits) =>
        (⟨if commits then { s with data := d } else c, ⟨s.journal.markApplied r.1, d⟩⟩, true) := by
  rw [rowStatements, execute_append]
  cases kind r.2.entry with
  | waits fs hs happly =>
    rw [hs, happly, execute_dataWrites]
    cases inTurn fs s.data <;> rfl
  | commits g h h' hs happly hagain =>
    rw [hs, happly]
    cases hg : g s.data with
    | none =>
      have hw : onData g s = none := by simp [onData, hg]
      rw [dataWrite, execute_raise hw]
      rfl
    | some d₁ =>
      have hw : onData g s = some { s with data := d₁ } := by simp [onData, hg]
      rw [dataWrite, execute_write hw]
      rfl

/-- The statements of a batch, executed to the end, are the loop of `apply_pending`. -/
theorem run_eq (rows : List (ℤ × JournalRow)) (c s : Replica Data) :
    ((execute (batch rows) ⟨c, s⟩).1.committed, (execute (batch rows) ⟨c, s⟩).2) =
      applyRows applyRow rows c s := by
  induction rows generalizing c s with
  | nil => rfl
  | cons r rest ih =>
    have hb : batch (r :: rest) = rowStatements r ++ batch rest := by simp [batch]
    rw [hb, execute_append, execute_row, applyRows]
    cases applyRow r.2.entry s.data with
    | none => rfl
    | some out => exact ih _ _

/-! ### What a crash leaves -/

/-- Rows that are applied and marked, one after the other. -/
def appliedRows (rows : List (ℤ × JournalRow)) (s : Replica Data) : Option (Replica Data) :=
  rows.foldlM (fun s r =>
    (applyRow r.2.entry s.data).map fun out => ⟨s.journal.markApplied r.1, out.1⟩) s

/-- The row commits, and does to `x` what it does to `t`. -/
def Absorbs (r : ℤ × JournalRow) (t x : Replica Data) : Prop :=
  x.journal = t.journal ∧ ∃ d, applyRow r.2.entry t.data = some (d, true) ∧
    applyRow r.2.entry x.data = some (d, true)

/-- What a crash leaves of a batch that has committed. -/
inductive Left (rows : List (ℤ × JournalRow)) (s x : Replica Data) : Prop
  | finished (h : appliedRows rows s = some x)
  | between (pre post : List (ℤ × JournalRow)) (r : ℤ × JournalRow) (t : Replica Data)
      (hrows : rows = pre ++ r :: post) (hpre : appliedRows pre s = some t) (hx : Absorbs r t x)

lemma apply_again {e : Entry} {d d' : Data} (h : applyRow e d = some (d', true)) :
    applyRow e d' = some (d', true) := by
  cases kind e with
  | waits fs hs happly =>
    rw [happly] at h
    obtain ⟨_, -, hd⟩ := Option.map_eq_some_iff.mp h
    cases hd
  | commits g k k' hs happly hagain =>
    have hd := h
    rw [happly] at hd
    obtain ⟨d₁, hg, hd⟩ := Option.map_eq_some_iff.mp hd
    obtain ⟨rfl, -⟩ := Prod.mk.inj hd
    exact (hagain d d₁ hg).2.trans h

/-- A crash within a row. -/
lemma crash_row (n : ℕ) (r : ℤ × JournalRow) (c s : Replica Data) :
    crash n (rowStatements r) ⟨c, s⟩ = c ∨ Absorbs r s (crash n (rowStatements r) ⟨c, s⟩) := by
  cases kind r.2.entry with
  | waits fs hs happly =>
    have hw : rowStatements r = (fs.map onData ++ [mark r.1]).map .write := by
      rw [rowStatements, hs, List.map_append, List.map_map]
      rfl
    rw [hw]
    exact .inl (crash_writes n _ _)
  | commits g k k' hs happly hagain =>
    rw [rowStatements, hs]
    cases n with
    | zero => exact .inl rfl
    | succ n =>
      unfold crash
      rw [List.cons_append, List.take_succ_cons, dataWrite]
      cases hg : g s.data with
      | none =>
        have hw : onData g s = none := by simp [onData, hg]
        rw [execute_raise hw]
        exact .inl rfl
      | some d₁ =>
        have hw : onData g s = some { s with data := d₁ } := by simp [onData, hg]
        have ha : applyRow r.2.entry s.data = some (k' (k d₁), true) := by
          rw [happly, hg]
          rfl
        obtain ⟨hfirst, hlast⟩ := hagain s.data d₁ hg
        rw [execute_write hw]
        -- before the first commit, between the commits, and after the second one
        match n with
        | 0 => exact .inl rfl
        | 1 | 2 | 3 => exact .inr ⟨rfl, _, ha, hfirst.trans ha⟩
        | 4 => exact .inr ⟨rfl, _, ha, hlast.trans ha⟩
        | n + 5 =>
          simp only [List.cons_append, List.nil_append, List.take_succ_cons, List.take_nil]
          exact .inr ⟨rfl, _, ha, hlast.trans ha⟩

lemma Left.cons {r : ℤ × JournalRow} {out : Data × Bool}
    (ha : applyRow r.2.entry s.data = some out)
    (h : Left rows ⟨s.journal.markApplied r.1, out.1⟩ x) : Left (r :: rows) s x := by
  have hstep : ∀ pre, appliedRows (r :: pre) s =
      appliedRows pre ⟨s.journal.markApplied r.1, out.1⟩ := by
    intro pre
    simp [appliedRows, ha]
  cases h with
  | finished h => exact .finished ((hstep rows).trans h)
  | between pre post q t hrows hpre hx =>
    exact .between (r :: pre) post q t (by rw [hrows]; rfl) ((hstep pre).trans hpre) hx

theorem crash_batch (n : ℕ) (rows : List (ℤ × JournalRow)) (c s : Replica Data) :
    crash n (batch rows) ⟨c, s⟩ = c ∨ Left rows s (crash n (batch rows) ⟨c, s⟩) := by
  induction rows generalizing c s n with
  | nil =>
    cases n with
    | zero => exact .inl rfl
    | succ n => exact .inr (.finished (by simp [crash, batch, appliedRows, Connection.opened]))
  | cons r rest ih =>
    have hb : batch (r :: rest) = rowStatements r ++ batch rest := by simp [batch]
    rw [hb]
    rcases crash_append n (rowStatements r) (batch rest) ⟨c, s⟩ with h | ⟨hok, m, h⟩
    · rw [h]
      exact (crash_row n r c s).imp_right fun hx => .between [] rest r s rfl rfl hx
    · rw [h]
      rw [execute_row] at hok ⊢
      cases ha : applyRow r.2.entry s.data with
      | none =>
        rw [ha] at hok
        cases hok
      | some out =>
        obtain ⟨d, commits⟩ := out
        dsimp only
        rcases ih m (if commits then { s with data := d } else c)
          ⟨s.journal.markApplied r.1, d⟩ with hc | hl
        · rw [hc]
          cases commits with
          | false => exact .inl rfl
          | true => exact .inr (.between [] rest r s rfl rfl ⟨rfl, d, ha, apply_again ha⟩)
        · exact .inr (Left.cons ha hl)

/-! ### The second run -/

lemma unapplied_markApplied {j : Journal} {q : List (ℤ × JournalRow)}
    (h : j.unapplied = r :: q) : (j.markApplied r.1).unapplied = q := by
  have hsorted := unapplied_sorted j
  rw [h] at hsorted
  obtain ⟨hlt, hq⟩ := List.pairwise_cons.mp hsorted
  refine List.Pairwise.eq_of_mem_iff (unapplied_sorted _) hq fun {x} => ?_
  have hmem : x ∈ j.unapplied ↔ x = r ∨ x ∈ q := by rw [h, List.mem_cons]
  rw [mem_unapplied] at hmem
  rw [mem_unapplied, lookup_markApplied]
  by_cases hx : x.1 = r.1
  · have hnot : x ∉ q := fun hxq => (hlt x hxq).ne' hx
    simp only [hx, if_true, hnot, iff_false]
    rintro ⟨hmarked, hun⟩
    obtain ⟨_, -, hy⟩ := Option.map_eq_some_iff.mp hmarked
    rw [← hy] at hun
    cases hun
  · have hne : x ≠ r := fun h => hx (congrArg Prod.fst h)
    simpa [hx, hne] using hmem

/-- The rows that are marked are no longer selected. -/
lemma unapplied_appliedRows {pre q : List (ℤ × JournalRow)} (h : appliedRows pre s = some t)
    (hs : s.journal.unapplied = pre ++ q) : t.journal.unapplied = q := by
  induction pre generalizing s with
  | nil =>
    obtain rfl : s = t := by simpa [appliedRows] using h
    exact hs
  | cons r pre ih =>
    simp only [appliedRows, List.foldlM_cons, Option.bind_eq_bind,
      Option.bind_eq_some_iff] at h
    obtain ⟨s', hs', h⟩ := h
    obtain ⟨out, -, rfl⟩ := Option.map_eq_some_iff.mp hs'
    exact ih h (unapplied_markApplied hs)

/-- Rows that are applied first do not matter for a row that commits. -/
lemma applyRows_append {pre : List (ℤ × JournalRow)} (h : appliedRows pre s = some t)
    (rest : List (ℤ × JournalRow)) (c : Replica Data) :
    ∃ c', applyRows applyRow (pre ++ rest) c s = applyRows applyRow rest c' t := by
  induction pre generalizing c s with
  | nil =>
    obtain rfl : s = t := by simpa [appliedRows] using h
    exact ⟨c, rfl⟩
  | cons r pre ih =>
    simp only [appliedRows, List.foldlM_cons, Option.bind_eq_bind,
      Option.bind_eq_some_iff] at h
    obtain ⟨s', hs', h⟩ := h
    obtain ⟨⟨d, commits⟩, ha, rfl⟩ := Option.map_eq_some_iff.mp hs'
    obtain ⟨c', hc'⟩ := ih h (if commits then { s with data := d } else c)
    refine ⟨c', ?_⟩
    rw [← hc', List.cons_append, applyRows, ha]

lemma applyRows_absorbs {rest : List (ℤ × JournalRow)} (h : Absorbs r t x) (c c' : Replica Data) :
    applyRows applyRow (r :: rest) c x = applyRows applyRow (r :: rest) c' t := by
  obtain ⟨hj, d, ht, hx⟩ := h
  simp only [applyRows, ht, hx, if_true, hj]

lemma applyRows_of_applied (h : appliedRows rows s = some t) (c : Replica Data) :
    applyRows applyRow rows c s = (t, true) := by
  obtain ⟨c', hc'⟩ := applyRows_append h [] c
  rwa [List.append_nil] at hc'

lemma run_eq_applyRows (rows : List (ℤ × JournalRow)) (s : Replica Data) :
    run rows s = applyRows applyRow rows s s := run_eq rows s s

/-- `apply_pending`, by its statements and as one operation. -/
theorem run_selected (limit : ℕ) (s : Replica Data) :
    run (selected limit s) s = applyPending applyRow limit s := run_eq_applyRows ..

lemma run_of_absorbs {pre post : List (ℤ × JournalRow)} (hpre : appliedRows pre s = some t)
    (hx : Absorbs r t x) (hrest : s.journal.unapplied = pre ++ r :: post) (m : ℕ) :
    x.journal.unapplied = r :: post ∧
      run ((r :: post).take (m + 1)) x =
        run (s.journal.unapplied.take (pre.length + (m + 1))) s := by
  have hleft : t.journal.unapplied = r :: post := unapplied_appliedRows hpre hrest
  refine ⟨by rw [hx.1, hleft], ?_⟩
  have htake : s.journal.unapplied.take (pre.length + (m + 1)) = pre ++ r :: post.take m := by
    rw [hrest, List.take_length_add_append, List.take_succ_cons]
  obtain ⟨c', hc'⟩ := applyRows_append hpre (r :: post.take m) s
  rw [run_eq_applyRows, run_eq_applyRows, htake, hc', List.take_succ_cons]
  exact applyRows_absorbs hx x c'

end Batch

/-- **A crash and a second run.** If `apply_pending` is stopped by a crash after any statement, the
rows that are marked are the first `p` of those that were pending. Unless its last commit was
over, a second run makes of the database what one run over these and the next rows makes of it.
Where no more rows are pending than are selected, this is what the run would have made of it. -/
theorem crash_then_run (limit n : ℕ) (s : Replica Data) :
    (∃ p ≤ batchLimit limit,
      (crashed limit n s).journal.unapplied = s.journal.unapplied.drop p ∧
        (run (selected limit s) s = (crashed limit n s, true) ∨
          run (selected limit (crashed limit n s)) (crashed limit n s) =
            run (s.journal.unapplied.take (p + batchLimit limit)) s)) ∧
      (s.journal.unapplied.length ≤ batchLimit limit →
        run (selected limit (crashed limit n s)) (crashed limit n s) =
          run (selected limit s) s) := by
  have hcrash := crash_batch n (selected limit s) s s
  have hc : crash n (batch (selected limit s)) ⟨s, s⟩ = crashed limit n s := rfl
  rw [hc] at hcrash
  generalize crashed limit n s = c at hcrash
  obtain ⟨m, hm⟩ : ∃ m, batchLimit limit = m + 1 :=
    Nat.exists_eq_add_of_le' (le_max_left 1 (min limit 1000))
  rcases hcrash with rfl | hleft
  · refine ⟨⟨0, Nat.zero_le _, rfl, .inr ?_⟩, fun _ => rfl⟩
    rw [Nat.zero_add]
    rfl
  cases hleft with
  | finished h =>
    have hrun : run (selected limit s) s = (c, true) := by
      rw [run_eq_applyRows]
      exact applyRows_of_applied h s
    have hrest : c.journal.unapplied = s.journal.unapplied.drop (batchLimit limit) :=
      unapplied_appliedRows h (List.take_append_drop _ _).symm
    refine ⟨⟨batchLimit limit, le_rfl, hrest, .inl hrun⟩, fun hlen => ?_⟩
    have hnone : selected limit c = [] := by
      rw [selected, hrest, List.drop_eq_nil_of_le hlen, List.take_nil]
    rw [hrun, hnone]
    rfl
  | between pre post r t hrows hpre hx =>
    obtain ⟨rest, hall⟩ : ∃ rest, s.journal.unapplied = pre ++ r :: rest := by
      have h := List.take_append_drop (batchLimit limit) s.journal.unapplied
      rw [selected] at hrows
      rw [hrows, List.append_assoc, List.cons_append] at h
      exact ⟨_, h.symm⟩
    obtain ⟨hun, hrun⟩ := run_of_absorbs hpre hx hall m
    have hsel : selected limit c = (r :: rest).take (m + 1) := by rw [selected, hun, hm]
    have hlen : pre.length ≤ batchLimit limit := by
      have h := congrArg List.length hrows
      rw [selected, List.length_take, List.length_append] at h
      omega
    refine ⟨⟨pre.length, hlen, ?_, .inr ?_⟩, fun hfew => ?_⟩
    · rw [hun, hall, List.drop_left]
    · rw [hsel, hrun, hm]
    · rw [hsel, hrun, selected, List.take_of_length_le (by omega), List.take_of_length_le hfew]

/-! ### More entries than are selected -/

/-- A journal with these entries, the last one first. -/
def rowsOf : List Entry → Table JournalRow
  | [] => ∅
  | e :: es =>
    (rowsOf es).insert (es.length + 1) ⟨e, String.ofList (List.replicate (es.length + 1) 'x'),
      true, false, true⟩

lemma rowsOf_spec {es : List Entry} {k : ℤ} {r : JournalRow} (h : (rowsOf es)[k]? = some r) :
    k ≤ es.length ∧ ∃ n : ℕ, k = n ∧ r.checksum = String.ofList (List.replicate n 'x') := by
  induction es with
  | nil => simp [rowsOf] at h
  | cons e es ih =>
    rw [rowsOf, lookup_insert] at h
    split_ifs at h with hk
    · cases h
      exact ⟨by simp [hk], es.length + 1, by simp [hk], rfl⟩
    · obtain ⟨hle, hn⟩ := ih h
      exact ⟨by push_cast [List.length_cons]; omega, hn⟩

def journalOf (es : List Entry) : Journal where
  rows := rowsOf es
  autoSeq := es.length
  counted _ _ h := (rowsOf_spec h).1
  unique k l r s hr hs hrs := by
    obtain ⟨-, m, rfl, hm⟩ := rowsOf_spec hr
    obtain ⟨-, n, rfl, hn⟩ := rowsOf_spec hs
    rw [hm, hn, String.ofList_inj] at hrs
    have hlen := congrArg List.length hrs
    simp only [List.length_replicate] at hlen
    rw [hlen]

def station : Entry := ⟨"stream_config", "1", "apply", "\x7b\"station_id\":1\x7d"⟩

def song (id : ℕ) : Entry :=
  ⟨"schedule", toString id, "upsert",
    "\x7b\"id\":" ++ toString id ++ ",\"station_id\":1,\"track_id\":1,\"play_at\":\"\"\x7d"⟩

/-- An entry that changes nothing. -/
def nothing : Entry := ⟨"schedule", "0", "delete", "\x7b\x7d"⟩

/-- A song, a stream configuration and another song, which is the 251st entry. -/
def longJournal : Replica Data :=
  ⟨journalOf ([song 2] ++ List.replicate 248 nothing ++ [station, song 1]), .empty⟩

/-- The run after a crash reaches an entry that one run does not reach. -/
theorem second_run_passes_on : ¬ ∀ (n : ℕ) (s : Replica Data),
    (run (selected 250 (crashed 250 n s)) (crashed 250 n s)).1.data =
      (run (selected 250 s) s).1.data := by
  intro hall
  have h := congrArg (fun d : Data => d.scheduleItems[(2 : ℤ)]?.isSome) (hall 4 longJournal)
  exact absurd h (by decide +kernel)

end OnAir.CrashedBatch
