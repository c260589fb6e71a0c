import ChatMemory.Proofs.Store.Locality
import ChatMemory.Proofs.Store.Run
import ChatMemory.Proofs.Store.SessionFiles

/-!
Sessions that are given up while the store is kept in session files. Main statement: such a session
does not come back, as long as no document but the one with its own name holds a record of it.
-/

namespace ChatMemory

/-! ### Documents of a session -/

namespace SessionFiles

variable {files : SessionFiles} {live after : Live} {id : SessionId} {writes : List Write}
  {added : Nat}

/-- The files can be listed, and no document but the one with the session's own name holds a record
from which the session can be taken up. -/
structure Orderly (id : SessionId) (files : SessionFiles) : Prop where
  directory : files.IsDirectory
  readable : files.Readable
  own : ∀ name record, files.Holds name record → record.id = id → record.misplaced? = none →
    fileName id = name

def Forgotten (id : SessionId) (files : SessionFiles) : Prop :=
  ∀ name record, files.Holds name record → record.id = id → record.misplaced? ≠ none

theorem Orderly.write (orderly : Orderly id files) (request : Write) :
    Orderly id (Backend.write request files).2 where
  directory := isDirectory_write orderly.directory request
  readable := orderly.readable.write orderly.directory request
  own name record holds sameId placed := by
    rcases holds.of_write orderly.directory with before | ⟨named, about⟩
    · exact orderly.own name record before sameId placed
    · rw [← about, sameId] at named
      exact named

private theorem Orderly.forgotten_delete (orderly : Orderly id files) :
    Forgotten id (Backend.write (.delete id) files).2 := by
  intro name record holds sameId placed
  have own := (orderly.write (.delete id)).own name record holds sameId placed
  rcases holds with ⟨-, item, found, -⟩
  rw [← own, item?_write_delete orderly.directory orderly.readable] at found
  cases found

theorem Forgotten.write (forgotten : Forgotten id files) (orderly : Orderly id files)
    {request : Write} (other : request.subject ≠ id) :
    Forgotten id (Backend.write request files).2 := by
  intro name record holds sameId
  rcases holds.of_write orderly.directory with before | ⟨-, about⟩
  · exact forgotten name record before sameId
  · exact absurd (about.symm.trans sameId) other

structure Accounts (id : SessionId) (live : Live) (files : SessionFiles) : Prop where
  orderly : Orderly id files
  forgotten : live.sessions[id]? = none → Forgotten id files

theorem Accounts.write (accounts : Accounts id live files) {request : Write}
    (present : live.sessions[id]? = none → request.subject ≠ id) :
    Accounts id live (Backend.write request files).2 where
  orderly := accounts.orderly.write request
  forgotten absent := (accounts.forgotten absent).write accounts.orderly (present absent)

theorem Accounts.effect (accounts : Accounts id live files)
    (effect : Live.Effect live after writes added) (named : live.Named) :
    Accounts id after (Backend.writeAll writes files) := by
  rcases effect.exists_subject named with ⟨subject, about, gone, elsewhere⟩
  have orderly : Orderly id (Backend.writeAll writes files) :=
    Backend.writeAll_invariant (Orderly id) (fun request _ _ orderly => orderly.write request)
      accounts.orderly
  refine ⟨orderly, fun absent => ?_⟩
  by_cases same : subject = id
  · -- The session is gone after an effect that is about it, so it was deleted.
    subst same
    rw [gone absent]
    exact accounts.orderly.forgotten_delete
  · rw [elsewhere id same] at absent
    have kept : Accounts id live (Backend.writeAll writes files) :=
      Backend.writeAll_invariant (Accounts id live)
        (fun request asked _ accounts => accounts.write fun _ => (about request asked).symm ▸ same)
        accounts
    exact kept.forgotten absent

theorem Accounts.effects (accounts : Accounts id live files)
    (effects : Live.Effects live after writes added) (named : live.Named) :
    Accounts id after (Backend.writeAll writes files) := by
  induction effects generalizing files with
  | none => exact accounts
  | cons effect _ induction =>
      rw [Backend.writeAll_append]
      exact induction (accounts.effect effect named) (effect.change.named named)

def ofRecord (path name : String) (record : SessionRecord) : SessionFiles where
  path
  place := .directory ((∅ : Std.ExtTreeMap String FileTree).insert name (documentOf record))
  around := ⟨.empty, []⟩

theorem records_ofRecord (path : String) {name : String} {record : SessionRecord}
    (document : isDocumentName name = true) (storable : record.Storable) :
    (ofRecord path name record).records = .ok [record] := by
  refine records_of_documents [(name, record)] rfl rfl ?_ ?_
    (List.pairwise_singleton _ _)
  · simpa using document
  · simpa using storable

private theorem delete_of_missing {items : Std.ExtTreeMap String FileTree}
    (directory : files.place = .directory items) (missing : items[fileName id]? = none) :
    files.delete id = (.ok (), files) := by
  have same : items.erase (fileName id) = items := by
    apply Std.ExtTreeMap.ext_getElem?
    intro name
    rw [lookup_erase]
    split
    · rename_i equal
      rw [← equal, missing]
    · rfl
  rw [delete, directory]
  dsimp only
  rw [missing, same, ← directory]

private theorem accounts_ofRecords (orderly : Orderly id files) {records : List SessionRecord}
    (listed : files.records = .ok records) : Accounts id (.ofRecords records) files := by
  refine ⟨orderly, fun absent name record holds sameId placed => ?_⟩
  have member := (mem_records listed record).mpr ⟨name, holds⟩
  rcases Live.exists_session_ofRecords member placed with ⟨session, found⟩
  rw [sameId, absent] at found
  cases found

private theorem Forgotten.absent_ofRecords (forgotten : Forgotten id files)
    {records : List SessionRecord}
    (listed : files.records = .ok records) : (Live.ofRecords records).sessions[id]? = none := by
  rw [Option.eq_none_iff_forall_ne_some]
  intro session found
  rcases Live.exists_record_of_ofRecords found with ⟨record, member, sameId, accepted⟩
  rcases (mem_records listed record).mp member with ⟨name, holds⟩
  exact forgotten name record holds sameId (Session.ofRecord_eq_ok accepted).1

end SessionFiles

namespace Store

variable {store : Store SessionFiles} {id : SessionId}

def Action.Supplies (id : SessionId) : Action → Prop
  | .reconcile other _ _ => other = id
  | .append other _ _ => other = id
  | _ => False

structure Accounts (id : SessionId) (store : Store SessionFiles) : Prop where
  named : store.live.Named
  files : store.backend.Accounts id store.live

theorem load_files {files : SessionFiles} {records : List SessionRecord}
    (listed : files.records = .ok records) :
    load files = (.ok ⟨.ofRecords records, files⟩, files) := by
  have answered : Backend.load files = (.ok records, files) := by
    rw [← listed]
    rfl
  rw [load, answered]

private theorem exists_load_files {files : SessionFiles} (orderly : files.Orderly id) :
    ∃ records, files.records = .ok records ∧
      load files = (.ok ⟨.ofRecords records, files⟩, files) := by
  rcases SessionFiles.exists_records_iff.mpr ⟨orderly.directory, orderly.readable⟩
    with ⟨records, listed⟩
  exact ⟨records, listed, load_files listed⟩

theorem Accounts.reopen (accounts : store.Accounts id) : store.reopen.Accounts id := by
  rcases exists_load_files accounts.files.orderly with ⟨records, listed, loaded⟩
  rw [Store.reopen, loaded]
  exact ⟨(Live.soundAndCovered_ofRecords records).1.named,
    SessionFiles.accounts_ofRecords accounts.files.orderly listed⟩

theorem Accounts.flush (accounts : store.Accounts id) : store.flush.2.Accounts id := by
  have same := live_flush store
  refine ⟨same ▸ accounts.named, ?_⟩
  rw [same]
  refine backend_flush_invariant (SessionFiles.Accounts id store.live) ?_ (fun _ kept => kept)
    accounts.files
  intro request asked files kept
  refine kept.write ?_
  rintro absent rfl
  rcases Live.exists_session_of_mem_saves accounts.named asked with ⟨session, found⟩
  rw [found] at absent
  cases absent

theorem Accounts.step (accounts : store.Accounts id) (action : Action) :
    (store.step action).Accounts id := by
  rcases step_cases store accounts.named action with rfl | rfl | ⟨writes, effects, written⟩
  · exact accounts.reopen
  · exact accounts.flush
  · refine ⟨effects.changes.named accounts.named, ?_⟩
    rw [written]
    exact accounts.files.effects effects accounts.named

theorem Accounts.absent_step (accounts : store.Accounts id)
    (absent : store.live.sessions[id]? = none) {action : Action} (unasked : ¬action.Supplies id) :
    (store.step action).live.sessions[id]? = none := by
  cases action with
  | reconcile other supplied now =>
      exact (Live.local_reconcile accounts.named other supplied now).absent absent unasked
  | append other messages now =>
      exact (Live.local_append accounts.named other messages now).absent absent unasked
  | setTitle other title now => exact Live.absent_amend absent other _
  | setPinned other pinned now => exact Live.absent_amend absent other _
  | remove other => exact Live.absent_removeIf absent other _
  | removeIdle cutoff => exact Live.absent_removeIdleOf absent cutoff _
  | flush =>
      rw [Store.step, live_flush]
      exact absent
  | reopen =>
      rcases exists_load_files accounts.files.orderly with ⟨records, listed, loaded⟩
      rw [Store.step, Store.reopen, loaded]
      exact (accounts.files.forgotten absent).absent_ofRecords listed

theorem Accounts.absent_run (accounts : store.Accounts id)
    (absent : store.live.sessions[id]? = none) {actions : List Action}
    (unasked : ∀ action ∈ actions, ¬action.Supplies id) :
    (store.run actions).Accounts id ∧ (store.run actions).live.sessions[id]? = none := by
  induction actions generalizing store with
  | nil => exact ⟨accounts, absent⟩
  | cons action rest induction =>
      rw [List.forall_mem_cons] at unasked
      exact induction (accounts.step action) (accounts.absent_step absent unasked.1) unasked.2

private theorem accounts_of_load {files : SessionFiles} (opening : (load files).1 = .ok store)
    (own : ∀ name record, files.Holds name record → record.id = id → record.misplaced? = none →
      SessionFiles.fileName id = name) : store.Accounts id := by
  rcases live_of_load opening with ⟨records, listed, -⟩
  have orderly : files.Orderly id := by
    rcases SessionFiles.exists_records_iff.mp ⟨records, listed⟩ with ⟨directory, readable⟩
    exact ⟨directory, readable, own⟩
  rw [load_files listed] at opening
  cases opening
  exact ⟨(Live.soundAndCovered_ofRecords records).1.named,
    SessionFiles.accounts_ofRecords orderly listed⟩

/-- A session that was given up does not come back when the store is opened anew, whatever is done
before and afterwards without giving messages to it, as long as at first no document but the one
with its own name held a record of it. The store does open, and in a build that checks its sums as
well unless a document holds the message with the last number. -/
theorem removed_session_stays_gone {files : SessionFiles} {opened : Store SessionFiles}
    {id : SessionId} (opening : (load files).1 = .ok opened)
    (own : ∀ name record, files.Holds name record → record.id = id → record.misplaced? = none →
      SessionFiles.fileName id = name)
    (earlier later : List Action) (unasked : ∀ action ∈ later, ¬action.Supplies id) :
    let left := (opened.run (earlier ++ .remove id :: later)).backend
    (∃ restarted, (load left).1 = .ok restarted ∧ restarted.live.sessions[id]? = none) ∧
      ∃ records, left.records = .ok records ∧
        (loadChecked? left = some (load left) ↔ Live.NumbersLeft records) := by
  intro left
  have before : (opened.run earlier).Accounts id :=
    run_invariant (Accounts id) (fun _ action accounts => accounts.step action)
      (accounts_of_load opening own) earlier
  have removed : ((opened.run earlier).step (.remove id)).live.sessions[id]? = none :=
    Live.absent_remove _ id
  have after := (before.step (.remove id)).absent_run removed unasked
  have whole : opened.run (earlier ++ .remove id :: later) =
      ((opened.run earlier).step (.remove id)).run later := by
    rw [run, List.foldl_append]
    rfl
  rw [← whole] at after
  rcases exists_load_files after.1.files.orderly with ⟨records, listed, loaded⟩
  have gone := (after.1.files.forgotten after.2).absent_ofRecords listed
  exact ⟨⟨_, congrArg Prod.fst loaded, gone⟩, records, listed, loadChecked?_eq_some_iff listed⟩

def greeting (id : SessionId) : SessionRecord where
  id
  entries := [⟨⟨.user, "hello"⟩, 0, 1⟩]
  createdAt := ⟨1, 0⟩
  updatedAt := ⟨1, 0⟩

theorem storable_greeting (id : SessionId) : (greeting id).Storable := by
  have told : Rfc3339.IsTold ⟨1, 0⟩ := ⟨by decide, .inl (by decide)⟩
  refine ⟨?_, told, told⟩
  intro entry member
  rw [List.mem_singleton.mp member]
  exact ⟨⟨"user", rfl⟩, by decide, by decide⟩

/-- A run in which a session is given up beside another one, of which there is a copy. -/
theorem removed_session_stays_gone_beside_copy :
    let copied := greeting "b"
    let files : SessionFiles := .ofRecord "data" "copy.json" copied
    let opened : Store SessionFiles := ⟨.ofRecords [copied], files⟩
    let earlier : List Action := [.append "a" [⟨.user, "hello"⟩] ⟨2, 0⟩]
    let later : List Action := [.append "b" [⟨.user, "again"⟩] ⟨3, 0⟩, .reopen, .flush]
    (load files).1 = .ok opened ∧
      (∀ name record, files.Holds name record → record.id = "a" → record.misplaced? = none →
        SessionFiles.fileName "a" = name) ∧
      (∀ action ∈ later, ¬action.Supplies "a") ∧
      ((opened.run earlier).remove "a").1 = true ∧
      ∃ restarted,
        (load (opened.run (earlier ++ .remove "a" :: later)).backend).1 = .ok restarted ∧
          restarted.live.sessions["a"]? = none := by
  intro copied files opened earlier later
  have listed : files.records = .ok [copied] :=
    SessionFiles.records_ofRecord "data" rfl (storable_greeting "b")
  have opening : (load files).1 = .ok opened := by rw [load_files listed]
  have own : ∀ name record, files.Holds name record → record.id = "a" → record.misplaced? = none →
      SessionFiles.fileName "a" = name := by
    intro name record holds sameId _
    have member := (SessionFiles.mem_records listed record).mpr ⟨name, holds⟩
    rw [List.mem_singleton.mp member] at sameId
    exact absurd sameId (by decide)
  have unasked : ∀ action ∈ later, ¬action.Supplies "a" := by
    simp [later, Action.Supplies]
  exact ⟨opening, own, unasked, by decide,
    (removed_session_stays_gone opening own earlier later unasked).1⟩

/-- Records are read from documents of any name, but only the one with the session's own name is
deleted. A session that stands in another one is given up, and is there again when the store is
opened anew. -/
theorem removed_session_may_come_back :
    let record := greeting "a"
    let files : SessionFiles := .ofRecord "data" "copy.json" record
    let opened : Store SessionFiles := ⟨.ofRecords [record], files⟩
    (load files).1 = .ok opened ∧ (opened.remove "a").1 = true ∧
      (load (opened.remove "a").2.backend).1 = .ok opened ∧ opened.live.ids = ["a"] := by
  intro record files opened
  have listed : files.records = .ok [record] :=
    SessionFiles.records_ofRecord "data" rfl (storable_greeting "a")
  have opening : (load files).1 = .ok opened := by rw [load_files listed]
  have asked : (opened.live.remove "a").2.2 = [.delete "a"] := by decide
  have missing : ((∅ : Std.ExtTreeMap String FileTree).insert "copy.json"
      (SessionFiles.documentOf record))[SessionFiles.fileName "a"]? = none := by
    have different : "copy.json" ≠ SessionFiles.fileName "a" := by decide +kernel
    simp [different]
  have untouched : (opened.remove "a").2.backend = files := by
    change Backend.writeAll (opened.live.remove "a").2.2 files = files
    rw [asked]
    exact congrArg Prod.snd (SessionFiles.delete_of_missing rfl missing)
  refine ⟨opening, by decide, ?_, by decide⟩
  rw [untouched, opening]

end Store

end ChatMemory
