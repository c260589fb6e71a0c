import ChatMemory.Proofs.Store.Lookup
import Mathlib.Data.List.Nodup

/-!
What backends keep and what they list. Main statements: records kept in the memory of the program
are listed once each, and a backend that refuses requests keeps what the one behind it keeps.
-/

namespace ChatMemory

theorem eq_of_ordered_by {α : Type _} {key : α → SessionId} {first second : List α}
    (firstOrdered : first.Pairwise fun item other => compare (key item) (key other) = .lt)
    (secondOrdered : second.Pairwise fun item other => compare (key item) (key other) = .lt)
    (same : ∀ item, item ∈ first ↔ item ∈ second) : first = second := by
  have irreflexive : ∀ item : α, ¬compare (key item) (key item) = .lt := by
    simp [Std.ReflCmp.compare_self]
  have distinct : ∀ {items : List α},
      (items.Pairwise fun item other => compare (key item) (key other) = .lt) → items.Nodup := by
    intro items ordered
    apply ordered.imp
    rintro item other before rfl
    exact irreflexive item before
  refine List.Perm.eq_of_pairwise ?_ firstOrdered secondOrdered ?_
  · intro item other _ _ before after
    exact absurd (Std.TransCmp.lt_trans before after) (irreflexive item)
  · exact (List.perm_ext_iff_of_nodup (distinct firstOrdered) (distinct secondOrdered)).mpr same

def Write.subject : Write → SessionId
  | .save record => record.id
  | .delete id => id

def Write.record? : Write → Option SessionRecord
  | .save record => some record
  | .delete _ => none

namespace Backend

variable {β : Type _} [Backend β]

/-- The backend does not list an id twice, if it lists its records at all. -/
def ListsOnce (backend : β) : Prop :=
  ∀ records, (load backend).1 = .ok records → (records.map (·.id)).Nodup

theorem writeAll_append (writes later : List Write) (backend : β) :
    writeAll (writes ++ later) backend = writeAll later (writeAll writes backend) :=
  List.foldl_append

section

variable (Kept : β → Prop) {writes : List Write}
  (onWrite : ∀ request ∈ writes, ∀ backend, Kept backend → Kept (write request backend).2)

include onWrite

theorem writeAll_invariant {backend : β} (kept : Kept backend) :
    Kept (writeAll writes backend) := by
  refine List.foldlRecOn writes _ kept ?_
  intro backend kept request member
  exact onWrite request member backend kept

theorem writeUntilRefused_invariant {backend : β} (kept : Kept backend) :
    Kept (writeUntilRefused writes backend).2 := by
  induction writes generalizing backend with
  | nil => exact kept
  | cons request rest induction =>
      rcases List.forall_mem_cons.mp onWrite with ⟨first, later⟩
      have next := first backend kept
      rw [writeUntilRefused]
      split
      · rename_i after answered
        rw [answered] at next
        exact induction later next
      · rename_i after answered
        rw [answered] at next
        exact next

end

end Backend

namespace Archive

variable {archive : Archive}

def Named (archive : Archive) : Prop :=
  ∀ (id : SessionId) (record : SessionRecord),
    archive.records[id]? = some record → record.id = id

theorem named_empty : empty.Named := by
  intro id record found
  simp [empty] at found

theorem getElem?_apply_of_ne {request : Write} {id : SessionId} (different : request.subject ≠ id) :
    (archive.apply request).records[id]? = archive.records[id]? := by
  cases request with
  | save record =>
      simp only [Archive.apply, lookup_insert]
      exact if_neg different
  | delete deleted =>
      simp only [Archive.apply, lookup_erase]
      exact if_neg different

theorem getElem?_apply_self (archive : Archive) (request : Write) :
    (archive.apply request).records[request.subject]? = request.record? := by
  cases request with
  | save record => exact Std.ExtTreeMap.getElem?_insert_self
  | delete id => exact Std.ExtTreeMap.getElem?_erase_self

theorem Named.apply (named : archive.Named) (request : Write) : (archive.apply request).Named := by
  intro id record found
  cases request with
  | save saved =>
      rw [Archive.apply, lookup_insert] at found
      split at found
      · rename_i equal
        cases found
        exact equal
      · exact named id record found
  | delete deleted =>
      rw [Archive.apply, lookup_erase] at found
      split at found
      · cases found
      · exact named id record found

structure Sound (archive : Archive) : Prop where
  named : archive.Named
  placed (id : SessionId) (record : SessionRecord) :
    archive.records[id]? = some record → record.misplaced? = none

theorem sound_empty : empty.Sound where
  named := named_empty
  placed id record found := by simp [empty] at found

theorem Sound.apply (sound : archive.Sound) {request : Write}
    (placed : ∀ record, request = .save record → record.misplaced? = none) :
    (archive.apply request).Sound where
  named := sound.named.apply request
  placed id record found := by
    cases request with
    | save saved =>
        rw [Archive.apply, lookup_insert] at found
        split at found
        · cases found
          exact placed record rfl
        · exact sound.placed id record found
    | delete deleted =>
        rw [Archive.apply, lookup_erase] at found
        split at found
        · cases found
        · exact sound.placed id record found

theorem Named.mem_toList (named : archive.Named) {record : SessionRecord} :
    record ∈ archive.toList ↔ archive.records[record.id]? = some record := by
  simp only [toList, List.mem_map, Prod.exists, exists_eq_right,
    Std.ExtTreeMap.mem_toList_iff_getElem?_eq_some]
  constructor
  · rintro ⟨id, found⟩
    rwa [named id record found]
  · exact fun found => ⟨record.id, found⟩

private theorem Named.map_id_toList (named : archive.Named) :
    archive.toList.map (·.id) = archive.records.keys := by
  rw [toList, List.map_map, ← Std.ExtTreeMap.map_fst_toList_eq_keys]
  apply List.map_congr_left
  rintro ⟨id, record⟩ member
  exact named id record (Std.ExtTreeMap.mem_toList_iff_getElem?_eq_some.mp member)

theorem Named.nodup_ids (named : archive.Named) : (archive.toList.map (·.id)).Nodup := by
  rw [named.map_id_toList]
  exact Std.ExtTreeMap.nodup_keys

theorem Named.pairwise_toList (named : archive.Named) :
    archive.toList.Pairwise fun first second => compare first.id second.id = .lt := by
  have ordered := archive.records.ordered_keys
  rwa [← named.map_id_toList, List.pairwise_map] at ordered

end Archive

/-! ## What backends keep -/

/-- What a backend holds at any time is an archive, which only writes can change. A write either
takes place or does not, whatever the answer is. -/
structure Backend.Keeps {β : Type _} [Backend β] (held : β → Archive) : Prop where
  /-- If the records are listed at all, each is listed once. -/
  listed : ∀ backend records,
    (load backend).1 = .ok records → records.Perm (held backend).toList
  load : ∀ backend, held (load backend).2 = held backend
  write : ∀ request backend, held (write request backend).2 = held backend ∨
    held (write request backend).2 = (held backend).apply request
  flush : ∀ backend, held (flush backend).2 = held backend

/-- The backend carries out every request. What it holds at any time is an archive. -/
structure Backend.Works {β : Type _} [Backend β] (Holds : β → Archive → Prop) : Prop where
  load : ∀ {backend archive}, Holds backend archive →
    (load backend).1 = .ok archive.toList ∧ Holds (load backend).2 archive
  write : ∀ {backend archive} (request : Write), Holds backend archive →
    (write request backend).1 = .ok () ∧ Holds (write request backend).2 (archive.apply request)
  flush : ∀ {backend archive}, Holds backend archive →
    (flush backend).1 = .ok () ∧ Holds (flush backend).2 archive

theorem Backend.Works.writeAll {β : Type _} [Backend β] {Holds : β → Archive → Prop}
    (works : Works Holds) (writes : List Write) {backend : β} {archive : Archive}
    (holds : Holds backend archive) :
    Holds (Backend.writeAll writes backend) (Backend.writeAll writes archive) := by
  induction writes generalizing backend archive with
  | nil => exact holds
  | cons request rest induction => exact induction (works.write request holds).2

theorem Archive.works : Backend.Works fun backend archive : Archive => backend = archive where
  load := by
    rintro archive _ rfl
    exact ⟨rfl, rfl⟩
  write := by
    rintro archive _ request rfl
    exact ⟨rfl, rfl⟩
  flush := by
    rintro archive _ rfl
    exact ⟨rfl, rfl⟩

namespace Watched

private theorem inner_pass {α : Type _} (watched : Watched Archive) (request : Request)
    (note : String) (action : Archive → Except Failure α × Archive) :
    (watched.pass request note action).2.inner = watched.inner ∨
      (watched.pass request note action).2.inner = (action watched.inner).2 := by
  rw [pass]
  split
  · exact .inl rfl
  · exact .inr rfl

theorem keeps_inner : Backend.Keeps (inner : Watched Archive → Archive) where
  listed watched records listed := by
    simp only [Backend.load, pass] at listed
    split at listed
    · cases listed
    · cases listed
      exact .refl _
  load watched := or_self_iff.mp (inner_pass watched .load "load" Backend.load)
  write request watched := by
    cases request with
    | save record => exact inner_pass watched .save _ (Backend.write (.save record))
    | delete id => exact inner_pass watched .delete _ (Backend.write (.delete id))
  flush watched := or_self_iff.mp (inner_pass watched .flush "flush" Backend.flush)

private theorem pass_of_none_refused {β α : Type _} {watched : Watched β}
    (willing : watched.refused = [])
    (request : Request) (note : String) (action : β → Except Failure α × β) :
    (watched.pass request note action).1 = (action watched.inner).1 ∧
      (watched.pass request note action).2.refused = [] ∧
      (watched.pass request note action).2.inner = (action watched.inner).2 := by
  rcases watched with ⟨inner, refused, notes⟩
  cases willing
  exact ⟨rfl, rfl, rfl⟩

theorem works {β : Type _} [Backend β] {Holds : β → Archive → Prop} (works : Backend.Works Holds) :
    Backend.Works fun (watched : Watched β) archive =>
      watched.refused = [] ∧ Holds watched.inner archive where
  load := by
    rintro watched archive ⟨willing, holds⟩
    have passed := pass_of_none_refused willing .load "load" Backend.load
    have loaded := works.load holds
    rw [← passed.1, ← passed.2.2] at loaded
    exact ⟨loaded.1, passed.2.1, loaded.2⟩
  write := by
    rintro watched archive request ⟨willing, holds⟩
    have written := works.write request holds
    cases request with
    | save record =>
        have passed := pass_of_none_refused willing .save
          ("save " ++ record.id ++ " " ++ toString record.entries.length)
          (Backend.write (.save record))
        rw [← passed.1, ← passed.2.2] at written
        exact ⟨written.1, passed.2.1, written.2⟩
    | delete id =>
        have passed := pass_of_none_refused willing .delete ("delete " ++ id)
          (Backend.write (.delete id))
        rw [← passed.1, ← passed.2.2] at written
        exact ⟨written.1, passed.2.1, written.2⟩
  flush := by
    rintro watched archive ⟨willing, holds⟩
    have passed := pass_of_none_refused willing .flush "flush" Backend.flush
    have flushed := works.flush holds
    rw [← passed.1, ← passed.2.2] at flushed
    exact ⟨flushed.1, passed.2.1, flushed.2⟩

variable {watched : Watched Archive}

theorem named_load (named : watched.inner.Named) : (Backend.load watched).2.inner.Named := by
  rwa [keeps_inner.load watched]

theorem named_write (named : watched.inner.Named) (request : Write) :
    (Backend.write request watched).2.inner.Named := by
  rcases keeps_inner.write request watched with same | written
  · rwa [same]
  · rw [written]
    exact named.apply request

theorem named_flush (named : watched.inner.Named) : (Backend.flush watched).2.inner.Named := by
  rwa [keeps_inner.flush watched]

theorem listsOnce_of_named (named : watched.inner.Named) : Backend.ListsOnce watched := by
  intro records listed
  exact ((keeps_inner.listed watched records listed).map _).nodup_iff.mpr named.nodup_ids

end Watched

end ChatMemory
