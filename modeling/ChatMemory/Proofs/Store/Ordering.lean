import ChatMemory.Proofs.Store.Change
import ChatMemory.Proofs.Store.Listing
import Mathlib.Algebra.GroupWithZero.Nat
import Mathlib.Data.List.Forall2

/-!
Sessions in the order of their ids. Main statement: what is found in all of them together depends
only on what is found under each id.
-/

namespace ChatMemory

/-! ## What is kept under ids -/

section

variable {α β : Type _} {relation : α → β → Prop} {first : Std.ExtTreeMap SessionId α}
  {second : Std.ExtTreeMap SessionId β}

private theorem map_snd_toList (kept : Std.ExtTreeMap SessionId α) :
    kept.toList.map (·.2) = kept.keys.filterMap fun id => kept[id]? := by
  rw [← Std.ExtTreeMap.map_fst_toList_eq_keys, List.filterMap_map, ← List.filterMap_eq_map]
  apply List.filterMap_congr
  rintro ⟨id, item⟩ member
  exact (Std.ExtTreeMap.mem_toList_iff_getElem?_eq_some.mp member).symm

theorem keys_eq_of_rel (related : ∀ id : SessionId, Option.Rel relation first[id]? second[id]?) :
    first.keys = second.keys := by
  refine eq_of_ordered_by first.ordered_keys second.ordered_keys fun id => ?_
  rw [Std.ExtTreeMap.mem_keys, Std.ExtTreeMap.mem_keys, Std.ExtTreeMap.mem_iff_isSome_getElem?,
    Std.ExtTreeMap.mem_iff_isSome_getElem?]
  have same := related id
  generalize first[id]? = slot, second[id]? = other at same ⊢
  cases same <;> rfl

theorem forall₂_toList_of_rel
    (related : ∀ id : SessionId, Option.Rel relation first[id]? second[id]?) :
    List.Forall₂ relation (first.toList.map (·.2)) (second.toList.map (·.2)) := by
  rw [map_snd_toList, map_snd_toList, keys_eq_of_rel related]
  refine List.rel_filterMap (R := (· = ·)) ?_ (List.forall₂_same.mpr fun _ _ => rfl)
  rintro id _ rfl
  exact related id

end

namespace Live

variable {live : Live}

theorem mem_ids {id : SessionId} :
    id ∈ live.ids ↔ ∃ session, live.sessions[id]? = some session := by
  rw [ids, Std.ExtTreeMap.mem_keys, Std.ExtTreeMap.mem_iff_isSome_getElem?,
    Option.isSome_iff_exists]

theorem mem_toList {session : Session} :
    session ∈ live.toList ↔ ∃ id : SessionId, live.sessions[id]? = some session := by
  simp [toList, Std.ExtTreeMap.mem_toList_iff_getElem?_eq_some]

theorem toList_eq_filterMap (live : Live) :
    live.toList = live.ids.filterMap fun id => live.sessions[id]? :=
  map_snd_toList live.sessions

theorem pairwise_filterMap (named : live.Named) {ids : List SessionId}
    (ordered : ids.Pairwise fun first second => compare first second = .lt) :
    (ids.filterMap fun id => live.sessions[id]?).Pairwise fun first second =>
      compare first.id second.id = .lt := by
  apply ordered.filterMap
  intro first second before session found other otherFound
  rw [named first session found, named second other otherFound]
  exact before

theorem pairwise_toList (named : live.Named) :
    live.toList.Pairwise fun first second => compare first.id second.id = .lt := by
  rw [toList_eq_filterMap]
  exact pairwise_filterMap named live.sessions.ordered_keys

private theorem mem_filterMap_sessions (named : live.Named) {ids : List SessionId}
    {session : Session} :
    (session ∈ ids.filterMap fun id => live.sessions[id]?) ↔
      session ∈ live.toList ∧ session.id ∈ ids := by
  rw [List.mem_filterMap, mem_toList]
  constructor
  · rintro ⟨id, member, found⟩
    exact ⟨⟨id, found⟩, named id session found ▸ member⟩
  · rintro ⟨⟨id, found⟩, member⟩
    exact ⟨id, named id session found ▸ member, found⟩

theorem filterMap_toList_eq_filter (named : live.Named) (ids : Std.ExtTreeSet SessionId) :
    (ids.toList.filterMap fun id => live.sessions[id]?) =
      live.toList.filter fun session => ids.contains session.id := by
  have first := pairwise_filterMap named ids.ordered_toList
  have second := (pairwise_toList named).filter fun session => ids.contains session.id
  refine eq_of_ordered_by first second fun session => ?_
  rw [mem_filterMap_sessions named, List.mem_filter, Std.ExtTreeSet.mem_toList,
    Std.ExtTreeSet.contains_iff_mem]

private theorem flatMap_filterMap_sessions {γ : Type _} (live : Live) (find : Session → List γ)
    (ids : List SessionId) :
    (ids.filterMap fun id => live.sessions[id]?).flatMap find =
      ids.flatMap fun id => live.sessions[id]?.toList.flatMap find := by
  rw [List.filterMap_eq_flatMap_toList, List.flatMap_assoc]

theorem length_flatMap_toList {γ : Type _} (live : Live) (find : Session → List γ) :
    (live.toList.flatMap find).length =
      (live.ids.map fun id => (live.sessions[id]?.toList.flatMap find).length).sum := by
  rw [toList_eq_filterMap, flatMap_filterMap_sessions, List.length_flatMap]

private theorem filterMap_toList_eq_toList (named : live.Named) {ids : Std.ExtTreeSet SessionId}
    (whole : ∀ id ∈ live.ids, id ∈ ids) :
    (ids.toList.filterMap fun id => live.sessions[id]?) = live.toList := by
  rw [filterMap_toList_eq_filter named, List.filter_eq_self]
  intro session present
  rcases mem_toList.mp present with ⟨id, found⟩
  have listed : session.id ∈ live.ids := by
    rw [named id session found, Live.ids, Std.ExtTreeMap.mem_keys,
      Std.ExtTreeMap.mem_iff_isSome_getElem?, found]
    rfl
  exact Std.ExtTreeSet.contains_iff_mem.mpr (whole session.id listed)

/-- Two memories in which the same is found under each id give the same together, also when one of
them has sessions in which nothing is found. -/
theorem flatMap_toList_congr {γ : Type _} {first second : Live} (firstNamed : first.Named)
    (secondNamed : second.Named) {find : Session → List γ}
    (same : ∀ id : SessionId, first.sessions[id]?.toList.flatMap find =
      second.sessions[id]?.toList.flatMap find) :
    first.toList.flatMap find = second.toList.flatMap find := by
  let ids : Std.ExtTreeSet SessionId := .ofList (first.ids ++ second.ids)
  have firstWhole : ∀ id ∈ first.ids, id ∈ ids := by
    intro id member
    exact Std.ExtTreeSet.mem_ofList.mpr (by simp [member])
  have secondWhole : ∀ id ∈ second.ids, id ∈ ids := by
    intro id member
    exact Std.ExtTreeSet.mem_ofList.mpr (by simp [member])
  rw [← filterMap_toList_eq_toList firstNamed firstWhole,
    ← filterMap_toList_eq_toList secondNamed secondWhole, flatMap_filterMap_sessions,
    flatMap_filterMap_sessions]
  congr 1
  funext id
  exact same id

end Live

end ChatMemory
