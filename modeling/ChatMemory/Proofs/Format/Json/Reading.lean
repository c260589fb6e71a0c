import ChatMemory.Format.Json.Fields
import ChatMemory.Proofs.Format.Json.Tokens
import Mathlib.Data.List.Nodup

/-!
Reading what was written. Main statement: the pretty printed text of a plain value is read as that
value.
-/

namespace ChatMemory.Json

private theorem foldlM_start {stage : Stage} (starts : stage = .value ∨ stage = .firstItem)
    {token : Token} (other : token ≠ .endArray) (frames : List Frame) (rest : List Token) :
    (token :: rest).foldlM placeOrEnd (stage, frames) =
      (place (.value, frames) token).bind (rest.foldlM placeOrEnd ·) := by
  have placed : placeOrEnd (stage, frames) token = place (.value, frames) token := by
    rcases starts with rfl | rfl
    · rfl
    · unfold placeOrEnd
      split
      · contradiction
      · rfl
  rw [List.foldlM_cons, placed]
  rfl

/-- Whether the tokens that spell a value are put together to that value. In place of the first
item of an array they are read as they are elsewhere. -/
def PlacedAsSpelled (value : Json) : Prop :=
  ∀ (stage : Stage) (frames : List Frame) (rest : List Token),
    stage = .value ∨ stage = .firstItem →
      (value.spell ++ rest).foldlM placeOrEnd (stage, frames) =
        rest.foldlM placeOrEnd (.after value, frames)

private theorem foldlM_spellItems {items : List Json}
    (placed : ∀ item ∈ items, PlacedAsSpelled item)
    (present : items ≠ []) (before : List Json) {stage : Stage}
    (starts : stage = .value ∨ stage = .firstItem) (frames : List Frame) (rest : List Token) :
    (spellItems items ++ .endArray :: rest).foldlM placeOrEnd (stage, .array before :: frames) =
      rest.foldlM placeOrEnd (.after (.array (before.reverse ++ items)), frames) := by
  induction items generalizing before stage with
  | nil => contradiction
  | cons item others ih =>
      rw [List.forall_mem_cons] at placed
      cases others with
      | nil =>
          rw [spellItems, placed.1 stage _ _ starts]
          simp [placeOrEnd, place]
      | cons next others =>
          simp only [spellItems, List.append_assoc, List.cons_append]
          rw [placed.1 stage _ _ starts, List.foldlM_cons]
          change List.foldlM placeOrEnd (.value, .array (item :: before) :: frames) _ = _
          rw [ih placed.2 (by simp) (item :: before) (.inl rfl)]
          simp

private theorem foldlM_spellMembers {members : List (Text × Json)}
    (placed : ∀ member ∈ members, PlacedAsSpelled member.2) (present : members ≠ [])
    (before : List (Text × Json)) (mayEnd : Bool) (frames : List Frame) (rest : List Token) :
    (spellMembers members ++ .endObject :: rest).foldlM placeOrEnd (.key before mayEnd, frames) =
      rest.foldlM placeOrEnd (.after (.object (before.reverse ++ members)), frames) := by
  induction members generalizing before mayEnd with
  | nil => contradiction
  | cons member others ih =>
      rcases member with ⟨key, value⟩
      rw [List.forall_mem_cons] at placed
      have keyed : ∀ rest : List Token,
          (Token.string key :: .colon :: (value.spell ++ rest)).foldlM placeOrEnd
              (.key before mayEnd, frames) =
            rest.foldlM placeOrEnd (.after value, .object before key :: frames) :=
        fun rest => placed.1 .value (.object before key :: frames) rest (.inl rfl)
      cases others with
      | nil =>
          simp only [spellMembers, List.cons_append]
          rw [keyed]
          simp [placeOrEnd, place]
      | cons next others =>
          simp only [spellMembers, List.append_assoc, List.cons_append]
          rw [keyed, List.foldlM_cons]
          change List.foldlM placeOrEnd (.key ((key, value) :: before) false, frames) _ = _
          rw [ih placed.2 (by simp)]
          simp

private theorem IsPlain.placedAsSpelled {value : Json} (plain : value.IsPlain) :
    PlacedAsSpelled value := by
  induction plain with
  | null => exact fun _ frames rest starts => foldlM_start starts (by simp) frames rest
  | bool value => exact fun _ frames rest starts => foldlM_start starts (by simp) frames rest
  | number negative whole =>
      exact fun _ frames rest starts => foldlM_start starts (by simp) frames rest
  | string text => exact fun _ frames rest starts => foldlM_start starts (by simp) frames rest
  | @array items plain placed =>
      intro stage frames rest starts
      simp only [spell, List.cons_append, List.append_assoc, List.nil_append]
      rw [foldlM_start starts (by simp)]
      change List.foldlM placeOrEnd (.firstItem, .array [] :: frames) _ = _
      by_cases none : items = []
      · subst none
        rfl
      · exact foldlM_spellItems placed none [] (.inr rfl) frames rest
  | @object members keyed plain placed =>
      intro stage frames rest starts
      simp only [spell, List.cons_append, List.append_assoc, List.nil_append]
      rw [foldlM_start starts (by simp)]
      change List.foldlM placeOrEnd (.key [] true, frames) _ = _
      by_cases none : members = []
      · subst none
        rfl
      · exact foldlM_spellMembers placed none [] true frames rest

private theorem IsPlain.ofTokens?_spell {value : Json} (plain : value.IsPlain) :
    ofTokens? value.spell = some value := by
  have placed := plain.placedAsSpelled .value [] [] (.inl rfl)
  rw [List.append_nil] at placed
  rw [ofTokens?, placed]
  rfl

theorem IsPlain.ofText?_toPrettyString {value : Json} (plain : value.IsPlain) :
    ofText? value.toPrettyString = some value := by
  rw [ofText?, toPrettyString, String.toList_ofList, tokens?_pretty plain, Option.bind_some,
    plain.ofTokens?_spell]

/-! ### Fields -/

theorem isPlain_ofNat (value : Nat) : (ofNat value).IsPlain :=
  .number false value

theorem isPlain_ofString (text : String) : (ofString text).IsPlain :=
  .string text

theorem isPlain_ofOption {α : Type _} {convert : α → Json}
    (plain : ∀ value, (convert value).IsPlain) (value : Option α) :
    (ofOption convert value).IsPlain := by
  cases value with
  | none => exact .null
  | some value => exact plain value

theorem isPlain_ofMembers {members : List (String × Json)}
    (plain : ∀ member ∈ members, member.2.IsPlain) : (ofMembers members).IsPlain := by
  apply IsPlain.object
  · intro member present
    rcases List.mem_map.mp present with ⟨named, there, rfl⟩
    rfl
  · intro member present
    rcases List.mem_map.mp present with ⟨named, there, rfl⟩
    exact plain named there

theorem count?_ofNat {value : Nat} (within : value < countLimit) :
    (ofNat value).count? = some value :=
  if_pos within

private theorem mapM_eq_some_map {α β : Type} {read? : α → Option β} {meant : α → β}
    {items : List α} (each : ∀ item ∈ items, read? item = some (meant item)) :
    items.mapM read? = some (items.map meant) := by
  induction items with
  | nil => rfl
  | cons item rest ih =>
      rw [List.forall_mem_cons] at each
      rw [List.mapM_cons, each.1, ih each.2]
      rfl

theorem list?_array {α : Type} {read? : Json → Option α} {write : α → Json} {items : List α}
    (each : ∀ item ∈ items, read? (write item) = some item) :
    list? read? (.array (items.map write)) = some items := by
  have read : items.mapM (read? ∘ write) = some (items.map id) := mapM_eq_some_map each
  rw [list?, List.mapM_map, read, List.map_id]

private theorem membersNamed_cons (name key : String) (value : Json) (rest : List (Text × Json)) :
    membersNamed name ((some key, value) :: rest) =
      if key = name then value :: membersNamed name rest else membersNamed name rest := by
  simp only [membersNamed, List.filterMap_cons, Option.some.injEq]
  split_ifs <;> rfl

private theorem membersNamed_of_notMem {members : List (String × Json)} {name : String}
    (missing : name ∉ members.map (·.1)) :
    membersNamed name (members.map fun (name, value) => (some name, value)) = [] := by
  induction members with
  | nil => rfl
  | cons member rest ih =>
      rw [List.map_cons, List.mem_cons, not_or] at missing
      rw [List.map_cons, membersNamed_cons, if_neg (Ne.symm missing.1), ih missing.2]

private theorem membersNamed_of_mem {members : List (String × Json)}
    (distinct : (members.map (·.1)).Nodup) {member : String × Json} (present : member ∈ members) :
    membersNamed member.1 (members.map fun (name, value) => (some name, value)) = [member.2] := by
  induction members with
  | nil => cases present
  | cons first rest ih =>
      rw [List.map_cons, List.nodup_cons] at distinct
      rw [List.map_cons, membersNamed_cons]
      rcases List.mem_cons.mp present with rfl | later
      · rw [if_pos rfl, membersNamed_of_notMem distinct.1]
      · have different : first.1 ≠ member.1 := by
          intro equal
          exact distinct.1 (equal ▸ List.mem_map_of_mem later)
        rw [if_neg different, ih distinct.2 later]

theorem fields?_ofMembers {members : List (String × Json)}
    (distinct : (members.map (·.1)).Nodup) :
    (ofMembers members).fields? (members.map (·.1)) =
      some (members.map fun member => some member.2) := by
  have keyed : (members.map fun (name, value) => (some name, value)).any (·.1.isNone) = false := by
    simp
  simp only [ofMembers, fields?, keyed, Bool.false_eq_true, if_false, List.mapM_map]
  apply mapM_eq_some_map
  intro member present
  simp only [Function.comp_apply, membersNamed_of_mem distinct present]

end ChatMemory.Json
