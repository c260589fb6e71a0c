import ChatMemory.Store.Backend

/-!
What is found in a map after a change to it, with keys compared by equality.
-/

namespace ChatMemory

section

variable {κ α : Type _} [Ord κ] [Std.TransOrd κ] [Std.LawfulEqOrd κ] [DecidableEq κ]
  {map : Std.ExtTreeMap κ α} {key other : κ}

@[simp] theorem lookup_insert {value : α} :
    (map.insert key value)[other]? = if key = other then some value else map[other]? := by
  simp only [Std.ExtTreeMap.getElem?_insert, Std.LawfulEqCmp.compare_eq_iff_eq]

@[simp] theorem lookup_erase :
    (map.erase key)[other]? = if key = other then none else map[other]? := by
  simp only [Std.ExtTreeMap.getElem?_erase, Std.LawfulEqCmp.compare_eq_iff_eq]

@[simp] theorem lookup_alter {change : Option α → Option α} :
    (map.alter key change)[other]? = if key = other then change map[key]? else map[other]? := by
  simp only [Std.ExtTreeMap.getElem?_alter, Std.LawfulEqCmp.compare_eq_iff_eq]

end

end ChatMemory
