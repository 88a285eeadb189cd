import Excerpt.Value.Basic
import Mathlib.Data.List.Induction
import Mathlib.Data.List.Nodup

/-!
# Fields

Fields are a list of entries, but every operation that makes fields binds a name only once.

* `keys_insert_of_mem` and `insert_of_not_mem` : a name that is bound again keeps its place, and a
  new one goes behind the others.
* `nodup_keys_insert` : so names differ.
* `ofList_eq_self` : binding different names lists them in the order in which they are bound.
* `get?_insert` and `get?_of_mem` : a name that is bound is found with its last value, and where
  names differ, each entry is found.

`Value.Distinct` says that names differ in all fields inside a value.
-/

namespace Excerpt.Fields

variable {fields : Fields} {name : String} {value : Value}

/-- A name that is not bound yet is bound behind the others. -/
theorem insert_of_not_mem (h : name ∉ keys fields) :
    insert fields name value = fields ++ [(name, value)] := by
  induction fields with
  | nil => rfl
  | cons entry rest ih =>
    obtain ⟨key, old⟩ := entry
    have hkeys : name ∉ key :: keys rest := h
    rw [List.mem_cons, not_or] at hkeys
    rw [insert, if_neg (Ne.symm hkeys.1), ih hkeys.2]
    rfl

/-- A name that is bound again keeps its place. -/
theorem keys_insert_of_mem (h : name ∈ keys fields) :
    keys (insert fields name value) = keys fields := by
  induction fields with
  | nil => cases h
  | cons entry rest ih =>
    obtain ⟨key, old⟩ := entry
    rw [insert]
    split
    · rfl
    · rename_i hne
      have hrest : name ∈ keys rest := by
        rcases List.mem_cons.1 h with heq | hrest
        · exact absurd heq.symm hne
        · exact hrest
      show key :: keys (insert rest name value) = key :: keys rest
      rw [ih hrest]

/-- Binding a name keeps names different. -/
theorem nodup_keys_insert (h : (keys fields).Nodup) (name : String) (value : Value) :
    (keys (insert fields name value)).Nodup := by
  by_cases hmem : name ∈ keys fields
  · rw [keys_insert_of_mem hmem]
    exact h
  · rw [insert_of_not_mem hmem, keys, List.map_append, List.nodup_append]
    refine ⟨h, List.nodup_singleton _, ?_⟩
    intro key hkey key' hkey' heq
    have hname : key' = name := List.mem_singleton.1 hkey'
    rw [heq, hname] at hkey
    exact hmem hkey

/-- An entry after binding a name is an earlier one or the new one. -/
theorem mem_of_mem_insert {entry : String × Value} (h : entry ∈ insert fields name value) :
    entry ∈ fields ∨ entry = (name, value) := by
  induction fields with
  | nil => exact Or.inr (List.mem_singleton.1 h)
  | cons first rest ih =>
    obtain ⟨key, old⟩ := first
    rw [insert] at h
    split at h
    · rename_i heq
      rcases List.mem_cons.1 h with hnew | hrest
      · exact Or.inr (by rw [hnew, heq])
      · exact Or.inl (List.mem_cons_of_mem _ hrest)
    · rcases List.mem_cons.1 h with hfirst | hrest
      · exact Or.inl (hfirst ▸ List.mem_cons_self)
      · rcases ih hrest with hold | hnew
        · exact Or.inl (List.mem_cons_of_mem _ hold)
        · exact Or.inr hnew

/-- What is found after binding a name is the new value under it, and under other names as
before. -/
theorem get?_insert (fields : Fields) (name : String) (value : Value) (key : String) :
    get? (insert fields name value) key = if name = key then some value else get? fields key := by
  induction fields with
  | nil => rfl
  | cons entry rest ih =>
    obtain ⟨first, old⟩ := entry
    rw [insert]
    by_cases hfirst : first = name
    · rw [if_pos hfirst, get?, get?, hfirst]
      by_cases hkey : name = key <;> simp [hkey]
    · rw [if_neg hfirst, get?, get?, ih]
      by_cases hname : name = key
      · simp [hname, hname ▸ hfirst]
      · simp [hname]

/-- What is found under a name is bound to it. -/
theorem mem_of_get? (h : get? fields name = some value) : (name, value) ∈ fields := by
  induction fields with
  | nil => cases h
  | cons first rest ih =>
    obtain ⟨key, old⟩ := first
    rw [get?] at h
    split at h
    · rename_i heq
      cases h
      rw [heq]
      exact List.mem_cons_self
    · exact List.mem_cons_of_mem _ (ih h)

/-- Where names differ, each entry is found. -/
theorem get?_of_mem (hkeys : (keys fields).Nodup) (hmem : (name, value) ∈ fields) :
    get? fields name = some value := by
  induction fields with
  | nil => cases hmem
  | cons first rest ih =>
    obtain ⟨key, old⟩ := first
    have hnodup : (key :: keys rest).Nodup := hkeys
    rw [List.nodup_cons] at hnodup
    rw [get?]
    rcases List.mem_cons.1 hmem with heq | hrest
    · cases heq
      exact if_pos rfl
    · have hname : name ∈ keys rest := List.mem_map_of_mem hrest
      have hne : ¬ key = name := by
        intro heq
        exact hnodup.1 (heq ▸ hname)
      rw [if_neg hne]
      exact ih hnodup.2 hrest

/-! ## Several entries -/

theorem ofList_concat (entries : List (String × Value)) (entry : String × Value) :
    ofList (entries ++ [entry]) = insert (ofList entries) entry.1 entry.2 := by
  simp [ofList]

/-- Different names are listed in the order in which they are bound. -/
theorem ofList_eq_self {entries : List (String × Value)} (h : (entries.map Prod.fst).Nodup) :
    ofList entries = entries := by
  induction entries using List.reverseRecOn with
  | nil => rfl
  | append_singleton entries entry ih =>
    rw [List.map_append, List.nodup_append] at h
    obtain ⟨hentries, _, hdisjoint⟩ := h
    have hnew : entry.1 ∉ keys entries := fun hmem =>
      hdisjoint _ hmem _ (List.mem_singleton.2 rfl) rfl
    rw [ofList_concat, ih hentries, insert_of_not_mem hnew]

end Excerpt.Fields

namespace Excerpt

/-! ## Names inside values -/

/-- In all fields inside a value, at any depth, the names differ. -/
inductive Value.Distinct : Value → Prop
  | nil : Distinct .nil
  | number (x : Float) : Distinct (.number x)
  | string (s : String) : Distinct (.string s)
  | bool (b : Bool) : Distinct (.bool b)
  | list {items : List Value} (hitems : ∀ v ∈ items, Distinct v) : Distinct (.list items)
  | map {entries : List (String × Value)} (hkeys : (Fields.keys entries).Nodup)
    (hvalues : ∀ entry ∈ entries, Distinct entry.2) : Distinct (.map entries)

/-- Binding a name to such a value keeps names different. -/
theorem Value.Distinct.insert {fields : Fields} {value : Value} (h : (Value.map fields).Distinct)
    (hvalue : value.Distinct) (name : String) :
    (Value.map (Fields.insert fields name value)).Distinct := by
  cases h with
  | map hkeys hvalues =>
    refine .map (Fields.nodup_keys_insert hkeys name value) fun entry hentry => ?_
    rcases Fields.mem_of_mem_insert hentry with hold | rfl
    · exact hvalues entry hold
    · exact hvalue

/-- Flattening keeps the names that are not structural. -/
theorem Value.keys_flattenedFields (entries : List (String × Value)) :
    Fields.keys (Value.flattenedFields entries) =
      (Fields.keys entries).filter fun key => !isStructural key := by
  induction entries with
  | nil => rfl
  | cons entry rest ih =>
    obtain ⟨key, v⟩ := entry
    rw [Value.flattenedFields]
    cases hstructural : isStructural key <;> simpa [Fields.keys, hstructural] using ih

end Excerpt
