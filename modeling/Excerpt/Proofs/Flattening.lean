import Excerpt.Proofs.Fields

/-!
# Flattening

`Value.flattened` leaves out the structural fields of a value and nothing else.  What a value is
made of can be seen from three sides, and flattening is described from each:

* `Inside` : the values that stand in a value, at any depth.  No structural name is left in the
  fields inside a flattened value, and a value without them is not changed by flattening.
* `nodes` : the tree of a value written down from top to bottom, each node with the branches that
  lead to it.  Flattening strikes out the nodes behind a structural name; the others stay as they
  are, in their order.
* `at?` : the value at a path of names.  Flattening can be put before or behind the look-up.

`flattened_drops_structural` puts them together.
-/

namespace Excerpt.Value

/-! ## Induction on values -/

theorem sizeOf_lt_of_entry {entries : List (String × Value)} {entry : String × Value}
    (h : entry ∈ entries) : sizeOf entry.2 < sizeOf entries := by
  have hlt := List.sizeOf_lt_of_mem h
  obtain ⟨name, v⟩ := entry
  rw [Prod.mk.sizeOf_spec] at hlt
  show sizeOf v < sizeOf entries
  omega

/-- Induction on a value, with the values below each node. -/
@[elab_as_elim]
theorem induct {P : Value → Prop}
    (nil : P .nil)
    (number : ∀ x, P (.number x))
    (string : ∀ s, P (.string s))
    (bool : ∀ b, P (.bool b))
    (list : ∀ items, (∀ v ∈ items, P v) → P (.list items))
    (map : ∀ entries, (∀ entry ∈ entries, P entry.2) → P (.map entries))
    (v : Value) : P v := by
  induction hsize : sizeOf v using Nat.strongRecOn generalizing v with
  | ind size ih =>
    subst hsize
    cases v with
    | nil => exact nil
    | number x => exact number x
    | string s => exact string s
    | bool b => exact bool b
    | list items =>
      refine list items fun v hv => ih _ ?_ v rfl
      have := List.sizeOf_lt_of_mem hv
      rw [Value.list.sizeOf_spec]
      omega
    | map entries =>
      refine map entries fun entry hentry => ih _ ?_ entry.2 rfl
      have := sizeOf_lt_of_entry hentry
      rw [Value.map.sizeOf_spec]
      omega

/-! ## Lists and fields -/

theorem flattenedList_eq_map (items : List Value) :
    flattenedList items = items.map flattened := by
  induction items with
  | nil => rfl
  | cons v rest ih => rw [flattenedList, ih, List.map_cons]

/-- Fields lose the structural ones, and the others are flattened where they stand. -/
theorem flattenedFields_eq_map (entries : List (String × Value)) :
    flattenedFields entries =
      (entries.filter fun entry => !isStructural entry.1).map
        fun entry => (entry.1, entry.2.flattened) := by
  induction entries with
  | nil => rfl
  | cons entry rest ih =>
    obtain ⟨key, v⟩ := entry
    rw [flattenedFields]
    cases hkey : isStructural key <;> simp [hkey, ih]

/-! ## The values inside a value -/

/-- A value stands in another one, at any depth. -/
inductive Inside : Value → Value → Prop
  | self (v : Value) : Inside v v
  | item {w v : Value} {items : List Value} (hitem : v ∈ items) (hinside : Inside w v) :
    Inside w (.list items)
  | field {w : Value} {entries : List (String × Value)} {entry : String × Value}
    (hentry : entry ∈ entries) (hinside : Inside w entry.2) : Inside w (.map entries)

/-- No fields inside the value have a structural name. -/
def IsPlain (v : Value) : Prop :=
  ∀ fields, Inside (.map fields) v → ∀ key ∈ Fields.keys fields, isStructural key = false

theorem IsPlain.item {v : Value} {items : List Value} (h : (Value.list items).IsPlain)
    (hitem : v ∈ items) : v.IsPlain :=
  fun fields hinside => h fields (.item hitem hinside)

theorem IsPlain.field {entries : List (String × Value)} {entry : String × Value}
    (h : (Value.map entries).IsPlain) (hentry : entry ∈ entries) : entry.2.IsPlain :=
  fun fields hinside => h fields (.field hentry hinside)

/-- Flattening leaves no structural name at any depth. -/
theorem isPlain_flattened (v : Value) : v.flattened.IsPlain := by
  induction v using Value.induct with
  | nil | number _ | string _ | bool _ =>
    intro fields hinside
    cases hinside
  | list items ih =>
    intro fields hinside
    rw [flattened, flattenedList_eq_map] at hinside
    cases hinside with
    | item hitem hinside =>
      obtain ⟨v, hv, rfl⟩ := List.mem_map.1 hitem
      exact ih v hv fields hinside
  | map entries ih =>
    intro fields hinside
    rw [flattened] at hinside
    cases hinside with
    | self =>
      intro key hkey
      rw [keys_flattenedFields, List.mem_filter] at hkey
      simpa using hkey.2
    | field hentry hinside =>
      rw [flattenedFields_eq_map] at hentry
      obtain ⟨kept, hkept, rfl⟩ := List.mem_map.1 hentry
      exact ih kept (List.mem_filter.1 hkept).1 fields hinside

/-- A value without structural names is flat already. -/
theorem flattened_eq_self {v : Value} (h : v.IsPlain) : v.flattened = v := by
  induction v using Value.induct with
  | nil | number _ | string _ | bool _ => rfl
  | list items ih =>
    rw [flattened, flattenedList_eq_map]
    have hitems : ∀ v ∈ items, v.flattened = v := fun v hv => ih v hv (h.item hv)
    rw [List.map_congr_left hitems, List.map_id']
  | map entries ih =>
    rw [flattened, flattenedFields_eq_map]
    have hkept : (entries.filter fun entry => !isStructural entry.1) = entries := by
      refine List.filter_eq_self.2 fun entry hentry => ?_
      rw [h entries (.self _) entry.1 (List.mem_map_of_mem hentry)]
      rfl
    have hvalues : ∀ entry ∈ entries, (entry.1, entry.2.flattened) = entry := by
      intro entry hentry
      rw [ih entry hentry (h.field hentry)]
    rw [hkept, List.map_congr_left hvalues, List.map_id']

/-! ## The nodes of a value -/

/-- A branch from a list or from fields to one of the values in it. -/
inductive Branch where
  | item (index : Nat)
  | field (name : String)

/-- The branch does not lead to a structural field. -/
def Branch.isKept : Branch → Bool
  | item _ => true
  | field name => !isStructural name

/-- A node of a value: the branches that lead there from the top, and what stands there itself,
which of a list or of fields is the empty one. -/
abbrev Node := List Branch × Value

/-- A node seen from above a branch. -/
def Node.below (branch : Branch) (node : Node) : Node := (branch :: node.1, node.2)

/-- No branch on the way to the node leads to a structural field. -/
def Node.isKept (node : Node) : Bool := node.1.all Branch.isKept

mutual

/-- The nodes of a value from top to bottom, those of each branch behind those of the ones
before. -/
def nodes : Value → List Node
  | .list items => ([], .list []) :: itemNodes 0 items
  | .map entries => ([], .map []) :: fieldNodes entries
  | v => [([], v)]

/-- The nodes of the items of a list, the first of which has some index. -/
def itemNodes : Nat → List Value → List Node
  | _, [] => []
  | index, v :: rest => v.nodes.map (Node.below (.item index)) ++ itemNodes (index + 1) rest

/-- The nodes of the values of fields. -/
def fieldNodes : List (String × Value) → List Node
  | [] => []
  | (name, v) :: rest => v.nodes.map (Node.below (.field name)) ++ fieldNodes rest

end

/-- All nodes below a branch are kept or struck out with it. -/
theorem filter_map_below (branch : Branch) (ns : List Node) :
    (ns.map (Node.below branch)).filter Node.isKept =
      if branch.isKept then (ns.filter Node.isKept).map (Node.below branch) else [] := by
  have hbelow : Node.isKept ∘ Node.below branch = fun node => branch.isKept && node.isKept := rfl
  rw [List.filter_map, hbelow]
  cases branch.isKept <;> simp

/-- Flattening keeps the items of a list under their indices. -/
theorem itemNodes_flattenedList {items : List Value}
    (hitems : ∀ v ∈ items, v.flattened.nodes = v.nodes.filter Node.isKept) (index : Nat) :
    itemNodes index (flattenedList items) = (itemNodes index items).filter Node.isKept := by
  induction items generalizing index with
  | nil => rfl
  | cons v rest ih =>
    rw [List.forall_mem_cons] at hitems
    rw [flattenedList, itemNodes, itemNodes, List.filter_append, filter_map_below, hitems.1,
      ih hitems.2]
    rfl

/-- Flattening strikes out the nodes of the structural fields. -/
theorem fieldNodes_flattenedFields {entries : List (String × Value)}
    (hentries : ∀ entry ∈ entries,
      entry.2.flattened.nodes = entry.2.nodes.filter Node.isKept) :
    fieldNodes (flattenedFields entries) = (fieldNodes entries).filter Node.isKept := by
  induction entries with
  | nil => rfl
  | cons entry rest ih =>
    obtain ⟨name, v⟩ := entry
    rw [List.forall_mem_cons] at hentries
    rw [flattenedFields, fieldNodes, List.filter_append, filter_map_below, ← ih hentries.2,
      ← hentries.1, Branch.isKept]
    cases isStructural name with
    | true => rfl
    | false => rfl

/-- Flattening strikes out the nodes behind structural names, and changes nothing else. -/
theorem nodes_flattened (v : Value) : v.flattened.nodes = v.nodes.filter Node.isKept := by
  induction v using Value.induct with
  | nil | number _ | string _ | bool _ => rfl
  | list items ih =>
    rw [flattened, nodes, nodes, itemNodes_flattenedList ih]
    rfl
  | map entries ih =>
    rw [flattened, nodes, nodes, fieldNodes_flattenedFields ih]
    rfl

/-! ## Look-up -/

/-- The value at a path of names. -/
def at? (v : Value) : List String → Option Value
  | [] => some v
  | name :: path => (v.get? name).bind fun w => w.at? path

/-- A name that is not structural is found in flattened fields where it was found before. -/
theorem get?_flattenedFields {name : String} (hname : isStructural name = false)
    (entries : List (String × Value)) :
    Fields.get? (flattenedFields entries) name = (Fields.get? entries name).map flattened := by
  induction entries with
  | nil => rfl
  | cons entry rest ih =>
    obtain ⟨key, v⟩ := entry
    rw [flattenedFields, Fields.get?]
    by_cases hkey : key = name
    · rw [hkey, hname, if_neg Bool.false_ne_true, Fields.get?, if_pos rfl, if_pos rfl]
      rfl
    · rw [if_neg hkey, ← ih]
      split
      · rfl
      · rw [Fields.get?, if_neg hkey]

theorem get?_flattened {name : String} (hname : isStructural name = false) (v : Value) :
    v.flattened.get? name = (v.get? name).map flattened := by
  cases v with
  | nil | number _ | string _ | bool _ | list _ => rfl
  | map entries => exact get?_flattenedFields hname entries

/-- At a path of names that are not structural, flattening may come before the look-up or behind
it. -/
theorem at?_flattened {path : List String} (hpath : ∀ key ∈ path, isStructural key = false)
    (v : Value) : v.flattened.at? path = (v.at? path).map flattened := by
  induction path generalizing v with
  | nil => rfl
  | cons name path ih =>
    rw [List.forall_mem_cons] at hpath
    rw [at?, at?, get?_flattened hpath.1]
    cases v.get? name with
    | none => rfl
    | some w => exact ih hpath.2 w

/-! ## Flattening as a whole -/

/-- What flattening does to a value with lists and fields at any depth. -/
theorem flattened_drops_structural (v : Value) :
    -- No fields inside have a structural name any more,
    (∀ fields, Inside (.map fields) v.flattened →
      ∀ key ∈ Fields.keys fields, isStructural key = false) ∧
    -- so flattening once more changes nothing.
    v.flattened.flattened = v.flattened ∧
    -- All nodes that do not stand behind such a name are there, as they were and in their order.
    v.flattened.nodes = v.nodes.filter Node.isKept ∧
    -- At a path without such names there is what was there, flattened.
    ∀ path : List String, (∀ key ∈ path, isStructural key = false) →
      v.flattened.at? path = (v.at? path).map flattened :=
  ⟨isPlain_flattened v, flattened_eq_self (isPlain_flattened v), nodes_flattened v,
    fun _ hpath => at?_flattened hpath v⟩

/-- Structural names go at every depth, also inside lists. -/
example :
    (map [("_open", .string "<"),
      ("items", .list [.map [("_comma", .nil), ("name", .string "x")], .string "_y"])]).flattened =
      map [("items", .list [.map [("name", .string "x")], .string "_y"])] := rfl

end Excerpt.Value
