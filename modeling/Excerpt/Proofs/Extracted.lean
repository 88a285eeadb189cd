import Excerpt.Proofs.Matcher.Origin
import Excerpt.Proofs.Scan.Run

/-!
# The names in a record

The JSON form of an extracted match is one object: the text and the place under names that are
reserved, and then the fields.  A step name cannot be a reserved one, since no step name has a
dollar sign.  Fields that a step has computed are not bound under step names, though, and if they
are pulled up they become the fields of the record.

`keys_nodup_iff` says that this is the only way in which the names in a record of a scan can clash.
-/

namespace Excerpt

namespace Extracted

/-! ## The members -/

/-- The members of the JSON form, each with its name and what is written under it. -/
def written (e : Extracted) : List (String × String) :=
  ("$matched", Json.string (String.ofList e.matched)) :: ("$offset", toString e.offset) ::
    e.body.map fun entry => (entry.1, Json.ofValue entry.2)

/-- The names of the members. -/
def keys (e : Extracted) : List String := e.written.map Prod.fst

theorem members_eq_map (fields : Fields) :
    Json.members fields = fields.map fun entry => Json.member entry.1 (Json.ofValue entry.2) := by
  induction fields with
  | nil => rfl
  | cons entry rest ih =>
    obtain ⟨key, v⟩ := entry
    rw [Json.members, ih, List.map_cons]

theorem jsonMembers_eq_map (e : Extracted) :
    e.jsonMembers = e.written.map fun member => Json.member member.1 member.2 := by
  rw [jsonMembers, written, members_eq_map, List.map_cons, List.map_cons, List.map_map]
  rfl

theorem keys_eq (e : Extracted) : e.keys = "$matched" :: "$offset" :: Fields.keys e.body := by
  rw [keys, written, List.map_cons, List.map_cons, List.map_map]
  rfl

/-! ## Reserved names -/

/-- The fields of a match have one of the names that are reserved for its text and its place. -/
def TakesReserved (e : Extracted) : Prop :=
  ∃ entries, e.value = .map entries ∧
    ("$matched" ∈ Fields.keys entries ∨ "$offset" ∈ Fields.keys entries)

/-- A reserved name is no step name. -/
theorem validateStepName_reserved {key : String} (hkey : key = "$matched" ∨ key = "$offset") :
    validateStepName key ≠ .ok () := by
  intro h
  have hvalid : (validateStepName key).isOk = true := by rw [h]; rfl
  rcases hkey with rfl | rfl
  · exact absurd hvalid (by decide)
  · exact absurd hvalid (by decide)

theorem takesReserved_iff {e : Extracted} :
    e.TakesReserved ↔ "$matched" ∈ Fields.keys e.body ∨ "$offset" ∈ Fields.keys e.body := by
  cases hvalue : e.value <;> simp [TakesReserved, body, hvalue, Fields.keys]

/-- Flattening keeps the names of fields different. -/
theorem nodup_keys_body {m : Match} (h : m.value.Distinct) :
    (Fields.keys (ofMatch m).body).Nodup := by
  rw [body, ofMatch]
  generalize m.value = v at h
  cases h with
  | map hkeys _ =>
    simp only [Value.flattened, Value.keys_flattenedFields]
    exact hkeys.filter _
  | nil | number _ | string _ | bool _ | list _ => exact List.nodup_singleton _

/-- The names in a record differ unless a field has a reserved one. -/
theorem nodup_keys_ofMatch {m : Match} (h : m.value.Distinct) :
    (ofMatch m).keys.Nodup ↔ ¬ (ofMatch m).TakesReserved := by
  rw [keys_eq, takesReserved_iff, not_or]
  simp [nodup_keys_body h]

/-- A match whose fields are bound under step names has no reserved name among them. -/
theorem not_takesReserved {m : Match} (h : m.value.HasStepNames) :
    ¬ (ofMatch m).TakesReserved := by
  rintro ⟨entries, hentries, hreserved⟩
  cases hvalue : m.value with
  | map fields =>
    have hflattened : Value.flattenedFields fields = entries := by
      rw [ofMatch, hvalue, Value.flattened] at hentries
      exact Value.map.inj hentries
    obtain ⟨key, hkey, hmem⟩ : ∃ key, (key = "$matched" ∨ key = "$offset") ∧
        key ∈ Fields.keys entries := by
      rcases hreserved with hmem | hmem
      · exact ⟨_, Or.inl rfl, hmem⟩
      · exact ⟨_, Or.inr rfl, hmem⟩
    rw [← hflattened, Value.keys_flattenedFields] at hmem
    exact validateStepName_reserved hkey (h fields hvalue key (List.mem_filter.1 hmem).1)
  | nil | number _ | string _ | bool _ | list _ =>
    rw [ofMatch, hvalue] at hentries
    cases hentries

end Extracted

/-! ## Grammars -/

namespace Grammar

/-- The matchers of a grammar, those in its rules included. -/
def Holds (g : Grammar) (part : Matcher) : Prop :=
  g.matcher.Part part ∨ ∃ rule ∈ g.rules, rule.2.Part part

/-- A grammar puts the value that a step computes in the place of its sequence. -/
def PullsUpComputed (g : Grammar) (v : Value) : Prop :=
  ∃ field value given, PullsUp g.Holds field ∧ Computes g.Holds field value ∧ v = value given

theorem inside (g : Grammar) : Matcher.Inside g.Holds g.rules g.matcher where
  parts := fun _ hpart => Or.inl hpart
  rules := fun rule hrule _ hpart => Or.inr ⟨rule, hrule, hpart⟩

theorem hasStepNames_or_pullsUpComputed {g : Grammar} {v : Value} (h : Origin g.Holds v) :
    v.HasStepNames ∨ g.PullsUpComputed v := by
  cases h with
  | steps hnames => exact Or.inl hnames
  | pulledUp hpulls hcomputes given => exact Or.inr ⟨_, _, given, hpulls, hcomputes, rfl⟩

end Grammar

namespace Extracted

/-- The names in a record of a scan differ unless its value has been computed by a step, is pulled
up and has fields of its own under a reserved name. -/
theorem keys_nodup_iff {g : Grammar} (hbuilt : WellBuilt g.Holds) {text : Text}
    {es : List Extracted} {last : Scan} (h : (g.scan text).Yields es last) {e : Extracted}
    (he : e ∈ es) :
    e.jsonMembers = (e.written.map fun member => Json.member member.1 member.2) ∧
      (e.keys.Nodup ↔ ¬ (g.PullsUpComputed e.tree.value ∧ e.TakesReserved)) := by
  refine ⟨e.jsonMembers_eq_map, ?_⟩
  obtain ⟨_, _, hfound⟩ := h.row
  obtain ⟨place, found, _, _, hattempt, _, rfl, _⟩ := hfound e he
  have htraced : found.Traced g.Holds := Matcher.matchIn_traced hbuilt g.inside hattempt
  rw [nodup_keys_ofMatch htraced.distinct]
  constructor
  · rintro hfree ⟨_, htakes⟩
    exact hfree htakes
  · intro hnot htakes
    rcases Grammar.hasStepNames_or_pullsUpComputed htraced.origin with hnames | hcomputed
    · exact not_takesReserved hnames htakes
    · exact hnot ⟨hcomputed, htakes⟩

/-- A word, and a step that computes fields. -/
def wordAndFields (name : String) : Matcher :=
  .sequence "word"
    [.take "a" (.literal "x"), .alter "b" fun _ => .map [(name, .string "boom")]] .relaxed

/-- A word with the computed fields in the place of its own. -/
def computedFields (name : String) : Matcher := .optional (wordAndFields name) (some "b")

theorem wellBuilt_computedFields (name : String) :
    WellBuilt (Grammar.ofMatcher (computedFields name)).Holds := by
  have hparts : ∀ {id steps config},
      (Grammar.ofMatcher (computedFields name)).Holds (.sequence id steps config) →
      steps = [.take "a" (.literal "x"), .alter "b" fun _ => .map [(name, .string "boom")]] := by
    intro id steps config h
    rcases h with h | ⟨_, hrule, _⟩
    · cases h with
      | optional h =>
        cases h with
        | self => rfl
        | sequence hstep h =>
          rcases List.mem_pair.1 hstep with hstep | hstep
          · cases hstep
            cases h
          · cases hstep
    · cases hrule
  constructor
  · intro id steps config h
    rw [hparts h]
    have hvalid : validateStepNames id [] ["a", "b"] = .ok () := rfl
    exact ⟨some id, Matcher.sequence?_of_valid hvalid⟩
  · rintro key value ⟨id, steps, config, h, hstep⟩ fields _
    rw [hparts h] at hstep
    rcases List.mem_pair.1 hstep with hstep | hstep
    · cases hstep
    · cases hstep
      refine .map (List.nodup_singleton name) fun entry hentry => ?_
      rw [List.mem_singleton.1 hentry]
      exact .string "boom"

theorem keys_nodup_iff_computedFields :
    WellBuilt (Grammar.ofMatcher (computedFields "text")).Holds ∧
      ∃ (es : List Extracted) (last : Scan) (e : Extracted),
        ((Grammar.ofMatcher (computedFields "text")).scan "x".toList).Yields es last ∧ e ∈ es ∧
        e.jsonMembers = (e.written.map fun member => Json.member member.1 member.2) ∧
        (e.keys.Nodup ↔
          ¬ ((Grammar.ofMatcher (computedFields "text")).PullsUpComputed e.tree.value ∧
            e.TakesReserved)) := by
  have hbuilt := wellBuilt_computedFields "text"
  have hfinds : ((Grammar.ofMatcher (computedFields "text")).findMatches "x".toList).any
      (fun es => !es.isEmpty) = true := by
    decide +kernel
  obtain ⟨es, hes, hne⟩ := (Option.any_eq_true _ _).1 hfinds
  obtain ⟨last, hyields, _⟩ := Scan.toList_eq_some_iff.1 hes
  cases es with
  | nil => cases hne
  | cons e es =>
    have he : e ∈ e :: es := List.mem_cons_self
    exact ⟨hbuilt, e :: es, last, e, hyields, he, keys_nodup_iff hbuilt hyields he⟩

/-- Fields that are pulled up can take the name of the text. -/
theorem computedFields_clash :
    Matcher.optionalField? (wordAndFields "$matched") "b" = .ok (computedFields "$matched") ∧
      WellBuilt (Grammar.ofMatcher (computedFields "$matched")).Holds ∧
      ∃ e, (Grammar.ofMatcher (computedFields "$matched")).findMatches "x".toList = some [e] ∧
        e.toJson = "\x7b\"$matched\":\"x\",\"$offset\":0,\"$matched\":\"boom\"\x7d" ∧
        e.keys = ["$matched", "$offset", "$matched"] ∧ ¬ e.keys.Nodup := by
  refine ⟨if_pos rfl, wellBuilt_computedFields "$matched", ?_⟩
  have hrecords : ((Grammar.ofMatcher (computedFields "$matched")).findMatches "x".toList).map
      (List.map fun e => (e.toJson, e.keys)) =
      some [("\x7b\"$matched\":\"x\",\"$offset\":0,\"$matched\":\"boom\"\x7d",
        ["$matched", "$offset", "$matched"])] := by
    decide +kernel
  obtain ⟨es, hes, hmap⟩ := Option.map_eq_some_iff.1 hrecords
  obtain ⟨e, rfl, he⟩ := List.map_eq_singleton_iff.1 hmap
  obtain ⟨hjson, hkeys⟩ := Prod.mk.inj he
  refine ⟨e, hes, hjson, hkeys, ?_⟩
  rw [hkeys]
  decide

end Extracted

end Excerpt
