import GraphBind.Datum
import GraphBind.Proofs.Checks
import GraphBind.Proofs.Json.Distinct
import GraphBind.Value.Basic
import Mathlib.Data.List.Forall2

/-!
# Values as images of documents

A value holds what its document does and nothing else. From a document that repeats no key one comes
to its value and back without a loss (`toJson_ofJson`), and a path leads to the value of what it
leads to in the document (`follow_ofJson_eq_ok_iff`); where the path breaks off in the document, it
does so at the same step in the value (`follow_ofJson_eq_error`).

The other way round a value may hold objects that repeat keys, which no document does. `Merges` says
what becomes of it: in every object the keys stand where they first come, each with its last value.
A value is left as it is if and only if there is nothing to merge (`ofJson_toJson_eq_iff`).
-/

namespace GraphBind

/-! ## Data of documents -/

namespace Datum

mutual

/-- The datum of a document. -/
def ofJson : Json → Datum
  | .null => null
  | .scalar s => scalar s
  | .array items => list (ofItems items)
  | .object members => dictionary (ofMembers members)

/-- The data of the items of an array. -/
def ofItems : List Json → List Datum
  | [] => []
  | d :: ds => ofJson d :: ofItems ds

/-- The entries of an object. -/
def ofMembers : List (Text × Json) → List (Datum × Datum)
  | [] => []
  | (key, d) :: ds => (scalar (.str key), ofJson d) :: ofMembers ds

end

mutual

/-- Every document has a value. -/
theorem toValue_ofJson : ∀ d : Json, (ofJson d).toValue = .ok (Value.ofJson d)
  | .null => rfl
  | .scalar _ => rfl
  | .array items => by
    rw [ofJson, toValue, toItems_ofItems items]
    rfl
  | .object members => by
    rw [ofJson, toValue, toEntries_ofMembers members]
    rfl

theorem toItems_ofItems : ∀ ds : List Json, toItems (ofItems ds) = .ok (Value.ofItems ds)
  | [] => rfl
  | d :: ds => by
    rw [ofItems, toItems, toValue_ofJson d, toItems_ofItems ds]
    rfl

theorem toEntries_ofMembers : ∀ ms : List (Text × Json),
    toEntries (ofMembers ms) = .ok (Value.ofMembers ms)
  | [] => rfl
  | (key, d) :: ms => by
    rw [ofMembers, toEntries, toValue_ofJson d, toEntries_ofMembers ms]
    rfl

end

end Datum

namespace Value

/-- No object in the value repeats a key. -/
inductive Distinct : Value → Prop where
  | null : Distinct null
  | scalar (s : Scalar) : Distinct (scalar s)
  | list {items : List Value} (hitems : ∀ v ∈ items, Distinct v) : Distinct (list items)
  | object {entries : List (Text × Value)} (hkeys : (Entries.keys entries).Nodup)
    (hentries : ∀ e ∈ entries, Distinct e.2) : Distinct (object entries)

/-- Induction on what stands inside of values. -/
@[elab_as_elim, induction_eliminator]
theorem induction {motive : Value → Prop} (null : motive null) (scalar : ∀ s, motive (scalar s))
    (list : ∀ items, (∀ v ∈ items, motive v) → motive (list items))
    (object : ∀ entries, (∀ e ∈ entries, motive e.2) → motive (object entries)) : ∀ v, motive v
  | .null => null
  | .scalar s => scalar s
  | .list items => list items fun v _ => induction null scalar list object v
  | .object entries => object entries fun e _ => induction null scalar list object e.2
termination_by v => v
decreasing_by
  · have hsize := List.sizeOf_lt_of_mem ‹v ∈ items›
    rw [Value.list.sizeOf_spec]
    omega
  · have hsize := List.sizeOf_lt_of_mem ‹e ∈ entries›
    have he : sizeOf e = 1 + sizeOf e.1 + sizeOf e.2 := by cases e; rfl
    rw [Value.object.sizeOf_spec]
    omega

theorem map_eq_self {α : Type} {f : α → α} {as : List α} (h : ∀ a ∈ as, f a = a) :
    as.map f = as := (List.map_congr_left h).trans (List.map_id as)

theorem keys_ofMembers (members : List (Text × Json)) :
    Entries.keys (ofMembers members) = Entries.keys members := by
  rw [ofMembers_eq_map, Entries.keys, List.map_map]
  rfl

theorem keys_toMembers (entries : List (Text × Value)) :
    Entries.keys (toMembers entries) = Entries.keys entries := by
  rw [toMembers_eq_map, Entries.keys, List.map_map]
  rfl

/-! ## From documents to values and back -/

/-- The value of a distinct document is distinct, by its constructors. -/
theorem distinct_ofJson {d : Json} (h : d.Distinct) : (ofJson d).Distinct := by
  induction h with
  | null => exact .null
  | scalar s => exact .scalar s
  | array hitems ih =>
    rw [ofJson, ofItems_eq_map]
    refine .list ?_
    intro v hv
    obtain ⟨d, hd, rfl⟩ := List.mem_map.mp hv
    exact ih d hd
  | @object members hkeys hmembers ih =>
    have hkeys' : (Entries.keys (ofMembers members)).Nodup := by
      rw [keys_ofMembers]
      exact hkeys
    refine .object hkeys' ?_
    intro e he
    rw [ofMembers_eq_map] at he
    obtain ⟨m, hm, rfl⟩ := List.mem_map.mp he
    exact ih m hm

/-- A document is known by its value. -/
theorem toJson_ofJson {d : Json} (h : d.Distinct) : (ofJson d).toJson = d := by
  induction h with
  | null => rfl
  | scalar s => rfl
  | @array items hitems ih =>
    have hback : toItems (ofItems items) = items := by
      rw [toItems_eq_map, ofItems_eq_map, List.map_map]
      exact map_eq_self ih
    rw [ofJson, toJson, hback]
  | @object members hkeys hmembers ih =>
    have hback : toMembers (ofMembers members) = members := by
      rw [toMembers_eq_map, ofMembers_eq_map, List.map_map]
      exact map_eq_self fun m hm => congrArg (Prod.mk m.1) (ih m hm)
    rw [ofJson, toJson, hback, Entries.ofList_of_nodup hkeys]

end Value

/-! ## Paths -/

/-- The item of a list at an index, which counts from the end if it is negative. -/
def itemAt? {α : Type} (items : List α) (index : Int) : Option α :=
  if 0 ≤ index then items[index.toNat]? else items.reverse[(-index - 1).toNat]?

theorem itemAt?_map {α β : Type} (f : α → β) (items : List α) (index : Int) :
    itemAt? (items.map f) index = (itemAt? items index).map f := by
  unfold itemAt?
  split
  · exact List.getElem?_map
  · rw [← List.map_reverse]
    exact List.getElem?_map

theorem mem_of_itemAt? {α : Type} {items : List α} {index : Int} {a : α}
    (h : itemAt? items index = some a) : a ∈ items := by
  unfold itemAt? at h
  split at h
  · exact List.mem_of_getElem? h
  · exact List.mem_reverse.mp (List.mem_of_getElem? h)

/-- Counting from the end comes to a place that is counted from the beginning, or to none. -/
theorem itemAt?_of_neg {α : Type} {items : List α} {index : Int} (h : index < 0) :
    itemAt? items index =
      if index + items.length < 0 then none else items[(index + items.length).toNat]? := by
  unfold itemAt?
  rw [if_neg (by omega)]
  split
  · rw [List.getElem?_eq_none]
    rw [List.length_reverse]
    omega
  · have hlt : (-index - 1).toNat < items.length := by omega
    have hplace : items.length - 1 - (-index - 1).toNat = (index + items.length).toNat := by omega
    rw [List.getElem?_reverse hlt, hplace]

namespace Json

/-- The item of an array at an index, which must not be too large. -/
def nth? (items : List Json) (index : Int) : Option Json :=
  if index < -Value.indexBound ∨ Value.indexBound ≤ index then none else itemAt? items index

/-- What is asked of a document by a key of an object or an index of an array, if it is there. The
truth values are the indexes 1 and 0. -/
inductive Asks : Json → Json → Option Json → Prop where
  | key (members : List (Text × Json)) (k : Text) :
    Asks (.object members) (.scalar (.str k)) (Entries.get? k members)
  | index (items : List Json) (n : Int) : Asks (.array items) (.scalar (.int n)) (nth? items n)
  | truth (items : List Json) (b : Bool) :
    Asks (.array items) (.scalar (.bool b)) (nth? items b.toInt)

/-- That a path of keys and indexes leads from a document to a part of it. -/
inductive Leads : Json → List Json → Json → Prop where
  | here (d : Json) : Leads d [] d
  | step {d key inner part : Json} {path : List Json} (hkey : d.Asks key (some inner))
    (hpath : Leads inner path part) : Leads d (key :: path) part

theorem mem_of_nth? {items : List Json} {index : Int} {d : Json} (h : nth? items index = some d) :
    d ∈ items := by
  unfold nth? at h
  split at h
  · cases h
  · exact mem_of_itemAt? h

theorem Asks.distinct {d key inner : Json} (h : d.Asks key (some inner)) (hd : d.Distinct) :
    inner.Distinct := by
  generalize hsome : some inner = found at h
  cases h with
  | key members k => exact hd.of_mem_object (Entries.mem_of_get? hsome.symm)
  | index items n => exact hd.of_mem_array (mem_of_nth? hsome.symm)
  | truth items b => exact hd.of_mem_array (mem_of_nth? hsome.symm)

theorem Leads.distinct {d part : Json} {path : List Json} (h : d.Leads path part)
    (hd : d.Distinct) : part.Distinct := by
  induction h with
  | here d => exact hd
  | step hkey _ ih => exact ih (hkey.distinct hd)

end Json

/-- That something asked for is not there. -/
inductive AccessError.Absent : AccessError → Prop where
  | missingKey (key : Text) : Absent (.missingKey key)
  | indexOutOfRange : Absent .indexOutOfRange
  | indexTooLarge : Absent .indexTooLarge

namespace Value

/-- Following a path goes on from where its first part leads to. -/
theorem follow_append (v : Value) (path behind : List Json) :
    v.follow (path ++ behind) = (v.follow path).bind fun w => w.follow behind := by
  induction path generalizing v with
  | nil => rfl
  | cons key path ih =>
    rw [List.cons_append, follow, follow]
    cases v.item key with
    | error e => rfl
    | ok w => exact ih w

theorem nth_of_beyond {items : List Value} {index : Int}
    (h : index < -indexBound ∨ indexBound ≤ index) : nth items index = .error .indexTooLarge := by
  unfold nth
  rw [if_pos (by simpa using h)]

/-- Within the bounds an index finds its item, or is out of range. -/
theorem nth_of_within {items : List Value} {index : Int}
    (h : ¬(index < -indexBound ∨ indexBound ≤ index)) :
    nth items index = (itemAt? items index).elim (.error .indexOutOfRange) .ok := by
  unfold nth
  rw [if_neg (by simpa using h)]
  by_cases hneg : index < 0
  · rw [itemAt?_of_neg hneg]
    simp only [hneg, if_true]
    split
    · rfl
    · cases items[(index + items.length).toNat]? with
      | none => rfl
      | some v => rfl
  · have hpos : 0 ≤ index := by omega
    rw [itemAt?, if_pos hpos]
    simp only [hneg, if_false]
    cases items[index.toNat]? with
    | none => rfl
    | some v => rfl

/-- An array and the list of its values have an item at the same indexes. -/
theorem nth_ofItems (items : List Json) (index : Int) :
    (∃ d, Json.nth? items index = some d ∧ nth (ofItems items) index = .ok (ofJson d)) ∨
      ∃ e, Json.nth? items index = none ∧ nth (ofItems items) index = .error e ∧ e.Absent := by
  unfold Json.nth?
  by_cases hbound : index < -indexBound ∨ indexBound ≤ index
  · rw [if_pos hbound, nth_of_beyond hbound]
    exact .inr ⟨_, rfl, rfl, .indexTooLarge⟩
  · rw [if_neg hbound, nth_of_within hbound, ofItems_eq_map, itemAt?_map]
    cases itemAt? items index with
    | none => exact .inr ⟨_, rfl, rfl, .indexOutOfRange⟩
    | some d => exact .inl ⟨d, rfl, rfl⟩

/-- A key or index gives the value of what it gives in the document, and nothing where that gives
nothing. -/
theorem item_ofJson {d key : Json} {found : Option Json} (h : d.Asks key found) :
    (∃ inner, found = some inner ∧ (ofJson d).item key = .ok (ofJson inner)) ∨
      ∃ e, found = none ∧ (ofJson d).item key = .error e ∧ e.Absent := by
  cases h with
  | key members k =>
    have hentry : Entries.get? k (ofMembers members) = (Entries.get? k members).map ofJson := by
      rw [ofMembers_eq_map, Entries.get?_map]
    rw [ofJson, item, hentry]
    cases Entries.get? k members with
    | none => exact .inr ⟨_, rfl, rfl, .missingKey k⟩
    | some inner => exact .inl ⟨inner, rfl, rfl⟩
  | index items n => exact nth_ofItems items n
  | truth items b =>
    have hindex : (if b then 1 else 0 : Int) = b.toInt := by cases b <;> rfl
    rw [ofJson, item, hindex]
    exact nth_ofItems items b.toInt

/-- What can be asked of a value can be asked of the document. -/
theorem exists_asks_of_item {d key : Json} {v : Value} (h : (ofJson d).item key = .ok v) :
    ∃ found, d.Asks key found := by
  cases d with
  | null => cases key <;> cases h
  | scalar s => cases key <;> cases h
  | array items =>
    cases key with
    | scalar s =>
      cases s with
      | int n => exact ⟨_, .index items n⟩
      | bool b => exact ⟨_, .truth items b⟩
      | float x => cases h
      | str k => cases h
    | null => cases h
    | array _ => cases h
    | object _ => cases h
  | object members =>
    cases key with
    | scalar s =>
      cases s with
      | str k => exact ⟨_, .key members k⟩
      | int n => cases h
      | bool b => cases h
      | float x => cases h
    | null => cases h
    | array _ => cases h
    | object _ => cases h

/-- A path leads to a value if and only if it leads to a part of the document, of which that is the
value. -/
theorem follow_ofJson_eq_ok_iff {d : Json} {path : List Json} {v : Value} :
    (ofJson d).follow path = .ok v ↔ ∃ part, d.Leads path part ∧ ofJson part = v := by
  constructor
  · intro h
    -- The step is in the path already, so it is enough to know that the document has it too.
    induction path generalizing d with
    | nil =>
      cases h
      exact ⟨d, .here d, rfl⟩
    | cons key path ih =>
      rw [follow] at h
      cases hitem : (ofJson d).item key with
      | error e =>
        rw [hitem] at h
        cases h
      | ok w =>
        obtain ⟨found, hasks⟩ := exists_asks_of_item hitem
        rcases item_ofJson hasks with ⟨inner, rfl, hinner⟩ | ⟨e, -, he, -⟩
        · rw [hinner] at h
          obtain ⟨part, hpart, hv⟩ := ih h
          exact ⟨part, .step hasks hpart, hv⟩
        · rw [hitem] at he
          cases he
  · rintro ⟨part, hleads, rfl⟩
    induction hleads with
    | here d => rfl
    | step hkey _ ih =>
      rcases item_ofJson hkey with ⟨inner, hsome, hinner⟩ | ⟨e, hnone, -, -⟩
      · cases hsome
        rw [follow, hinner]
        exact ih
      · cases hnone

/-- Where a path comes to a key or index that is not there, it breaks off with this step. -/
theorem follow_ofJson_eq_error {d part key : Json} {before : List Json} (hd : d.Leads before part)
    (hkey : part.Asks key none) : ∃ e, e.Absent ∧ (ofJson part).item key = .error e ∧
      ∀ behind, (ofJson d).follow (before ++ key :: behind) = .error e := by
  rcases item_ofJson hkey with ⟨inner, hsome, -⟩ | ⟨e, -, he, habsent⟩
  · cases hsome
  · refine ⟨e, habsent, he, ?_⟩
    intro behind
    rw [follow_append, follow_ofJson_eq_ok_iff.mpr ⟨part, hd, rfl⟩]
    change (ofJson part).follow (key :: behind) = .error e
    rw [follow, he]
    rfl

/-! ## From values to documents and back -/

/-- The document of a value repeats no key, since repeated ones are merged. -/
theorem distinct_toJson (v : Value) : v.toJson.Distinct := by
  induction v with
  | null => exact .null
  | scalar s => exact .scalar s
  | list items ih =>
    rw [toJson, toItems_eq_map]
    refine .array ?_
    intro d hd
    obtain ⟨v, hv, rfl⟩ := List.mem_map.mp hd
    exact ih v hv
  | object entries ih =>
    rw [toJson]
    refine .object Entries.nodup_keys_ofList ?_
    intro m hm
    rcases Entries.mem_putAll hm with hm | hm
    · cases hm
    · rw [toMembers_eq_map] at hm
      obtain ⟨e, he, rfl⟩ := List.mem_map.mp hm
      exact ih e he

/-- That a value is another one whose objects have their repeated keys merged: every key stands
where it first comes, with its last value. -/
inductive Merges : Value → Value → Prop where
  | null : Merges null null
  | scalar (s : Scalar) : Merges (scalar s) (scalar s)
  | list {items merged : List Value} (hitems : List.Forall₂ Merges items merged) :
    Merges (list items) (list merged)
  | object {entries merged : List (Text × Value)}
    (hkeys : Entries.keys merged = (Entries.keys entries).eraseDups)
    (hvalues : ∀ key v w, Entries.get? key entries.reverse = some v →
      Entries.get? key merged = some w → Merges v w) :
    Merges (object entries) (object merged)

theorem keys_ofJson_toJson (entries : List (Text × Value)) :
    Entries.keys (ofMembers (Entries.ofList (toMembers entries))) =
      (Entries.keys entries).eraseDups := by
  rw [keys_ofMembers, Entries.keys_ofList, keys_toMembers]
  congr 1
  exact lawful_beq_subsingleton _ _

theorem get?_ofJson_toJson (entries : List (Text × Value)) (key : Text) :
    Entries.get? key (ofMembers (Entries.ofList (toMembers entries))) =
      (Entries.get? key entries.reverse).map fun v => ofJson v.toJson := by
  rw [ofMembers_eq_map, Entries.get?_map, Entries.get?_ofList, toMembers_eq_map,
    ← List.map_reverse, Entries.get?_map, Option.map_map]
  rfl

/-- Going to a document and back merges repeated keys, and does nothing else. -/
theorem merges_toJson (v : Value) : v.Merges (ofJson v.toJson) := by
  induction v with
  | null => exact .null
  | scalar s => exact .scalar s
  | list items ih =>
    rw [toJson, ofJson, toItems_eq_map, ofItems_eq_map, List.map_map]
    refine .list ?_
    rw [List.forall₂_map_right_iff, List.forall₂_same]
    exact ih
  | object entries ih =>
    rw [toJson, ofJson]
    refine .object (keys_ofJson_toJson entries) ?_
    intro key v w hv hw
    rw [get?_ofJson_toJson, hv] at hw
    cases hw
    exact ih (key, v) (List.mem_reverse.mp (Entries.mem_of_get? hv))

/-- There is one way only to merge. -/
theorem Merges.eq_ofJson {v w : Value} (h : v.Merges w) : w = ofJson v.toJson := by
  induction v generalizing w with
  | null =>
    cases h
    rfl
  | scalar s =>
    cases h
    rfl
  | list items ih =>
    cases h with
    | list hitems =>
      rw [toJson, ofJson, toItems_eq_map, ofItems_eq_map, List.map_map]
      exact congrArg Value.list (eq_map_of_forall₂ hitems fun v hv w hw => ih v hv hw)
  | object entries ih =>
    cases h with
    | @object _ merged hkeys hvalues =>
      have hback := keys_ofJson_toJson entries
      have hn : (Entries.keys merged).Nodup := by
        rw [hkeys, ← hback, keys_ofMembers]
        exact Entries.nodup_keys_ofList
      -- Both have the same keys, and under each key values that are merged of the same one.
      rw [toJson, ofJson]
      refine congrArg Value.object (Entries.ext_of_get? (hkeys.trans hback.symm) hn ?_)
      intro key
      rw [get?_ofJson_toJson]
      have hiff : key ∈ Entries.keys merged ↔ key ∈ Entries.keys entries.reverse := by
        rw [hkeys, List.mem_eraseDups, Entries.keys, Entries.keys, List.map_reverse,
          List.mem_reverse]
      by_cases hkey : key ∈ Entries.keys entries.reverse
      · obtain ⟨v, hv⟩ := Entries.exists_get? hkey
        obtain ⟨w, hw⟩ := Entries.exists_get? (hiff.mpr hkey)
        have hmem : (key, v) ∈ entries := List.mem_reverse.mp (Entries.mem_of_get? hv)
        rw [hv, hw, ih (key, v) hmem (hvalues key v w hv hw)]
        rfl
      · rw [Entries.get?_eq_none hkey, Entries.get?_eq_none (fun h => hkey (hiff.mp h))]
        rfl

/-- A value stays as it is if and only if it has nothing to merge. -/
theorem ofJson_toJson_eq_iff {v : Value} : ofJson v.toJson = v ↔ v.Distinct := by
  constructor
  · intro h
    rw [← h]
    exact distinct_ofJson (distinct_toJson v)
  · intro h
    induction h with
    | null => rfl
    | scalar s => rfl
    | @list items hitems ih =>
      have hback : ofItems (toItems items) = items := by
        rw [toItems_eq_map, ofItems_eq_map, List.map_map]
        exact map_eq_self ih
      rw [toJson, ofJson, hback]
    | @object entries hkeys hentries ih =>
      have hback : ofMembers (toMembers entries) = entries := by
        rw [toMembers_eq_map, ofMembers_eq_map, List.map_map]
        exact map_eq_self fun e he => congrArg (Prod.mk e.1) (ih e he)
      have hkeys' : (Entries.keys (toMembers entries)).Nodup := by
        rw [keys_toMembers]
        exact hkeys
      rw [toJson, ofJson, Entries.ofList_of_nodup hkeys', hback]

/-- A document that repeats no key and its value are images of each other, as a whole and along
every path, and a value is the image of its document up to the keys that it repeats. -/
theorem image_faithful {d : Json} (hd : d.Distinct) (v : Value) :
    ((Datum.ofJson d).toValue = .ok (ofJson d) ∧ (ofJson d).toJson = d ∧ (ofJson d).Distinct) ∧
    (∀ path w, (ofJson d).follow path = .ok w ↔
      ∃ part, d.Leads path part ∧ part = w.toJson ∧ w = ofJson part) ∧
    (∀ before key part, d.Leads before part → part.Asks key none →
      ∃ e, e.Absent ∧ (ofJson part).item key = .error e ∧
        ∀ behind, (ofJson d).follow (before ++ key :: behind) = .error e) ∧
    (∀ w, v.Merges w ↔ w = ofJson v.toJson) ∧ (ofJson v.toJson = v ↔ v.Distinct) := by
  refine ⟨⟨Datum.toValue_ofJson d, toJson_ofJson hd, distinct_ofJson hd⟩, ?_, ?_, ?_, ?_⟩
  · intro path w
    rw [follow_ofJson_eq_ok_iff]
    constructor
    · rintro ⟨part, hleads, rfl⟩
      exact ⟨part, hleads, (toJson_ofJson (hleads.distinct hd)).symm, rfl⟩
    · rintro ⟨part, hleads, -, rfl⟩
      exact ⟨part, hleads, rfl⟩
  · intro before key part hleads hkey
    exact follow_ofJson_eq_error hleads hkey
  · intro w
    constructor
    · exact Merges.eq_ofJson
    · rintro rfl
      exact merges_toJson v
  · exact ofJson_toJson_eq_iff

/-- A document with a truth value and a number beside it, one level down. -/
def nestedDocument : Json :=
  .object [("b", .array [.scalar (.bool true), .scalar (.int 1)]), ("a", .null)]

/-- A value whose object repeats the key of its first entry. -/
def repeatingValue : Value := .object [("b", .null), ("a", .null), ("b", .scalar (.int 1))]

theorem nestedDocument_distinct : nestedDocument.Distinct := by
  refine .object (by decide) ?_
  intro m hm
  rcases List.mem_pair.mp hm with rfl | rfl
  · refine .array ?_
    intro d hd
    rcases List.mem_pair.mp hd with rfl | rfl
    · exact .scalar _
    · exact .scalar _
  · exact .null

theorem image_faithful_nested :
    nestedDocument.Distinct ∧ (ofJson nestedDocument).toJson = nestedDocument ∧
      (∃ part, nestedDocument.Leads [.scalar (.str "b"), .scalar (.int (-2))] part ∧
        part = (Value.scalar (.bool true)).toJson) ∧
      ¬repeatingValue.Distinct := by
  have h := image_faithful nestedDocument_distinct repeatingValue
  obtain ⟨part, hleads, hpart, -⟩ :=
    (h.2.1 [.scalar (.str "b"), .scalar (.int (-2))] (.scalar (.bool true))).mp rfl
  refine ⟨nestedDocument_distinct, h.1.2.1, ⟨part, hleads, hpart⟩, ?_⟩
  rw [← h.2.2.2.2]
  intro heq
  have hkeys := congrArg Value.keys heq
  revert hkeys
  decide

end Value

end GraphBind
