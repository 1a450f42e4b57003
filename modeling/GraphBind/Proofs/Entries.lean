import GraphBind.Entries

/-!
# Look-ups in ordered entries

`get?` answers for exactly the keys of a list (`exists_get?`), with an entry of the list
(`mem_of_get?`); where no key is repeated, with the only entry that there is (`get?_of_mem`), so
that the order of the entries does not matter (`get?_perm`). An entry that is inserted is found
under its own key only (`get?_insert_self`, `get?_insert_ne`). Entries without repeated keys are
known by their keys and what is found under each (`ext_of_get?`).

Writing entries leaves nothing behind but what was there and what was written (`mem_putAll`): the
keys in the order in which they first come (`keys_ofList`), each with the last value that was
written (`get?_ofList`). Where no key is repeated, all stay as they are (`ofList_of_nodup`).
-/

namespace GraphBind.Entries

variable {κ α : Type} [DecidableEq κ] {es new : List (κ × α)} {e : κ × α} {k : κ} {a : α}

/-! ## Reading -/

/-- What is found under a key is an entry. -/
theorem mem_of_get? (h : get? k es = some a) : (k, a) ∈ es := by
  induction es with
  | nil => cases h
  | cons e es ih =>
    obtain ⟨k', b⟩ := e
    unfold get? at h
    split at h
    · next hk =>
      subst hk
      cases h
      exact List.mem_cons_self
    · exact List.mem_cons_of_mem _ (ih h)

theorem exists_get? (h : k ∈ keys es) : ∃ a, get? k es = some a := by
  induction es with
  | nil => cases h
  | cons e es ih =>
    obtain ⟨k', b⟩ := e
    by_cases hk : k' = k
    · exact ⟨b, by rw [get?, if_pos hk]⟩
    · rw [get?, if_neg hk]
      rcases List.mem_cons.mp h with h | h
      · exact absurd h.symm hk
      · exact ih h

/-- Where no key comes twice, every entry is found under its key. -/
theorem get?_of_mem (hn : (keys es).Nodup) (h : (k, a) ∈ es) : get? k es = some a := by
  induction es with
  | nil => cases h
  | cons e es ih =>
    obtain ⟨k', b⟩ := e
    obtain ⟨hfresh, hn⟩ := List.nodup_cons.mp hn
    rcases List.mem_cons.mp h with h | h
    · cases h
      rw [get?, if_pos rfl]
    · have hk : k' ≠ k := by
        rintro rfl
        exact hfresh (List.mem_map.mpr ⟨(k', a), h, rfl⟩)
      rw [get?, if_neg hk]
      exact ih hn h

/-- Where no key is repeated, entries in another order answer alike. -/
theorem get?_perm {es' : List (κ × α)} (hp : es.Perm es') (hn : (keys es).Nodup) (k : κ) :
    get? k es = get? k es' := by
  have hn' : (keys es').Nodup := (hp.map Prod.fst).nodup_iff.mp hn
  cases h : get? k es with
  | some a => exact (get?_of_mem hn' (hp.subset (mem_of_get? h))).symm
  | none =>
    cases h' : get? k es' with
    | none => rfl
    | some a =>
      rw [get?_of_mem hn (hp.symm.subset (mem_of_get? h'))] at h
      cases h

/-- The entries in front come first. -/
theorem get?_append (es es' : List (κ × α)) (k : κ) :
    get? k (es ++ es') = (get? k es).or (get? k es') := by
  induction es with
  | nil => rfl
  | cons e es ih =>
    obtain ⟨k', b⟩ := e
    by_cases hk : k' = k
    · simp [get?, hk]
    · simp [get?, hk, ih]

theorem get?_eq_none (h : k ∉ keys es) : get? k es = none := by
  cases hk : get? k es with
  | none => rfl
  | some a => exact absurd (List.mem_map_of_mem (mem_of_get? hk)) h

/-- An entry with another key may stand anywhere. -/
theorem get?_insert_ne {k' : κ} (before after : List (κ × α)) (a : α) (h : k' ≠ k) :
    get? k (before ++ (k', a) :: after) = get? k (before ++ after) := by
  rw [get?_append, get?_append, get?, if_neg h]

theorem get?_insert_self {before : List (κ × α)} (after : List (κ × α)) (a : α)
    (h : k ∉ keys before) : get? k (before ++ (k, a) :: after) = some a := by
  rw [get?_append, get?_eq_none h, get?, if_pos rfl]
  rfl

/-- What is found is the value of the first entry with the key. -/
theorem get?_eq_some_iff : get? k es = some a ↔
    ∃ before after, es = before ++ (k, a) :: after ∧ k ∉ keys before := by
  constructor
  · intro h
    induction es with
    | nil => cases h
    | cons e es ih =>
      obtain ⟨k', b⟩ := e
      by_cases hk : k' = k
      · rw [get?, if_pos hk] at h
        cases h
        exact ⟨[], es, by rw [hk, List.nil_append], List.not_mem_nil⟩
      · rw [get?, if_neg hk] at h
        obtain ⟨before, after, rfl, hbefore⟩ := ih h
        refine ⟨(k', b) :: before, after, rfl, fun hmem => ?_⟩
        rcases List.mem_cons.mp hmem with hmem | hmem
        · exact hk hmem.symm
        · exact hbefore hmem
  · rintro ⟨before, after, rfl, hbefore⟩
    exact get?_insert_self after a hbefore

/-- Replacing the value of an entry changes what is found from the one value to the other, if it
changes that at all. -/
theorem get?_replace (before after : List (κ × α)) (k' : κ) (a a' : α) :
    get? k (before ++ (k', a) :: after) = get? k (before ++ (k', a') :: after) ∨
      k' = k ∧ get? k (before ++ (k', a) :: after) = some a ∧
        get? k (before ++ (k', a') :: after) = some a' := by
  by_cases hk : k' = k
  · subst hk
    rw [get?_append, get?_append, get?, get?, if_pos rfl, if_pos rfl]
    cases get? k' before with
    | none => exact .inr ⟨rfl, rfl, rfl⟩
    | some b => exact .inl rfl
  · rw [get?_insert_ne before after a hk, get?_insert_ne before after a' hk]
    exact .inl rfl

/-- Changing the values leaves the keys in their places. -/
theorem get?_mapWithKey {β : Type} (f : κ → α → β) (es : List (κ × α)) (k : κ) :
    get? k (es.map fun e => (e.1, f e.1 e.2)) = (get? k es).map (f k) := by
  induction es with
  | nil => rfl
  | cons e es ih =>
    obtain ⟨k', b⟩ := e
    by_cases hk : k' = k
    · simp [get?, hk]
    · simp [get?, hk, ih]

theorem get?_map {β : Type} (f : α → β) (es : List (κ × α)) (k : κ) :
    get? k (es.map fun e => (e.1, f e.2)) = (get? k es).map f :=
  get?_mapWithKey (fun _ => f) es k

/-- A choice among the keys takes the others out, and no more. -/
theorem get?_filter {p : κ → Bool} (h : p k = true) (es : List (κ × α)) :
    get? k (es.filter fun e => p e.1) = get? k es := by
  induction es with
  | nil => rfl
  | cons e es ih =>
    obtain ⟨k', b⟩ := e
    by_cases hk : k' = k
    · subst hk
      simp [get?, h]
    · by_cases hp : p k' = true
      · simp [get?, hp, hk, ih]
      · simp [get?, hp, hk, ih]

/-- Entries without repeated keys are known by their keys and what is found under each. -/
theorem ext_of_get? {es' : List (κ × α)} (hkeys : keys es = keys es') (hn : (keys es).Nodup)
    (h : ∀ k, get? k es = get? k es') : es = es' := by
  induction es generalizing es' with
  | nil => exact (List.map_eq_nil_iff.mp hkeys.symm).symm
  | cons e es ih =>
    obtain ⟨k, a⟩ := e
    cases es' with
    | nil => cases hkeys
    | cons e' es' =>
      obtain ⟨k', a'⟩ := e'
      have hcons : k :: keys es = k' :: keys es' := hkeys
      obtain ⟨rfl, hbehind⟩ := List.cons.inj hcons
      obtain ⟨hfresh, hn⟩ := List.nodup_cons.mp hn
      have ha : a = a' := by simpa [get?] using h k
      have hrest : ∀ k', get? k' es = get? k' es' := by
        intro k'
        by_cases hk : k = k'
        · have hfresh' : k ∉ keys es' := hbehind ▸ hfresh
          rw [← hk, get?_eq_none hfresh, get?_eq_none hfresh']
        · simpa [get?, hk] using h k'
      rw [ha, ih hbehind hn hrest]

/-! ## Writing -/

/-- An entry with a new key is put behind all others. -/
theorem put_of_notMem (h : k ∉ keys es) (a : α) : put k a es = es ++ [(k, a)] := by
  induction es with
  | nil => rfl
  | cons e es ih =>
    obtain ⟨k', b⟩ := e
    have hne : k' ≠ k := by
      rintro rfl
      exact h List.mem_cons_self
    have hes : k ∉ keys es := fun hk => h (List.mem_cons_of_mem _ hk)
    rw [put, if_neg hne, ih hes, List.cons_append]

theorem mem_put (h : e ∈ put k a es) : e = (k, a) ∨ e ∈ es := by
  induction es with
  | nil => exact Or.inl (List.mem_singleton.mp h)
  | cons e' es ih =>
    obtain ⟨k', b⟩ := e'
    unfold put at h
    split at h
    · next hk =>
      subst hk
      rcases List.mem_cons.mp h with h | h
      · exact Or.inl h
      · exact Or.inr (List.mem_cons_of_mem _ h)
    · rcases List.mem_cons.mp h with h | h
      · exact Or.inr (h ▸ List.mem_cons_self)
      · rcases ih h with h | h
        · exact Or.inl h
        · exact Or.inr (List.mem_cons_of_mem _ h)

theorem mem_putAll (h : e ∈ putAll es new) : e ∈ es ∨ e ∈ new := by
  induction new generalizing es with
  | nil => exact Or.inl h
  | cons w new ih =>
    rcases ih h with h | h
    · rcases mem_put h with h | h
      · exact Or.inr (h ▸ List.mem_cons_self)
      · exact Or.inl h
    · exact Or.inr (List.mem_cons_of_mem _ h)

/-- Putting an entry repeats no key. -/
theorem nodup_keys_put (hn : (keys es).Nodup) : (keys (put k a es)).Nodup := by
  rw [keys_put]
  split
  · exact hn
  · next hk =>
    rw [List.nodup_append]
    refine ⟨hn, List.pairwise_singleton .., fun x hx y hy => ?_⟩
    rw [List.mem_singleton.mp hy]
    rintro rfl
    exact hk hx

theorem nodup_keys_putAll (hn : (keys es).Nodup) : (keys (putAll es new)).Nodup := by
  induction new generalizing es with
  | nil => exact hn
  | cons e new ih => exact ih (nodup_keys_put hn)

theorem nodup_keys_ofList : (keys (ofList new)).Nodup := nodup_keys_putAll List.nodup_nil

/-- What is written behind the keys that are there are the other ones, where they first come. -/
theorem keys_putAll : keys (putAll es new) =
    keys es ++ ((keys new).filter fun k => !decide (k ∈ keys es)).eraseDups := by
  induction new generalizing es with
  | nil => simp [putAll, keys]
  | cons e new ih =>
    change keys (putAll (put e.1 e.2 es) new) = keys es ++
      ((e.1 :: keys new).filter fun k => !decide (k ∈ keys es)).eraseDups
    rw [ih, keys_put]
    by_cases hk : e.1 ∈ keys es
    · rw [if_pos hk, List.filter_cons_of_neg (by simpa using hk)]
    · rw [if_neg hk, List.filter_cons_of_pos (by simpa using hk), List.eraseDups_cons,
        List.filter_filter, List.append_assoc, List.singleton_append]
      congr 3
      refine List.filter_congr fun k _ => ?_
      by_cases hke : k = e.1 <;> simp [hke]

theorem keys_ofList : keys (ofList new) = (keys new).eraseDups := by
  rw [ofList, keys_putAll, List.filter_eq_self.mpr (by simp [keys])]
  rfl

theorem mem_keys_putAll : k ∈ keys (putAll es new) ↔ k ∈ keys es ∨ k ∈ keys new := by
  rw [keys_putAll, List.mem_append, List.mem_eraseDups, List.mem_filter]
  by_cases hk : k ∈ keys es <;> simp [hk]

/-- Of entries with one key that are put one after the other, the last one is found. -/
theorem get?_putAll : get? k (putAll es new) = (get? k new.reverse).or (get? k es) := by
  induction new generalizing es with
  | nil => rfl
  | cons e new ih =>
    change get? k (putAll (put e.1 e.2 es) new) = _
    rw [ih, get?_put, List.reverse_cons, get?_append, Option.or_assoc, get?]
    by_cases hk : e.1 = k
    · rw [if_pos hk, if_pos hk]
      rfl
    · rw [if_neg hk, if_neg hk]
      rfl

/-- Entries with new keys are put behind the others, in order. -/
theorem putAll_of_nodup (hn : (keys es ++ keys new).Nodup) : putAll es new = es ++ new := by
  induction new generalizing es with
  | nil => exact (List.append_nil es).symm
  | cons e new ih =>
    obtain ⟨k, a⟩ := e
    have hfresh : k ∉ keys es := by
      intro hk
      exact (List.nodup_append.mp hn).2.2 k hk k List.mem_cons_self rfl
    have hn' : (keys (es ++ [(k, a)]) ++ keys new).Nodup := by
      simpa [keys, List.append_assoc] using hn
    change putAll (put k a es) new = es ++ (k, a) :: new
    rw [put_of_notMem hfresh, ih hn', List.append_assoc]
    rfl

/-- Entries without repeated keys stay as they are. -/
theorem ofList_of_nodup (hn : (keys es).Nodup) : ofList es = es := putAll_of_nodup hn

theorem get?_ofList : get? k (ofList new) = get? k new.reverse := by
  rw [ofList, get?_putAll, get?, Option.or_none]

end GraphBind.Entries
