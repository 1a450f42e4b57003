import Mathlib.Data.List.Forall2

/-!
# Checks in sequence

How a sequence of computations that may fail succeeds: each of them does, in turn. The lemmas follow
the shapes that a sequence is written in: one computation behind another, a condition that ends it,
a check that is made in one case only, and one computation for every element of a list.
-/

namespace GraphBind

variable {ε α β : Type}

/-- A sequence of two steps gives a value iff both steps give one. -/
theorem bind_eq_ok_iff {x : Except ε α} {f : α → Except ε β} {b : β} :
    x >>= f = .ok b ↔ ∃ a, x = .ok a ∧ f a = .ok b := by
  cases x with
  | ok a =>
    constructor
    · exact fun h => ⟨a, rfl, h⟩
    · rintro ⟨a', ha, h⟩
      cases ha
      exact h
  | error e =>
    constructor
    · intro h
      cases h
    · rintro ⟨a, ha, -⟩
      cases ha

theorem mapError_eq_ok_iff {δ : Type} {x : Except ε α} {f : ε → δ} {a : α} :
    x.mapError f = .ok a ↔ x = .ok a := by
  cases x with
  | ok a' =>
    constructor
    · intro h
      cases h
      rfl
    · intro h
      cases h
      rfl
  | error e =>
    constructor
    · intro h
      cases h
    · intro h
      cases h

theorem of_guard_eq_ok {p : Prop} [Decidable p] {e : ε} {f : Unit → Except ε β} {b : β}
    (h : (if p then throw e >>= f else f ()) = .ok b) : ¬p ∧ f () = .ok b := by
  split at h
  · cases h
  · next hp => exact ⟨hp, h⟩

/-- A check that is made under a condition only is passed where the condition fails. -/
theorem check_bind_eq_ok_iff {p : Prop} [Decidable p] {check : Except ε Unit}
    {f : Unit → Except ε β} {b : β} :
    (if p then check >>= f else f ()) = .ok b ↔ (p → check = .ok ()) ∧ f () = .ok b := by
  split
  · next hp =>
    rw [bind_eq_ok_iff]
    constructor
    · rintro ⟨_, hcheck, h⟩
      exact ⟨fun _ => hcheck, h⟩
    · rintro ⟨hcheck, h⟩
      exact ⟨(), hcheck hp, h⟩
  · next hp =>
    constructor
    · exact fun h => ⟨fun hp' => absurd hp' hp, h⟩
    · exact fun h => h.2

theorem mapM_map_congr {f : α → Except ε β} {g : α → α} {as : List α}
    (h : ∀ a ∈ as, f (g a) = f a) : (as.map g).mapM f = as.mapM f := by
  induction as with
  | nil => rfl
  | cons a as ih =>
    rw [List.map_cons, List.mapM_cons, List.mapM_cons, h a List.mem_cons_self,
      ih fun b hb => h b (List.mem_cons_of_mem _ hb)]

theorem map_eq_ok_iff {x : Except ε α} {f : α → β} {b : β} :
    x.map f = .ok b ↔ ∃ a, x = .ok a ∧ f a = b := by
  cases x with
  | ok a =>
    constructor
    · intro h
      cases h
      exact ⟨a, rfl, rfl⟩
    · rintro ⟨a', ha, rfl⟩
      cases ha
      rfl
  | error e =>
    constructor
    · intro h
      cases h
    · rintro ⟨a, ha, -⟩
      cases ha

theorem map_eq_error_iff {x : Except ε α} {f : α → β} {e : ε} :
    x.map f = .error e ↔ x = .error e := by
  cases x with
  | ok a => simp [Except.map]
  | error e' => simp [Except.map]

/-- What is made of a result is there if and only if the result is. -/
theorem exists_bind_pure_iff {x : Except ε α} {f : α → β} :
    (∃ b, (x >>= fun a => pure (f a)) = .ok b) ↔ ∃ a, x = .ok a := by
  constructor
  · rintro ⟨b, h⟩
    obtain ⟨a, ha, -⟩ := bind_eq_ok_iff.mp h
    exact ⟨a, ha⟩
  · rintro ⟨a, ha⟩
    exact ⟨f a, bind_eq_ok_iff.mpr ⟨a, ha, rfl⟩⟩

/-- A traversal succeeds iff each of its items does, one value for each. -/
theorem mapM_eq_ok_iff {f : α → Except ε β} {as : List α} {bs : List β} :
    as.mapM f = .ok bs ↔ List.Forall₂ (fun a b => f a = .ok b) as bs := by
  induction as generalizing bs with
  | nil =>
    rw [List.mapM_nil, List.forall₂_nil_left_iff]
    constructor
    · intro h
      cases h
      rfl
    · rintro rfl
      rfl
  | cons a as ih =>
    rw [List.mapM_cons, bind_eq_ok_iff, List.forall₂_cons_left_iff]
    constructor
    · rintro ⟨b, hb, h⟩
      obtain ⟨bs', hbs', h⟩ := bind_eq_ok_iff.mp h
      cases h
      exact ⟨b, bs', hb, ih.mp hbs', rfl⟩
    · rintro ⟨b, bs', hb, hbs', rfl⟩
      exact ⟨b, hb, bind_eq_ok_iff.mpr ⟨bs', ih.mpr hbs', rfl⟩⟩

/-- A traversal taken apart at one of its items. -/
theorem mapM_insert_eq_ok_iff {f : α → Except ε β} {before after : List α} {a : α} {bs : List β} :
    (before ++ a :: after).mapM f = .ok bs ↔ ∃ front b behind, before.mapM f = .ok front ∧
      f a = .ok b ∧ after.mapM f = .ok behind ∧ bs = front ++ b :: behind := by
  rw [List.mapM_append, bind_eq_ok_iff]
  constructor
  · rintro ⟨front, hfront, h⟩
    obtain ⟨_, hinsert, h⟩ := bind_eq_ok_iff.mp h
    cases h
    rw [mapM_eq_ok_iff, List.forall₂_cons_left_iff] at hinsert
    obtain ⟨b, behind, hb, hbehind, rfl⟩ := hinsert
    exact ⟨front, b, behind, hfront, hb, mapM_eq_ok_iff.mpr hbehind, rfl⟩
  · rintro ⟨front, b, behind, hfront, hb, hbehind, rfl⟩
    have hinsert : (a :: after).mapM f = .ok (b :: behind) :=
      mapM_eq_ok_iff.mpr (.cons hb (mapM_eq_ok_iff.mp hbehind))
    exact ⟨front, hfront, bind_eq_ok_iff.mpr ⟨_, hinsert, rfl⟩⟩

/-- Where every result is related to its element, the results are those that are. -/
theorem mapM_eq_ok_of_forall₂ {f : α → Except ε β} {R : α → β → Prop} {p : β → Prop} {as : List α}
    {bs : List β} (hall : List.Forall₂ R as bs) (hp : ∀ b ∈ bs, p b)
    (h : ∀ a b, R a b → p b → f a = .ok b) : as.mapM f = .ok bs := by
  rw [mapM_eq_ok_iff]
  induction hall with
  | nil => exact .nil
  | cons hab _ ih =>
    obtain ⟨hb, hp⟩ := List.forall_mem_cons.mp hp
    exact .cons (h _ _ hab hb) (ih hp)

/-- Where only the image of an element is related to it, related elements are the images. -/
theorem eq_map_of_forall₂ {R : α → β → Prop} {f : α → β} {as : List α} {bs : List β}
    (hall : List.Forall₂ R as bs) (h : ∀ a ∈ as, ∀ b, R a b → b = f a) : bs = as.map f := by
  induction hall with
  | nil => rfl
  | cons hab _ ih =>
    obtain ⟨ha, has⟩ := List.forall_mem_cons.mp h
    rw [List.map_cons, ha _ hab, ih has]

/-- Whether a traversal succeeds is up to each item by itself. -/
theorem exists_mapM_eq_ok_iff {f : α → Except ε β} {as : List α} :
    (∃ bs, as.mapM f = .ok bs) ↔ ∀ a ∈ as, ∃ b, f a = .ok b := by
  induction as with
  | nil => exact ⟨fun _ a ha => absurd ha List.not_mem_nil, fun _ => ⟨[], rfl⟩⟩
  | cons a as ih =>
    rw [List.forall_mem_cons, ← ih]
    constructor
    · rintro ⟨bs, h⟩
      obtain ⟨b, bs', hb, hbs', rfl⟩ := List.forall₂_cons_left_iff.mp (mapM_eq_ok_iff.mp h)
      exact ⟨⟨b, hb⟩, bs', mapM_eq_ok_iff.mpr hbs'⟩
    · rintro ⟨⟨b, hb⟩, bs, hbs⟩
      exact ⟨b :: bs, mapM_eq_ok_iff.mpr (.cons hb (mapM_eq_ok_iff.mp hbs))⟩

theorem exists_of_mem_mapM {f : α → Except ε β} {as : List α} {bs : List β}
    (h : as.mapM f = .ok bs) {b : β} (hb : b ∈ bs) : ∃ a ∈ as, f a = .ok b := by
  rw [mapM_eq_ok_iff] at h
  induction h with
  | nil => cases hb
  | cons ha _ ih =>
    rcases List.mem_cons.mp hb with rfl | hb
    · exact ⟨_, List.mem_cons_self, ha⟩
    · obtain ⟨a, hmem, ha⟩ := ih hb
      exact ⟨a, List.mem_cons_of_mem _ hmem, ha⟩

theorem toOption_eq_some_iff {x : Except ε α} {a : α} : x.toOption = some a ↔ x = .ok a := by
  cases x with
  | error e => simp [Except.toOption]
  | ok b => simp [Except.toOption]

theorem toOption_map (x : Except ε α) (f : α → β) :
    (x.map f).toOption = x.toOption.map f := by
  cases x with
  | error e => rfl
  | ok a => rfl

theorem toOption_bind (x : Except ε α) (f : α → Except ε β) :
    (x >>= f).toOption = x.toOption.bind fun a => (f a).toOption := by
  cases x with
  | error e => rfl
  | ok a => rfl

end GraphBind
