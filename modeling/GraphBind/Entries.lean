/-!
# Ordered entries

A list of pairs in the order in which their keys first came. Writing a key that is there replaces
its value in place; writing a new key appends it. `keys_put` says so of the keys, `get?_put` of the
values.
-/

namespace GraphBind.Entries

variable {κ α : Type} [DecidableEq κ]

/-- The keys, in order. -/
def keys (es : List (κ × α)) : List κ := es.map (·.1)

/-- The value of the first entry with a key. -/
def get? (k : κ) : List (κ × α) → Option α
  | [] => none
  | (k', a) :: es => if k' = k then some a else get? k es

/-- Writes an entry: in the place of the first entry with its key, or at the end. -/
def put (k : κ) (a : α) : List (κ × α) → List (κ × α)
  | [] => [(k, a)]
  | (k', b) :: es => if k' = k then (k', a) :: es else (k', b) :: put k a es

/-- Writes several entries, the later ones over the earlier ones. -/
def putAll (es : List (κ × α)) (new : List (κ × α)) : List (κ × α) :=
  new.foldl (fun acc e => put e.1 e.2 acc) es

/-- The entries of a list that may repeat keys: the last value, at the place of the first. -/
def ofList (new : List (κ × α)) : List (κ × α) := putAll [] new

theorem get?_put (es : List (κ × α)) (k k' : κ) (a : α) :
    get? k' (put k a es) = if k = k' then some a else get? k' es := by
  induction es with
  | nil => simp [put, get?]
  | cons e es ih =>
    obtain ⟨k₀, b⟩ := e
    by_cases h : k₀ = k
    · subst h
      by_cases h' : k₀ = k' <;> simp [put, get?, h']
    · by_cases h' : k₀ = k'
      · subst h'
        simp [put, get?, h, Ne.symm h]
      · simp [put, get?, h, h', ih]

theorem keys_put (es : List (κ × α)) (k : κ) (a : α) :
    keys (put k a es) = if k ∈ keys es then keys es else keys es ++ [k] := by
  induction es with
  | nil => simp [put, keys]
  | cons e es ih =>
    obtain ⟨k₀, b⟩ := e
    by_cases h : k₀ = k
    · simp [put, keys, h]
    · have ih' : List.map (·.1) (put k a es) =
          if k ∈ es.map (·.1) then es.map (·.1) else es.map (·.1) ++ [k] := ih
      simp only [put, keys, h, if_false, List.map_cons, ih', List.mem_cons]
      by_cases hk : k ∈ es.map (·.1)
      · simp [hk]
      · simp [hk, Ne.symm h]

end GraphBind.Entries
