namespace Tracepoint

abbrev Entries (α : Type) := List (String × α)

namespace Entries

variable {α : Type}

def get? (key : String) : Entries α → Option α
  | [] => none
  | (k, v) :: es => if k = key then some v else get? key es

def put (key : String) (value : α) : Entries α → Entries α
  | [] => [(key, value)]
  | (k, v) :: es => if k = key then (k, value) :: es else (k, v) :: put key value es

/-- Puts the entries of `new` one after the other. -/
def update (old new : Entries α) : Entries α := new.foldl (fun es e => put e.1 e.2 es) old

def erase (key : String) (es : Entries α) : Entries α := es.filter (·.1 != key)

def keys (es : Entries α) : List String := es.map (·.1)

theorem get?_put_self (key : String) (value : α) (es : Entries α) :
    get? key (put key value es) = some value := by
  induction es with
  | nil => simp [put, get?]
  | cons e es ih =>
    obtain ⟨k, v⟩ := e
    by_cases h : k = key <;> simp [put, get?, h, ih]

theorem get?_put_of_ne {key other : String} (value : α) (es : Entries α) (h : key ≠ other) :
    get? other (put key value es) = get? other es := by
  induction es with
  | nil => simp [put, get?, h]
  | cons e es ih =>
    obtain ⟨k, v⟩ := e
    by_cases hk : k = key
    · subst hk
      simp [put, get?, h]
    · simp [put, get?, hk, ih]

theorem keys_put (key : String) (value : α) (es : Entries α) :
    keys (put key value es) = if key ∈ keys es then keys es else keys es ++ [key] := by
  induction es with
  | nil => simp [put, keys]
  | cons e es ih =>
    obtain ⟨k, v⟩ := e
    by_cases hk : k = key
    · simp [put, keys, hk]
    · have hk' : key ≠ k := fun e => hk e.symm
      have ih' : (put key value es).map (·.1) = if key ∈ es.map (·.1) then es.map (·.1)
          else es.map (·.1) ++ [key] := ih
      simp only [put, hk, if_false, keys, List.map_cons, ih', List.mem_cons, hk', false_or]
      split <;> simp

end Entries

end Tracepoint
