import Mathlib
import Tracepoint.Entries

namespace Tracepoint.Entries

variable {α : Type}

/-- The value that stands last under a key. -/
def last? (key : String) (es : Entries α) : Option α := get? key es.reverse

theorem get?_append (key : String) (xs ys : Entries α) :
    get? key (xs ++ ys) = (get? key xs).or (get? key ys) := by
  induction xs with
  | nil => simp [get?]
  | cons x xs ih =>
    by_cases hx : x.1 = key
    · simp [get?, hx]
    · simp [get?, hx, ih]

theorem last?_append (key : String) (xs ys : Entries α) :
    last? key (xs ++ ys) = (last? key ys).or (last? key xs) := by
  simp [last?, get?_append]

theorem get?_eq_find? (key : String) (es : Entries α) :
    get? key es = (es.find? (·.1 = key)).map (·.2) := by
  induction es with
  | nil => rfl
  | cons e es ih => by_cases he : e.1 = key <;> simp [get?, he, ih]

theorem mem_of_get? {key : String} {value : α} {es : Entries α} (h : get? key es = some value) :
    (key, value) ∈ es := by
  rw [get?_eq_find?, Option.map_eq_some_iff] at h
  obtain ⟨⟨k, v⟩, hfind, rfl⟩ := h
  have hk : k = key := by simpa using List.find?_some hfind
  exact hk ▸ List.mem_of_find?_eq_some hfind

theorem get?_eq_none_iff {key : String} {es : Entries α} : get? key es = none ↔ key ∉ keys es := by
  simp only [get?_eq_find?, keys, Option.map_eq_none_iff, List.find?_eq_none, List.mem_map]
  grind

theorem last?_eq_none_iff {key : String} {es : Entries α} :
    last? key es = none ↔ key ∉ keys es := by
  rw [last?, get?_eq_none_iff]
  simp [keys]

theorem mem_of_last? {key : String} {value : α} {es : Entries α} (h : last? key es = some value) :
    (key, value) ∈ es := List.mem_reverse.mp (mem_of_get? h)

theorem exists_last?_of_mem_keys {key : String} {es : Entries α} (h : key ∈ keys es) :
    ∃ value, last? key es = some value := by
  by_contra hnone
  have hn : last? key es = none := Option.eq_none_iff_forall_ne_some.mpr fun v hv => hnone ⟨v, hv⟩
  exact last?_eq_none_iff.mp hn h

theorem mem_keys_flatten {key : String} {sources : List (Entries α)} :
    key ∈ keys sources.flatten ↔ ∃ source ∈ sources, key ∈ keys source := by
  simp [keys, List.map_flatten]

theorem mem_keys_of_mem {key : String} {value : α} {es : Entries α} (h : (key, value) ∈ es) :
    key ∈ keys es := List.mem_map.mpr ⟨_, h, rfl⟩

theorem get?_update (key : String) (old new : Entries α) :
    get? key (update old new) = (last? key new).or (get? key old) := by
  induction new using List.reverseRecOn with
  | nil => rfl
  | append_singleton new e ih =>
    have hstep : update old (new ++ [e]) = put e.1 e.2 (update old new) := by simp [update]
    rw [hstep, last?_append]
    by_cases he : e.1 = key
    · simp [last?, get?, he, get?_put_self]
    · rw [get?_put_of_ne _ _ he, ih]
      simp [last?, get?, he]

theorem keys_update (es : Entries α) : keys (update [] es) = (keys es).eraseDups := by
  induction es using List.reverseRecOn with
  | nil => rfl
  | append_singleton es e ih =>
    have hstep : update [] (es ++ [e]) = put e.1 e.2 (update [] es) := by simp [update]
    have hkeys : keys (es ++ [e]) = keys es ++ [e.1] := by simp [keys]
    rw [hstep, keys_put, ih, hkeys, List.eraseDups_append]
    by_cases he : e.1 ∈ keys es <;> simp [List.removeAll, List.eraseDups_cons, he]

theorem nodup_keys_put {key : String} {value : α} {es : Entries α} (h : (keys es).Nodup) :
    (keys (put key value es)).Nodup := by
  rw [keys_put]
  split
  case isTrue => exact h
  case isFalse hkey =>
    rw [List.nodup_append]
    refine ⟨h, by simp, fun a ha b hb hab => ?_⟩
    rw [List.mem_singleton.mp hb] at hab
    exact hkey (hab ▸ ha)

theorem nodup_keys_update {old : Entries α} (new : Entries α) (h : (keys old).Nodup) :
    (keys (update old new)).Nodup := by
  induction new generalizing old with
  | nil => exact h
  | cons e new ih => exact ih (nodup_keys_put h)

/-- Under keys that are all different any value is the one that is found. -/
theorem get?_of_mem {key : String} {value : α} {es : Entries α} (h : (keys es).Nodup)
    (hm : (key, value) ∈ es) : get? key es = some value := by
  induction es with
  | nil => simp at hm
  | cons e es ih =>
    obtain ⟨hhead, htail⟩ := List.nodup_cons.mp h
    rcases List.mem_cons.mp hm with rfl | hes
    · simp [get?]
    · have hne : e.1 ≠ key := by
        rintro rfl
        exact hhead (mem_keys_of_mem hes)
      simp [get?, hne, ih htail hes]

theorem get?_filter_keys (p : String → Bool) {key : String} (hp : p key = true) (es : Entries α) :
    get? key (es.filter fun e => p e.1) = get? key es := by
  induction es with
  | nil => rfl
  | cons e es ih =>
    by_cases he : e.1 = key
    · simp [get?, he, hp]
    · by_cases hpe : p e.1 = true <;> simp [get?, he, hpe, ih]

end Tracepoint.Entries
