import Mathlib.Algebra.BigOperators.Group.List.Basic
import Mathlib.Data.List.Nodup
import Mathlib.Tactic.Abel

/-!
# Maps that remember the order of their keys

`OrderedMap κ α` is a finite map from `κ` to `α` whose keys stand in the order
in which they were first assigned: assigning to a key that is present replaces
the value and leaves the key where it is, assigning to a new key puts it last,
and removing a key forgets its place.  The list of entries carries the proof
that no key occurs in it twice, so that reading, assigning and removing a key
are the operations of a finite map.

`OrderedMap.sum` adds up a function of the entries; how assigning and removing
change such a sum is what an incrementally maintained total is compared with.
-/

namespace CollegeCanteens

universe u v w

variable {κ : Type u} {α : Type v}

/-! ## Entry lists -/

namespace EntryList

section Lookup

variable [DecidableEq κ]

/-- Replace the value at `k` in place, or put the entry last. -/
def set (k : κ) (v : α) : List (κ × α) → List (κ × α)
  | [] => [(k, v)]
  | (k', v') :: l => if k' = k then (k', v) :: l else (k', v') :: set k v l

@[simp] theorem lookup_cons_of_ne {k k' : κ} {v : α} {l : List (κ × α)} (h : k' ≠ k) :
    ((k, v) :: l).lookup k' = l.lookup k' := by
  rw [List.lookup_cons, beq_false_of_ne h]

theorem mem_keys_set {k k' : κ} {v : α} {l : List (κ × α)} :
    k' ∈ (set k v l).map Prod.fst ↔ k' = k ∨ k' ∈ l.map Prod.fst := by
  induction l with
  | nil => simp [set]
  | cons e l ih =>
      obtain ⟨k₀, v₀⟩ := e
      rcases eq_or_ne k₀ k with rfl | h
      · simp only [set, if_true, List.map_cons, List.mem_cons]
        tauto
      · simp only [set, h, if_false, List.map_cons, List.mem_cons, ih]
        tauto

theorem nodup_set {k : κ} {v : α} {l : List (κ × α)} (h : (l.map Prod.fst).Nodup) :
    ((set k v l).map Prod.fst).Nodup := by
  induction l with
  | nil => simp [set]
  | cons e l ih =>
      obtain ⟨k₀, v₀⟩ := e
      rw [List.map_cons, List.nodup_cons] at h
      rcases eq_or_ne k₀ k with hk | hk
      · rw [set, if_pos hk]
        exact List.nodup_cons.mpr h
      · rw [set, if_neg hk, List.map_cons, List.nodup_cons, mem_keys_set]
        exact ⟨not_or.mpr ⟨hk, h.1⟩, ih h.2⟩

/-- A new key goes last. -/
theorem set_of_notMem {k : κ} {v : α} {l : List (κ × α)} (h : k ∉ l.map Prod.fst) :
    set k v l = l ++ [(k, v)] := by
  induction l with
  | nil => rfl
  | cons e l ih =>
      obtain ⟨k₀, v₀⟩ := e
      rw [List.map_cons, List.mem_cons, not_or] at h
      rw [set, if_neg (Ne.symm h.1), ih h.2, List.cons_append]

theorem set_comm_of_mem {k k' : κ} {v v' : α} {l : List (κ × α)} (hk : k ∈ l.map Prod.fst)
    (hne : k ≠ k') : set k' v' (set k v l) = set k v (set k' v' l) := by
  induction l with
  | nil => simp at hk
  | cons e l ih =>
      obtain ⟨k₀, v₀⟩ := e
      rcases eq_or_ne k₀ k with rfl | h
      · simp [set, hne]
      · have hl : k ∈ l.map Prod.fst := by simpa [h.symm] using hk
        rcases eq_or_ne k₀ k' with rfl | h'
        · simp [set, h]
        · simp [set, h, h', ih hl]

theorem lookup_set {k k' : κ} {v : α} {l : List (κ × α)} :
    (set k v l).lookup k' = if k' = k then some v else l.lookup k' := by
  induction l with
  | nil => rcases eq_or_ne k' k with rfl | h <;> simp [set, *]
  | cons e l ih =>
      obtain ⟨k₀, v₀⟩ := e
      rcases eq_or_ne k₀ k with rfl | hk
      · rcases eq_or_ne k' k₀ with rfl | h <;> simp [set, *]
      · rcases eq_or_ne k' k₀ with rfl | h
        · simp [set, hk]
        · simp [set, hk, h, ih]

theorem lookup_filter_ne {k k' : κ} {l : List (κ × α)} :
    (l.filter fun e ↦ e.1 ≠ k).lookup k' = if k' = k then none else l.lookup k' := by
  induction l with
  | nil => simp
  | cons e l ih =>
      obtain ⟨k₀, v₀⟩ := e
      rcases eq_or_ne k₀ k with rfl | hk
      · rcases eq_or_ne k' k₀ with rfl | h
        · simpa using ih
        · simpa [h] using ih
      · rcases eq_or_ne k' k₀ with rfl | h
        · simp [hk]
        · simpa [hk, h] using ih

theorem lookup_map {β : Type w} {f : κ → α → β} {k : κ} {l : List (κ × α)} :
    (l.map fun e ↦ (e.1, f e.1 e.2)).lookup k = (l.lookup k).map (f k) := by
  induction l with
  | nil => rfl
  | cons e l ih =>
      obtain ⟨k₀, v₀⟩ := e
      rcases eq_or_ne k k₀ with rfl | h
      · simp
      · simp [h, ih]

theorem lookup_eq_some_iff {k : κ} {v : α} {l : List (κ × α)} (h : (l.map Prod.fst).Nodup) :
    l.lookup k = some v ↔ (k, v) ∈ l := by
  induction l with
  | nil => simp
  | cons e l ih =>
      obtain ⟨k₀, v₀⟩ := e
      rw [List.map_cons, List.nodup_cons] at h
      rcases eq_or_ne k k₀ with rfl | hk
      · have hnot : (k, v) ∉ l := fun hm ↦ h.1 (List.mem_map.mpr ⟨(k, v), hm, rfl⟩)
        simp [hnot, eq_comm]
      · simp [hk, ih h.2]

end Lookup

section Sum

variable [DecidableEq κ] {M : Type w} [AddCommMonoid M] (f : κ → α → M)

/-- The sum of `f` over an entry list. -/
def sum (l : List (κ × α)) : M := (l.map fun e ↦ f e.1 e.2).sum

omit [DecidableEq κ] in
@[simp] theorem sum_cons {e : κ × α} {l : List (κ × α)} :
    sum f (e :: l) = f e.1 e.2 + sum f l := by simp [sum]

variable {f} {k : κ} {v v' : α} {l : List (κ × α)}

theorem sum_set_of_none (h : l.lookup k = none) : sum f (set k v l) = sum f l + f k v := by
  induction l with
  | nil => simp [set, sum]
  | cons e l ih =>
      obtain ⟨k₀, v₀⟩ := e
      rcases eq_or_ne k₀ k with rfl | hk
      · simp at h
      · have hl : l.lookup k = none := by simpa [Ne.symm hk] using h
        simp [set, hk, ih hl, add_assoc]

theorem sum_set_of_some (h : l.lookup k = some v') :
    sum f (set k v l) + f k v' = sum f l + f k v := by
  induction l with
  | nil => simp at h
  | cons e l ih =>
      obtain ⟨k₀, v₀⟩ := e
      rcases eq_or_ne k₀ k with rfl | hk
      · obtain rfl : v₀ = v' := by simpa using h
        simp only [set, if_true, sum_cons]
        abel
      · have hl : l.lookup k = some v' := by simpa [Ne.symm hk] using h
        simp only [set, hk, if_false, sum_cons, add_assoc, ih hl]

theorem sum_filter_ne_of_some (hnd : (l.map Prod.fst).Nodup) (h : l.lookup k = some v) :
    sum f (l.filter fun e ↦ e.1 ≠ k) + f k v = sum f l := by
  induction l with
  | nil => simp at h
  | cons e l ih =>
      obtain ⟨k₀, v₀⟩ := e
      rw [List.map_cons, List.nodup_cons] at hnd
      rcases eq_or_ne k₀ k with rfl | hk
      · obtain rfl : v₀ = v := by simpa using h
        have hall : l.filter (fun e ↦ e.1 ≠ k₀) = l := by
          rw [List.filter_eq_self]
          intro p hp
          have hne : p.1 ≠ k₀ := fun hc ↦ hnd.1 (List.mem_map.mpr ⟨p, hp, hc⟩)
          simpa using hne
        rw [List.filter_cons_of_neg (by simp), hall, sum_cons, add_comm]
      · have hl : l.lookup k = some v := by simpa [Ne.symm hk] using h
        rw [List.filter_cons_of_pos (by simpa using hk), sum_cons, sum_cons, add_assoc,
          ih hnd.2 hl]

end Sum

end EntryList

/-! ## The maps -/

/-- A finite map whose keys are ordered by their first assignment. -/
structure OrderedMap (κ : Type u) (α : Type v) where
  /-- The entries, first assigned first. -/
  entries : List (κ × α)
  /-- No key has two entries. -/
  nodup : (entries.map Prod.fst).Nodup

namespace OrderedMap

section

variable {m : OrderedMap κ α} {k : κ}

instance : EmptyCollection (OrderedMap κ α) := ⟨⟨[], by simp⟩⟩

instance : Inhabited (OrderedMap κ α) := ⟨∅⟩

/-- The keys, in order. -/
def keys (m : OrderedMap κ α) : List κ := m.entries.map Prod.fst

instance : Membership κ (OrderedMap κ α) := ⟨fun m k ↦ k ∈ m.keys⟩

theorem ext_entries {m m' : OrderedMap κ α} (h : m.entries = m'.entries) : m = m' := by
  cases m
  cases m'
  simpa using h

instance [DecidableEq κ] [DecidableEq α] : DecidableEq (OrderedMap κ α) := fun m m' ↦
  decidable_of_iff (m.entries = m'.entries) ⟨ext_entries, fun h ↦ h ▸ rfl⟩

/-- Keep the entries that satisfy `p`. -/
def filter (p : κ × α → Bool) (m : OrderedMap κ α) : OrderedMap κ α :=
  ⟨m.entries.filter p, m.nodup.sublist (List.Sublist.map _ List.filter_sublist)⟩

/-- Apply `f` to every value. -/
def map {β : Type w} (f : κ → α → β) (m : OrderedMap κ α) : OrderedMap κ β :=
  ⟨m.entries.map fun e ↦ (e.1, f e.1 e.2), by simpa [Function.comp_def] using m.nodup⟩

/-- The sum of `f` over the entries. -/
def sum {M : Type w} [AddCommMonoid M] (f : κ → α → M) (m : OrderedMap κ α) : M :=
  EntryList.sum f m.entries

@[simp] theorem entries_empty : (∅ : OrderedMap κ α).entries = [] := rfl

@[simp] theorem notMem_empty : k ∉ (∅ : OrderedMap κ α) := List.not_mem_nil

theorem mem_keys : k ∈ m.keys ↔ k ∈ m := Iff.rfl

theorem ne_empty_of_mem (h : k ∈ m) : m ≠ ∅ := by
  rintro rfl
  exact notMem_empty h

theorem eq_empty_iff : m = ∅ ↔ ∀ k, k ∉ m := by
  constructor
  · rintro rfl k
    exact notMem_empty
  · intro h
    apply ext_entries
    exact List.map_eq_nil_iff.mp (List.eq_nil_iff_forall_not_mem.mpr h)

@[simp] theorem keys_map {β : Type w} {f : κ → α → β} : (m.map f).keys = m.keys := by
  simp [keys, map, Function.comp_def]

@[simp] theorem sum_empty {M : Type w} [AddCommMonoid M] {f : κ → α → M} :
    (∅ : OrderedMap κ α).sum f = 0 := rfl

end

variable [DecidableEq κ] {m m' : OrderedMap κ α} {k k' : κ} {v v' : α}

instance (k : κ) (m : OrderedMap κ α) : Decidable (k ∈ m) :=
  inferInstanceAs (Decidable (k ∈ m.keys))

/-- The value at `k`, if there is one. -/
def get? (m : OrderedMap κ α) (k : κ) : Option α := m.entries.lookup k

/-- Assign `v` to `k`. -/
def set (m : OrderedMap κ α) (k : κ) (v : α) : OrderedMap κ α :=
  ⟨EntryList.set k v m.entries, EntryList.nodup_set m.nodup⟩

/-- Remove `k`. -/
def remove (m : OrderedMap κ α) (k : κ) : OrderedMap κ α := m.filter fun e ↦ e.1 ≠ k

/-- Assign the entries of `m'`, in order. -/
def addAll (m m' : OrderedMap κ α) : OrderedMap κ α :=
  m'.entries.foldl (fun acc e ↦ acc.set e.1 e.2) m

/-- Replace the value at `k`, if there is one, by its image under `f`. -/
def modify (m : OrderedMap κ α) (k : κ) (f : α → α) : OrderedMap κ α :=
  m.map fun k' v ↦ if k' = k then f v else v

@[simp] theorem get?_empty : (∅ : OrderedMap κ α).get? k = none := rfl

theorem get?_eq_some_iff : m.get? k = some v ↔ (k, v) ∈ m.entries :=
  EntryList.lookup_eq_some_iff m.nodup

theorem mem_iff : k ∈ m ↔ ∃ v, m.get? k = some v := by
  simp only [get?_eq_some_iff]
  constructor
  · intro h
    obtain ⟨e, he, rfl⟩ := List.mem_map.mp (mem_keys.mpr h)
    exact ⟨e.2, he⟩
  · rintro ⟨v, hv⟩
    exact List.mem_map.mpr ⟨(k, v), hv, rfl⟩

theorem notMem_iff : k ∉ m ↔ m.get? k = none := by
  rw [mem_iff]
  cases m.get? k <;> simp

theorem mem_of_get? (h : m.get? k = some v) : k ∈ m := mem_iff.mpr ⟨v, h⟩

/-! ### Assigning and removing -/

theorem get?_set : (m.set k v).get? k' = if k' = k then some v else m.get? k' :=
  EntryList.lookup_set

@[simp] theorem get?_set_self : (m.set k v).get? k = some v := by simp [get?_set]

theorem get?_set_of_ne (h : k' ≠ k) : (m.set k v).get? k' = m.get? k' := by simp [get?_set, h]

theorem entries_set_of_notMem (h : k ∉ m) : (m.set k v).entries = m.entries ++ [(k, v)] :=
  EntryList.set_of_notMem h

@[simp] theorem mem_set : k' ∈ m.set k v ↔ k' = k ∨ k' ∈ m := EntryList.mem_keys_set

theorem get?_remove : (m.remove k).get? k' = if k' = k then none else m.get? k' :=
  EntryList.lookup_filter_ne

@[simp] theorem get?_remove_self : (m.remove k).get? k = none := by simp [get?_remove]

theorem get?_remove_of_ne (h : k' ≠ k) : (m.remove k).get? k' = m.get? k' := by
  simp [get?_remove, h]

/-- A key is set to a value, or removed. -/
theorem get?_elim {v : Option α} :
    (v.elim (m.remove k) (m.set k)).get? k' = if k' = k then v else m.get? k' := by
  cases v with
  | none => exact get?_remove
  | some v => exact get?_set

@[simp] theorem mem_remove : k' ∈ m.remove k ↔ k' ≠ k ∧ k' ∈ m := by
  rw [mem_iff, mem_iff]
  rcases eq_or_ne k' k with rfl | h <;> simp [get?_remove, *]

@[simp] theorem set_ne_empty : m.set k v ≠ ∅ := ne_empty_of_mem (mem_set.mpr (.inl rfl))

theorem remove_eq_empty_iff : m.remove k = ∅ ↔ ∀ k' ∈ m.keys, k' = k := by
  simp only [eq_empty_iff, mem_keys, mem_remove, not_and, not_imp_not]

theorem get?_map {β : Type w} {f : κ → α → β} : (m.map f).get? k = (m.get? k).map (f k) :=
  EntryList.lookup_map

theorem get?_modify {f : α → α} :
    (m.modify k f).get? k' = if k' = k then (m.get? k').map f else m.get? k' := by
  rw [modify, get?_map]
  rcases eq_or_ne k' k with rfl | h
  · simp
  · simp only [h, if_false, Option.map_id']

@[simp] theorem mem_modify {f : α → α} : k' ∈ m.modify k f ↔ k' ∈ m := by
  rw [← mem_keys, modify, keys_map, mem_keys]

@[simp] theorem mem_filter {p : κ × α → Bool} :
    k ∈ m.filter p ↔ ∃ v, m.get? k = some v ∧ p (k, v) := by
  simp only [mem_iff, get?_eq_some_iff, filter, List.mem_filter]

/-- Assigning a list of entries whose keys are new, each once, appends it. -/
theorem entries_foldl_set {l : List (κ × α)} (h : ((m.entries ++ l).map Prod.fst).Nodup) :
    (l.foldl (fun acc e ↦ acc.set e.1 e.2) m).entries = m.entries ++ l := by
  induction l generalizing m with
  | nil => simp
  | cons e l ih =>
      have hnew : e.1 ∉ m := fun hm ↦ by
        rw [List.map_append, List.nodup_append] at h
        exact h.2.2 _ hm _ List.mem_cons_self rfl
      have hset : (m.set e.1 e.2).entries = m.entries ++ [e] := entries_set_of_notMem hnew
      rw [List.foldl_cons, ih (by rw [hset]; simpa using h), hset, List.append_assoc,
        List.singleton_append]

theorem entries_addAll (h : ((m.entries ++ m'.entries).map Prod.fst).Nodup) :
    (m.addAll m').entries = m.entries ++ m'.entries :=
  entries_foldl_set h

@[simp] theorem addAll_empty : (∅ : OrderedMap κ α).addAll m = m :=
  ext_entries (entries_addAll m.nodup)

/-- Assigning to a key that is there does not move any key, and so may be done
before or after assigning to another one. -/
theorem set_comm_of_mem (hk : k ∈ m) (hne : k ≠ k') :
    (m.set k v).set k' v' = (m.set k' v').set k v :=
  ext_entries (EntryList.set_comm_of_mem hk hne)

/-! ### Properties of every entry -/

/-- Every entry of the map satisfies `p`. -/
def All (p : κ → α → Prop) (m : OrderedMap κ α) : Prop := ∀ k v, m.get? k = some v → p k v

section All

variable {p : κ → α → Prop}

theorem all_iff_entries : m.All p ↔ ∀ e ∈ m.entries, p e.1 e.2 :=
  ⟨fun h e he ↦ h e.1 e.2 (get?_eq_some_iff.mpr he), fun h k v hv ↦
    h (k, v) (get?_eq_some_iff.mp hv)⟩

instance [∀ k v, Decidable (p k v)] (m : OrderedMap κ α) : Decidable (m.All p) :=
  decidable_of_iff (∀ e ∈ m.entries, p e.1 e.2) all_iff_entries.symm

@[simp] theorem all_empty : (∅ : OrderedMap κ α).All p := fun _ _ h ↦ by cases h

theorem All.remove (h : m.All p) : (m.remove k).All p := by
  intro k' v' hv
  rw [get?_remove] at hv
  split at hv
  · cases hv
  · exact h k' v' hv

/-- An assignment keeps the property of every other entry. -/
theorem All.set_iff (h : m.All p) : (m.set k v).All p ↔ p k v := by
  constructor
  · exact fun hset ↦ hset k v get?_set_self
  · intro hv k' v' hv'
    rw [get?_set] at hv'
    split at hv'
    · next heq => exact heq ▸ Option.some.inj hv' ▸ hv
    · exact h k' v' hv'

/-- A change of a value in place keeps the property if it does so of that value. -/
theorem All.modify {f : α → α} (h : m.All p) (hf : ∀ v, p k v → p k (f v)) :
    (m.modify k f).All p := by
  intro k' v' hv'
  rw [get?_modify] at hv'
  split at hv'
  · obtain ⟨v, hv, rfl⟩ := Option.map_eq_some_iff.mp hv'
    next heq => exact heq ▸ hf v (heq ▸ h k' v hv)
  · exact h k' v' hv'

end All

/-! ### Equality up to the order of the keys -/

/-- The maps agree at every key. -/
def Same (m m' : OrderedMap κ α) : Prop := ∀ k, m.get? k = m'.get? k

instance [DecidableEq α] (m m' : OrderedMap κ α) : Decidable (m.Same m') :=
  decidable_of_iff (∀ k ∈ m.keys ++ m'.keys, m.get? k = m'.get? k) <| by
    refine ⟨fun h k ↦ ?_, fun h k _ ↦ h k⟩
    by_cases hk : k ∈ m.keys ++ m'.keys
    · exact h k hk
    · rw [List.mem_append, not_or, mem_keys, mem_keys, notMem_iff, notMem_iff] at hk
      rw [hk.1, hk.2]

theorem All.same {p : κ → α → Prop} (h : m.All p) (hm : m'.Same m) : m'.All p :=
  fun k v hv ↦ h k v (hm k ▸ hv)

namespace Same

@[refl] protected theorem refl (m : OrderedMap κ α) : m.Same m := fun _ ↦ rfl

@[trans] protected theorem trans {m'' : OrderedMap κ α} (h : m.Same m') (h' : m'.Same m'') :
    m.Same m'' := fun k ↦ (h k).trans (h' k)

theorem mem_iff (h : m.Same m') : k ∈ m ↔ k ∈ m' := by
  rw [OrderedMap.mem_iff, OrderedMap.mem_iff, h k]

protected theorem set (h : m.Same m') : (m.set k v).Same (m'.set k v) := fun k' ↦ by
  rw [get?_set, get?_set, h k']

protected theorem modify {f : α → α} (h : m.Same m') : (m.modify k f).Same (m'.modify k f) :=
  fun k' ↦ by rw [get?_modify, get?_modify, h k']

end Same

/-- Changes of values in place commute if they do so at every key. -/
theorem modify_comm {f g : α → α} (h : k = k' → ∀ v, f (g v) = g (f v)) :
    (m.modify k' g).modify k f = (m.modify k f).modify k' g := by
  apply ext_entries
  simp only [modify, map, List.map_map]
  refine List.map_congr_left fun e _ ↦ ?_
  rcases eq_or_ne e.1 k with rfl | hk
  · rcases eq_or_ne e.1 k' with hk' | hk'
    · simp [hk', h hk']
    · simp [hk']
  · simp [hk]

/-- Changing a value in place and assigning to another key commute. -/
theorem modify_set_of_ne {f : α → α} (h : k ≠ k') :
    ((m.set k' v).modify k f).Same ((m.modify k f).set k' v) := fun k₀ ↦ by
  rw [get?_modify, get?_set, get?_set, get?_modify]
  rcases eq_or_ne k₀ k with rfl | hk
  · simp [h]
  · simp [hk]

/-! ### Sums over the entries -/

section Sum

variable {M : Type w} [AddCommMonoid M] {f : κ → α → M}

/-- A new key adds its own summand. -/
theorem sum_set_of_none (h : m.get? k = none) : (m.set k v).sum f = m.sum f + f k v :=
  EntryList.sum_set_of_none h

/-- Assigning to a present key exchanges its summand. -/
theorem sum_set_of_some (h : m.get? k = some v') :
    (m.set k v).sum f + f k v' = m.sum f + f k v :=
  EntryList.sum_set_of_some h

/-- Removing a present key takes its summand away. -/
theorem sum_remove_of_some (h : m.get? k = some v) : (m.remove k).sum f + f k v = m.sum f :=
  EntryList.sum_filter_ne_of_some m.nodup h

end Sum

end OrderedMap

end CollegeCanteens
