import Mathlib.Order.Lattice
import Mathlib.Data.List.Induction
import Mathlib.Data.List.Pairwise
import Mathlib.Data.List.Sort
import Mathlib.Tactic.Common

/-!
# Ordered maps

A map held as its entries in strictly increasing key order, so that
walking the entries is walking the keys in order, and a key has at most
one value. The order is a field of the structure: a map out of order
cannot be built.
-/

namespace Unlinger

variable {κ ν μ : Type} [LinearOrder κ]

/-- A map from `κ` to `ν`, entries in increasing key order. -/
structure OrdMap (κ ν : Type) [LinearOrder κ] where
  entries : List (κ × ν)
  sorted : entries.Pairwise fun a b => a.1 < b.1

namespace OrdMap

theorem ext_entries {m m' : OrdMap κ ν} (h : m.entries = m'.entries) : m = m' := by
  cases m
  cases m'
  cases h
  rfl

instance [DecidableEq ν] : DecidableEq (OrdMap κ ν) := fun m m' =>
  decidable_of_iff (m.entries = m'.entries) ⟨ext_entries, congrArg entries⟩

/-- Put a key's value into the entries, replacing the one it had. -/
def insertEntry (k : κ) (v : ν) : List (κ × ν) → List (κ × ν)
  | [] => [(k, v)]
  | e :: es =>
      if k < e.1 then (k, v) :: e :: es
      else if e.1 < k then e :: insertEntry k v es
      else (k, v) :: es

theorem mem_insertEntry {k : κ} {v : ν} {e : κ × ν} {es : List (κ × ν)}
    (h : e ∈ insertEntry k v es) : e = (k, v) ∨ e ∈ es := by
  induction es with
  | nil => simpa [insertEntry] using h
  | cons x es ih =>
      unfold insertEntry at h
      split_ifs at h with h₁ h₂
      · simpa using h
      · rcases List.mem_cons.1 h with rfl | h
        · exact Or.inr (by simp)
        · exact (ih h).imp_right (List.mem_cons_of_mem x)
      · rcases List.mem_cons.1 h with rfl | h
        · exact Or.inl rfl
        · exact Or.inr (List.mem_cons_of_mem x h)

theorem pairwise_insertEntry {k : κ} {v : ν} {es : List (κ × ν)}
    (h : es.Pairwise fun a b => a.1 < b.1) :
    (insertEntry k v es).Pairwise fun a b => a.1 < b.1 := by
  induction es with
  | nil => simp [insertEntry]
  | cons x es ih =>
      obtain ⟨hx, hes⟩ := List.pairwise_cons.1 h
      unfold insertEntry
      split_ifs with h₁ h₂
      · refine List.pairwise_cons.2 ⟨fun e he => ?_, h⟩
        rcases List.mem_cons.1 he with rfl | he
        · exact h₁
        · exact lt_trans h₁ (hx e he)
      · refine List.pairwise_cons.2 ⟨fun e he => ?_, ih hes⟩
        rcases mem_insertEntry he with rfl | he
        · exact h₂
        · exact hx e he
      · have hk : k = x.1 := le_antisymm (not_lt.1 h₂) (not_lt.1 h₁)
        exact List.pairwise_cons.2 ⟨fun e he => hk ▸ hx e he, hes⟩

/-- The map without entries. -/
def empty : OrdMap κ ν := ⟨[], List.Pairwise.nil⟩

/-- Give `k` the value `v`. -/
def insert (m : OrdMap κ ν) (k : κ) (v : ν) : OrdMap κ ν :=
  ⟨insertEntry k v m.entries, pairwise_insertEntry m.sorted⟩

/-- The value of a key. -/
def lookup (m : OrdMap κ ν) (k : κ) : Option ν :=
  (m.entries.find? fun e => e.1 = k).map Prod.snd

/-- Is there a value for the key? -/
def contains (m : OrdMap κ ν) (k : κ) : Bool := (m.lookup k).isSome

/-- The keys, in order. -/
def keys (m : OrdMap κ ν) : List κ := m.entries.map Prod.fst

/-- The values, in key order. -/
def values (m : OrdMap κ ν) : List ν := m.entries.map Prod.snd

/-- No entries at all. -/
def isEmpty (m : OrdMap κ ν) : Bool := m.entries.isEmpty

/-- The entries whose keys are wanted. -/
def filterKeys (p : κ → Bool) (m : OrdMap κ ν) : OrdMap κ ν :=
  ⟨m.entries.filter fun e => p e.1, m.sorted.filter _⟩

/-- Collect pairs; a later pair replaces an earlier one of its key. -/
def ofList (ps : List (κ × ν)) : OrdMap κ ν :=
  ps.foldl (fun m p => m.insert p.1 p.2) empty

/-- Put an element under its key, unless one there is of no lower rank. -/
def keepGreater {α : Type} (key : α → κ) (rank : α → ℕ) (m : OrdMap κ α) (x : α) : OrdMap κ α :=
  match m.lookup (key x) with
  | some y => if rank y < rank x then m.insert (key x) x else m
  | none => m.insert (key x) x

/-- Collect of each key the element of the highest rank, the first one of
them. -/
def greatestBy {α : Type} (key : α → κ) (rank : α → ℕ) (xs : List α) : OrdMap κ α :=
  xs.foldl (keepGreater key rank) empty

/-! ## Lookups -/

/-- A key's value is its entry's. -/
theorem lookup_eq_some {m : OrdMap κ ν} {k : κ} {v : ν} :
    m.lookup k = some v ↔ (k, v) ∈ m.entries := by
  obtain ⟨es, hes⟩ := m
  simp only [lookup, Option.map_eq_some_iff]
  induction es with
  | nil => simp
  | cons x es ih =>
      obtain ⟨hx, hes'⟩ := List.pairwise_cons.1 hes
      by_cases hk : x.1 = k
      · rw [List.find?_cons_of_pos (by simpa using hk)]
        constructor
        · rintro ⟨e, he, rfl⟩
          obtain rfl := Option.some.inj he
          exact List.mem_cons.2 (Or.inl (by rw [← hk]))
        · intro h
          rcases List.mem_cons.1 h with h | h
          · exact ⟨x, rfl, by rw [← h]⟩
          · exact absurd (hx _ h) (by simp [hk])
      · rw [List.find?_cons_of_neg (by simpa using hk), ih hes']
        rw [List.mem_cons, or_iff_right]
        exact fun h => hk (by rw [← h])

@[simp] theorem lookup_empty {k : κ} : (empty : OrdMap κ ν).lookup k = none := rfl

private theorem mem_insertEntry_self {k : κ} {v : ν} {es : List (κ × ν)} :
    (k, v) ∈ insertEntry k v es := by
  induction es with
  | nil => simp [insertEntry]
  | cons x es ih =>
      unfold insertEntry
      split_ifs
      · simp
      · exact List.mem_cons_of_mem x ih
      · simp

private theorem mem_insertEntry_of_ne {k : κ} {v : ν} {e : κ × ν} {es : List (κ × ν)}
    (hne : e.1 ≠ k) (h : e ∈ es) : e ∈ insertEntry k v es := by
  induction es with
  | nil => simp at h
  | cons x es ih =>
      unfold insertEntry
      split_ifs with h₁ h₂
      · exact List.mem_cons_of_mem _ h
      · rcases List.mem_cons.1 h with rfl | h
        · simp
        · exact List.mem_cons_of_mem x (ih h)
      · rcases List.mem_cons.1 h with rfl | h
        · exact absurd (le_antisymm (not_lt.1 h₁) (not_lt.1 h₂)) hne
        · exact List.mem_cons_of_mem _ h

/-- What the filter keeps is looked up as it was. -/
theorem lookup_filterKeys {p : κ → Bool} {m : OrdMap κ ν} {k : κ} :
    (m.filterKeys p).lookup k = if p k = true then m.lookup k else none := by
  apply Option.ext
  intro v
  rw [lookup_eq_some]
  split_ifs with h
  · rw [lookup_eq_some]
    exact ⟨fun he => (List.mem_filter.1 he).1, fun he => List.mem_filter.2 ⟨he, h⟩⟩
  · refine ⟨fun he => absurd (List.mem_filter.1 he).2 h, fun he => by cases he⟩

/-- A key looks up to what was last inserted for it. -/
theorem lookup_insert {m : OrdMap κ ν} {k k' : κ} {v : ν} :
    (m.insert k v).lookup k' = if k' = k then some v else m.lookup k' := by
  split_ifs with h
  · subst h
    exact lookup_eq_some.2 mem_insertEntry_self
  · ext w
    rw [lookup_eq_some, lookup_eq_some]
    constructor
    · intro hmem
      rcases mem_insertEntry hmem with hkv | hmem
      · exact absurd (congrArg Prod.fst hkv) h
      · exact hmem
    · exact fun hmem => mem_insertEntry_of_ne h hmem

/-- The maps a list of pairs is collected into hold nothing else. -/
theorem lookup_ofList {ps : List (κ × ν)} {k : κ} {v : ν} (h : (ofList ps).lookup k = some v) :
    (k, v) ∈ ps := by
  unfold ofList at h
  induction ps using List.reverseRecOn generalizing v with
  | nil => simp at h
  | append_singleton ps p ih =>
      rw [List.foldl_append, List.foldl_cons, List.foldl_nil, lookup_insert] at h
      by_cases hk : k = p.1
      · rw [if_pos hk] at h
        obtain rfl := Option.some.inj h
        simp [hk]
      · rw [if_neg hk] at h
        exact List.mem_append_left _ (ih h)

/-- Every pair collected leaves its key a value. -/
theorem contains_ofList {ps : List (κ × ν)} {k : κ} :
    (ofList ps).contains k = true ↔ ∃ v, (k, v) ∈ ps := by
  constructor
  · intro h
    obtain ⟨v, hv⟩ := Option.isSome_iff_exists.1 h
    exact ⟨v, lookup_ofList hv⟩
  · rintro ⟨v, hv⟩
    unfold ofList
    induction ps using List.reverseRecOn with
    | nil => simp at hv
    | append_singleton ps p ih =>
        rw [List.foldl_append, List.foldl_cons, List.foldl_nil, contains, lookup_insert]
        by_cases hk : k = p.1
        · simp [hk]
        · rw [if_neg hk]
          refine ih ?_
          rcases List.mem_append.1 hv with hv | hv
          · exact hv
          · exact absurd (congrArg Prod.fst (List.mem_singleton.1 hv)) hk

section Greatest

variable {α : Type} {key : α → κ} {rank : α → ℕ} {xs : List α}

theorem lookup_keepGreater {m : OrdMap κ α} {x : α} {k : κ} :
    (keepGreater key rank m x).lookup k =
      if k = key x then some ((m.lookup k).elim x fun y => if rank y < rank x then x else y)
      else m.lookup k := by
  unfold keepGreater
  cases hm : m.lookup (key x) with
  | none =>
      rw [lookup_insert]
      split_ifs with hk
      · rw [hk, hm]
        rfl
      · rfl
  | some y =>
      by_cases hlt : rank y < rank x
      · simp only [if_pos hlt, lookup_insert]
        split_ifs with hk
        · rw [hk, hm, Option.elim_some, if_pos hlt]
        · rfl
      · simp only [if_neg hlt]
        split_ifs with hk
        · rw [hk, hm, Option.elim_some, if_neg hlt]
        · rfl

/-- What is collected under a key is of the highest rank there is under
it, and something is collected where there is anything. -/
theorem lookup_greatestBy (k : κ) :
    (∀ x, (greatestBy key rank xs).lookup k = some x →
      x ∈ xs ∧ key x = k ∧ ∀ y ∈ xs, key y = k → rank y ≤ rank x) ∧
    ((greatestBy key rank xs).lookup k = none → ∀ y ∈ xs, key y ≠ k) := by
  unfold greatestBy
  induction xs using List.reverseRecOn with
  | nil => simp
  | append_singleton xs z ih =>
      rw [List.foldl_append, List.foldl_cons, List.foldl_nil, lookup_keepGreater]
      obtain ⟨hsome, hnone⟩ := ih
      by_cases hk : k = key z
      · subst hk
        rw [if_pos rfl]
        refine ⟨fun x hx => ?_, by simp⟩
        obtain rfl := Option.some.inj hx
        cases hlookup : (xs.foldl (keepGreater key rank) empty).lookup (key z) with
        | none =>
            refine ⟨by simp, rfl, fun y hy hkey => ?_⟩
            rcases List.mem_append.1 hy with hy | hy
            · exact absurd hkey (hnone hlookup y hy)
            · rw [List.mem_singleton.1 hy]
              exact le_rfl
        | some w =>
            obtain ⟨hw, hkey, hmax⟩ := hsome w hlookup
            rw [Option.elim_some]
            have hrank : rank w ≤ rank (if rank w < rank z then z else w) ∧
                rank z ≤ rank (if rank w < rank z then z else w) := by
              split_ifs with hlt
              · exact ⟨hlt.le, le_rfl⟩
              · exact ⟨le_rfl, not_lt.1 hlt⟩
            refine ⟨?_, ?_, fun y hy hkey' => ?_⟩
            · split_ifs <;> simp [hw]
            · split_ifs
              · rfl
              · exact hkey
            · rcases List.mem_append.1 hy with hy | hy
              · exact (hmax y hy hkey').trans hrank.1
              · rw [List.mem_singleton.1 hy]
                exact hrank.2
      · rw [if_neg hk]
        -- another key's element leaves what is collected here
        have hother : ∀ y ∈ xs ++ [z], key y = k → y ∈ xs := by
          intro y hy hkey
          rcases List.mem_append.1 hy with hy | hy
          · exact hy
          · rw [List.mem_singleton.1 hy] at hkey
            exact absurd hkey.symm hk
        refine ⟨fun x hx => ?_, fun hx y hy hkey => hnone hx y (hother y hy hkey) hkey⟩
        obtain ⟨hmem, hkey, hmax⟩ := hsome x hx
        exact ⟨by simp [hmem], hkey, fun y hy hkey' => hmax y (hother y hy hkey') hkey'⟩

end Greatest

/-- A map is its lookups. -/
theorem ext_lookup {m m' : OrdMap κ ν} (h : ∀ k, m.lookup k = m'.lookup k) : m = m' := by
  have hmem : ∀ e, e ∈ m.entries ↔ e ∈ m'.entries := by
    rintro ⟨k, v⟩
    rw [← lookup_eq_some, ← lookup_eq_some, h k]
  have hirrefl : Std.Irrefl fun a b : κ × ν => a.1 < b.1 := ⟨fun a => lt_irrefl a.1⟩
  have hantisymm : Std.Antisymm fun a b : κ × ν => a.1 < b.1 :=
    ⟨fun a b hab hba => absurd hab (lt_asymm hba)⟩
  have hentries : m.entries = m'.entries := m.sorted.eq_of_mem_iff m'.sorted hmem
  cases m
  cases m'
  simpa using hentries

theorem mem_values {m : OrdMap κ ν} {v : ν} : v ∈ m.values ↔ ∃ k, m.lookup k = some v := by
  simp only [values, List.mem_map, Prod.exists, lookup_eq_some]
  constructor
  · rintro ⟨k, w, h, rfl⟩
    exact ⟨k, h⟩
  · rintro ⟨k, h⟩
    exact ⟨k, v, h, rfl⟩

theorem isEmpty_iff {m : OrdMap κ ν} : m.isEmpty = true ↔ ∀ k, m.lookup k = none := by
  rw [isEmpty, List.isEmpty_iff]
  constructor
  · intro h k
    simp [lookup, h]
  · intro h
    rw [List.eq_nil_iff_forall_not_mem]
    intro e he
    have hsome : m.lookup e.1 = some e.2 := lookup_eq_some.2 he
    rw [h e.1] at hsome
    cases hsome

end OrdMap

end Unlinger
