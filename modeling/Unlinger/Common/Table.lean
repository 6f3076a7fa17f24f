import Mathlib.Data.Nat.Basic
import Unlinger.Common.OrdMap

/-!
# Tables

Rows under keys, as a database holds them: statements that rewrite or
delete many rows at once, of which a constraint on one row fails the whole
statement, and tables that number their rows and never give a number
twice.
-/

namespace Unlinger

variable {κ ν ε : Type} [LinearOrder κ]

namespace OrdMap

/-! ## Deleting -/

/-- Keep the entries a test holds of. -/
def filter (m : OrdMap κ ν) (p : κ → ν → Bool) : OrdMap κ ν :=
  ⟨m.entries.filter fun e => p e.1 e.2, m.sorted.filter _⟩

theorem lookup_filter {m : OrdMap κ ν} {p : κ → ν → Bool} {k : κ} :
    (m.filter p).lookup k = (m.lookup k).filter (p k) := by
  ext v
  simp only [Option.filter_eq_some_iff, lookup_eq_some, filter, List.mem_filter]

/-- Delete the entry of a key. -/
def erase (m : OrdMap κ ν) (k : κ) : OrdMap κ ν := m.filter fun k' _ => decide (k' ≠ k)

theorem lookup_erase {m : OrdMap κ ν} {k k' : κ} :
    (m.erase k).lookup k' = if k' = k then none else m.lookup k' := by
  rw [erase, lookup_filter]
  split_ifs with h
  · cases m.lookup k' <;> simp [h]
  · cases m.lookup k' <;> simp [h]

/-! ## Rewriting -/

/-- Rewrite, keep or delete every entry, in key order; the first failure
is the failure of all. -/
def rewriteEntries (f : κ → ν → Except ε (Option ν)) :
    List (κ × ν) → Except ε (List (κ × ν))
  | [] => .ok []
  | e :: es =>
      match f e.1 e.2 with
      | .error err => .error err
      | .ok v =>
          match rewriteEntries f es with
          | .error err => .error err
          | .ok es' => .ok ((v.map fun v => (e.1, v)).toList ++ es')

omit [LinearOrder κ] in
/-- An entry that is left was rewritten from the one of its key. -/
theorem mem_rewriteEntries {f : κ → ν → Except ε (Option ν)} {es es' : List (κ × ν)}
    (h : rewriteEntries f es = .ok es') {k : κ} {v : ν} :
    (k, v) ∈ es' ↔ ∃ w, (k, w) ∈ es ∧ f k w = .ok (some v) := by
  induction es generalizing es' with
  | nil =>
      obtain rfl := Except.ok.inj h
      simp
  | cons e es ih =>
      unfold rewriteEntries at h
      cases hf : f e.1 e.2 with
      | error err => simp [hf] at h
      | ok o =>
          cases hes : rewriteEntries f es with
          | error err => simp [hf, hes] at h
          | ok tail =>
              simp only [hf, hes, Except.ok.injEq] at h
              subst h
              rw [List.mem_append, ih hes]
              constructor
              · rintro (hin | ⟨w, hw, hfw⟩)
                · simp only [Option.mem_toList, Option.map_eq_some_iff, Prod.mk.injEq] at hin
                  obtain ⟨v', rfl, rfl, rfl⟩ := hin
                  exact ⟨e.2, by simp, hf⟩
                · exact ⟨w, List.mem_cons_of_mem _ hw, hfw⟩
              · rintro ⟨w, hw, hfw⟩
                rcases List.mem_cons.1 hw with rfl | hw
                · rw [hf, Except.ok.injEq] at hfw
                  exact Or.inl (by simp [hfw])
                · exact Or.inr ⟨w, hw, hfw⟩

theorem pairwise_rewriteEntries {f : κ → ν → Except ε (Option ν)} {es es' : List (κ × ν)}
    (h : rewriteEntries f es = .ok es') (hes : es.Pairwise fun a b => a.1 < b.1) :
    es'.Pairwise fun a b => a.1 < b.1 := by
  induction es generalizing es' with
  | nil =>
      obtain rfl := Except.ok.inj h
      exact List.Pairwise.nil
  | cons e es ih =>
      obtain ⟨hhead, htail⟩ := List.pairwise_cons.1 hes
      unfold rewriteEntries at h
      cases hf : f e.1 e.2 with
      | error err => simp [hf] at h
      | ok o =>
          cases hrest : rewriteEntries f es with
          | error err => simp [hf, hrest] at h
          | ok tail =>
              simp only [hf, hrest, Except.ok.injEq] at h
              subst h
              cases o with
              | none => simpa using ih hrest htail
              | some v =>
                  refine List.pairwise_cons.2 ⟨fun x hx => ?_, ih hrest htail⟩
                  obtain ⟨w, hw, -⟩ := (mem_rewriteEntries hrest).1 hx
                  exact hhead (x.1, w) hw

/-- Rewrite, keep or delete every entry, or fail. -/
def rewrite (m : OrdMap κ ν) (f : κ → ν → Except ε (Option ν)) : Except ε (OrdMap κ ν) :=
  match h : rewriteEntries f m.entries with
  | .error err => .error err
  | .ok es => .ok ⟨es, pairwise_rewriteEntries h m.sorted⟩

/-- What a rewrite that succeeded left for each key. -/
theorem lookup_rewrite {m m' : OrdMap κ ν} {f : κ → ν → Except ε (Option ν)}
    (h : m.rewrite f = .ok m') {k : κ} {v : ν} :
    m'.lookup k = some v ↔ ∃ w, m.lookup k = some w ∧ f k w = .ok (some v) := by
  unfold rewrite at h
  split at h
  · cases h
  · rename_i es hes
    obtain rfl := Except.ok.inj h
    rw [lookup_eq_some]
    simp only [lookup_eq_some]
    exact mem_rewriteEntries hes

/-- A rewrite succeeds exactly when it does at every entry. -/
theorem rewrite_ok_iff {m : OrdMap κ ν} {f : κ → ν → Except ε (Option ν)} :
    (∃ m', m.rewrite f = .ok m') ↔ ∀ k v, m.lookup k = some v → ∃ o, f k v = .ok o := by
  have hlist : ∀ es : List (κ × ν), (∃ es', rewriteEntries f es = .ok es') ↔
      ∀ e ∈ es, ∃ o, f e.1 e.2 = .ok o := by
    intro es
    induction es with
    | nil => simp [rewriteEntries]
    | cons e es ih =>
        unfold rewriteEntries
        constructor
        · rintro ⟨es', hok⟩ x hx
          cases hf : f e.1 e.2 with
          | error err => simp [hf] at hok
          | ok o =>
              cases hrest : rewriteEntries f es with
              | error err => simp [hf, hrest] at hok
              | ok tail =>
                  rcases List.mem_cons.1 hx with rfl | hx
                  · exact ⟨o, hf⟩
                  · exact ih.1 ⟨tail, hrest⟩ x hx
        · intro hall
          obtain ⟨o, ho⟩ := hall e (by simp)
          obtain ⟨tail, htail⟩ := ih.2 fun x hx => hall x (List.mem_cons_of_mem _ hx)
          exact ⟨_, by simp only [ho, htail]; rfl⟩
  constructor
  · rintro ⟨m', h⟩ k v hk
    unfold rewrite at h
    split at h
    · cases h
    · rename_i es hes
      exact (hlist _).1 ⟨es, hes⟩ (k, v) (lookup_eq_some.1 hk)
  · intro hall
    obtain ⟨es', hes'⟩ := (hlist m.entries).2 fun e he => hall e.1 e.2 (lookup_eq_some.2 he)
    unfold rewrite
    split
    · rename_i err herr
      rw [hes'] at herr
      cases herr
    · exact ⟨_, rfl⟩

end OrdMap

/-! ## Numbered rows -/

/-- A table whose rows are numbered as they come; `lastId` is the last
number given, also where its row is gone. -/
structure Table (ρ : Type) where
  rows : OrdMap Nat ρ
  lastId : Nat
  bounded : ∀ id r, rows.lookup id = some r → id ≤ lastId

namespace Table

variable {ρ : Type}

/-- The table without rows. -/
def empty : Table ρ := ⟨OrdMap.empty, 0, by simp⟩

/-- The row of a number. -/
def get (t : Table ρ) (id : Nat) : Option ρ := t.rows.lookup id

/-- The rows with their numbers, in order. -/
def entries (t : Table ρ) : List (Nat × ρ) := t.rows.entries

/-- The number the next row gets. -/
def nextId (t : Table ρ) : Nat := t.lastId + 1

/-- Put a row in under the next number. -/
def insert (t : Table ρ) (r : ρ) : Table ρ where
  rows := t.rows.insert t.nextId r
  lastId := t.nextId
  bounded := by
    intro id r' h
    rw [OrdMap.lookup_insert] at h
    split_ifs at h with hid
    · exact Nat.le_of_eq hid
    · exact Nat.le_succ_of_le (t.bounded id r' h)

/-- Delete the rows a test does not hold of. -/
def filter (t : Table ρ) (p : Nat → ρ → Bool) : Table ρ where
  rows := t.rows.filter p
  lastId := t.lastId
  bounded := by
    intro id r h
    rw [OrdMap.lookup_filter, Option.filter_eq_some_iff] at h
    exact t.bounded id r h.1

/-- Rewrite every row, or fail. -/
def update (t : Table ρ) (f : Nat → ρ → Except ε ρ) : Except ε (Table ρ) :=
  match h : t.rows.rewrite fun id r => (f id r).map some with
  | .error err => .error err
  | .ok rows => .ok
      { rows := rows
        lastId := t.lastId
        bounded := by
          intro id r hr
          obtain ⟨w, hw, -⟩ := (OrdMap.lookup_rewrite h).1 hr
          exact t.bounded id w hw }

@[simp] theorem get_empty {id : Nat} : (empty : Table ρ).get id = none := rfl

theorem get_nextId {t : Table ρ} : t.get t.nextId = none := by
  rcases h : t.get t.nextId with _ | r
  · rfl
  · exact absurd (t.bounded _ _ h) (by simp [nextId])

theorem get_insert {t : Table ρ} {r : ρ} {id : Nat} :
    (t.insert r).get id = if id = t.nextId then some r else t.get id :=
  OrdMap.lookup_insert

/-- A row that was there stays under its number. -/
theorem get_insert_of_some {t : Table ρ} {r r' : ρ} {id : Nat} (h : t.get id = some r') :
    (t.insert r).get id = some r' := by
  rw [get_insert, if_neg]
  · exact h
  · rintro rfl
    rw [get_nextId] at h
    cases h

theorem get_filter {t : Table ρ} {p : Nat → ρ → Bool} {id : Nat} :
    (t.filter p).get id = (t.get id).filter (p id) :=
  OrdMap.lookup_filter

theorem mem_entries {t : Table ρ} {e : Nat × ρ} : e ∈ t.entries ↔ t.get e.1 = some e.2 :=
  OrdMap.lookup_eq_some.symm

/-- The new row is the last. -/
theorem entries_insert {t : Table ρ} {r : ρ} :
    (t.insert r).entries = t.entries ++ [(t.nextId, r)] := by
  have hlast : ∀ es : List (Nat × ρ), (∀ e ∈ es, e.1 < t.nextId) →
      OrdMap.insertEntry t.nextId r es = es ++ [(t.nextId, r)] := by
    intro es hes
    induction es with
    | nil => rfl
    | cons e es ih =>
        have he : e.1 < t.nextId := hes e List.mem_cons_self
        unfold OrdMap.insertEntry
        rw [if_neg (Nat.lt_asymm he), if_pos he,
          ih fun x hx => hes x (List.mem_cons_of_mem e hx)]
        rfl
  refine hlast t.entries fun e he => ?_
  exact Nat.lt_succ_of_le (t.bounded e.1 e.2 (mem_entries.1 he))

/-- A test of all rows passes exactly when every row does. -/
theorem all_entries {t : Table ρ} {p : Nat × ρ → Bool} :
    t.entries.all p = true ↔ ∀ id r, t.get id = some r → p (id, r) = true := by
  rw [List.all_eq_true]
  constructor
  · intro h id r hr
    exact h (id, r) (mem_entries.2 hr)
  · intro h e he
    exact h e.1 e.2 (mem_entries.1 he)

@[simp] theorem lastId_update {t t' : Table ρ} {f : Nat → ρ → Except ε ρ}
    (h : t.update f = .ok t') : t'.lastId = t.lastId := by
  unfold update at h
  split at h
  · cases h
  · obtain rfl := Except.ok.inj h
    rfl

/-- What an update that succeeded left under each number. -/
theorem get_update {t t' : Table ρ} {f : Nat → ρ → Except ε ρ} (h : t.update f = .ok t')
    {id : Nat} {r : ρ} :
    t'.get id = some r ↔ ∃ w, t.get id = some w ∧ f id w = .ok r := by
  unfold update at h
  split at h
  · cases h
  · rename_i rows hrows
    obtain rfl := Except.ok.inj h
    rw [get, OrdMap.lookup_rewrite hrows]
    constructor
    · rintro ⟨w, hw, hf⟩
      refine ⟨w, hw, ?_⟩
      cases hfw : f id w with
      | error err => simp [hfw, Except.map] at hf
      | ok r' => simpa [hfw, Except.map] using hf
    · rintro ⟨w, hw, hf⟩
      exact ⟨w, hw, by rw [hf]; rfl⟩

/-- An update that cannot fail rewrites the rows where they stand. -/
theorem entries_update {t t' : Table ρ} {g : Nat → ρ → ρ}
    (h : t.update (fun id r => (.ok (g id r) : Except ε ρ)) = .ok t') :
    t'.entries = t.entries.map fun e => (e.1, g e.1 e.2) := by
  have hall : ∀ es : List (Nat × ρ),
      OrdMap.rewriteEntries (fun id r => ((.ok (g id r) : Except ε ρ)).map some) es
        = .ok (es.map fun e => (e.1, g e.1 e.2)) := by
    intro es
    induction es with
    | nil => rfl
    | cons e es ih =>
        unfold OrdMap.rewriteEntries
        rw [ih]
        rfl
  unfold update at h
  split at h
  · cases h
  · rename_i rows hrows
    obtain rfl := Except.ok.inj h
    unfold OrdMap.rewrite at hrows
    split at hrows
    · cases hrows
    · rename_i es hes
      obtain rfl := Except.ok.inj hrows
      rw [hall] at hes
      exact (Except.ok.inj hes).symm

/-- An update succeeds exactly when it does at every row. -/
theorem update_ok_iff {t : Table ρ} {f : Nat → ρ → Except ε ρ} :
    (∃ t', t.update f = .ok t') ↔ ∀ id r, t.get id = some r → ∃ r', f id r = .ok r' := by
  have hrow : ∀ id r, (∃ o, (f id r).map some = .ok o) ↔ ∃ r', f id r = .ok r' := by
    intro id r
    cases f id r with
    | error err => simp [Except.map]
    | ok r' => simp [Except.map]
  have hrows : (∃ rows, t.rows.rewrite (fun id r => (f id r).map some) = .ok rows) ↔
      ∀ id r, t.get id = some r → ∃ r', f id r = .ok r' := by
    rw [OrdMap.rewrite_ok_iff]
    simp only [hrow]
    rfl
  rw [← hrows]
  unfold update
  constructor
  · rintro ⟨t', h⟩
    split at h
    · cases h
    · exact ⟨_, ‹_›⟩
  · rintro ⟨rows, h⟩
    split
    · rename_i err herr
      rw [h] at herr
      cases herr
    · exact ⟨_, rfl⟩

end Table

end Unlinger
