import Mathlib.Order.Basic
import Mathlib.Data.List.Perm.Basic
import Mathlib.Data.List.Sort

/- Ordered maps: a list of entries in strictly increasing key order, so that a
   map has one representation and its first entry is the one with the least key.
   `emplace` keeps an entry that is there (`std::map::emplace`), `assign`
   overwrites it (`std::map::operator[]`). An update is described by what it does
   to the entries up to permutation (`emplace_perm`, `erase_perm`), which gives
   size and membership, and by what it does to a lookup. -/
namespace Lib

/-- A map from `κ` to `α`, its entries in strictly increasing key order. -/
structure OrdMap (κ α : Type*) [LinearOrder κ] where
  entries : List (κ × α)
  sorted : entries.Pairwise (fun a b => a.1 < b.1)

namespace OrdMap

open scoped List

variable {κ α : Type*} [LinearOrder κ]

@[ext] theorem ext {m n : OrdMap κ α} (h : m.entries = n.entries) : m = n := by
  cases m; cases n; simpa using h

instance [DecidableEq α] : DecidableEq (OrdMap κ α) := fun m n =>
  decidable_of_iff (m.entries = n.entries) ⟨ext, fun h => h ▸ rfl⟩

def empty : OrdMap κ α := ⟨[], .nil⟩

instance : Inhabited (OrdMap κ α) := ⟨empty⟩

def size (m : OrdMap κ α) : ℕ := m.entries.length

def keys (m : OrdMap κ α) : List κ := m.entries.map Prod.fst

def values (m : OrdMap κ α) : List α := m.entries.map Prod.snd

/-- The entry with the least key. -/
def first? (m : OrdMap κ α) : Option (κ × α) := m.entries.head?

def find? (m : OrdMap κ α) (k : κ) : Option α :=
  (m.entries.find? (fun e => e.1 = k)).map Prod.snd

def contains (m : OrdMap κ α) (k : κ) : Bool := m.entries.any (fun e => e.1 = k)

/-- The entries with `k ↦ v` put in its place, over an entry at `k`. -/
def insertEntry (k : κ) (v : α) : List (κ × α) → List (κ × α)
  | [] => [(k, v)]
  | e :: es =>
    if k < e.1 then (k, v) :: e :: es
    else if k = e.1 then (k, v) :: es
    else e :: insertEntry k v es

theorem mem_insertEntry {k : κ} {v : α} {e : κ × α} {es : List (κ × α)}
    (h : e ∈ insertEntry k v es) : e = (k, v) ∨ e ∈ es := by
  induction es with
  | nil => simpa [insertEntry] using h
  | cons d es ih =>
    simp only [insertEntry] at h
    split at h
    · simpa using h
    · split at h
      · obtain rfl | h := List.mem_cons.mp h
        · exact Or.inl rfl
        · exact Or.inr (List.mem_cons_of_mem _ h)
      · obtain rfl | h := List.mem_cons.mp h
        · exact Or.inr List.mem_cons_self
        · exact (ih h).imp_right (List.mem_cons_of_mem _)

theorem insertEntry_sorted (k : κ) (v : α) {es : List (κ × α)}
    (h : es.Pairwise (fun a b => a.1 < b.1)) :
    (insertEntry k v es).Pairwise (fun a b => a.1 < b.1) := by
  induction es with
  | nil => simp [insertEntry]
  | cons e es ih =>
    obtain ⟨he, hes⟩ := List.pairwise_cons.mp h
    simp only [insertEntry]
    split
    · rename_i hlt
      apply List.pairwise_cons.mpr
      refine ⟨?_, h⟩
      intro d hd
      obtain rfl | hd := List.mem_cons.mp hd
      · exact hlt
      · exact hlt.trans (he d hd)
    · split
      · rename_i heq
        subst heq
        apply List.pairwise_cons.mpr
        exact ⟨he, hes⟩
      · rename_i hlt hne
        apply List.pairwise_cons.mpr
        refine ⟨?_, ih hes⟩
        intro d hd
        obtain rfl | hd := mem_insertEntry hd
        · exact lt_of_le_of_ne (not_lt.mp hlt) (Ne.symm hne)
        · exact he d hd

/-- `m[k] = v`: an entry at `k` is overwritten. -/
def assign (m : OrdMap κ α) (k : κ) (v : α) : OrdMap κ α :=
  ⟨insertEntry k v m.entries, insertEntry_sorted k v m.sorted⟩

/-- `m.emplace(k, v)`: an entry at `k` stays as it is. -/
def emplace (m : OrdMap κ α) (k : κ) (v : α) : OrdMap κ α :=
  if m.contains k then m else m.assign k v

/-- The map without the entry at `k`. -/
def erase (m : OrdMap κ α) (k : κ) : OrdMap κ α :=
  ⟨m.entries.filter (fun e => e.1 ≠ k), m.sorted.filter _⟩

/-! ## Lookups -/

theorem contains_iff {m : OrdMap κ α} {k : κ} : m.contains k = true ↔ k ∈ m.keys := by
  simp [contains, keys]

theorem contains_eq_false {m : OrdMap κ α} {k : κ} :
    m.contains k = false ↔ k ∉ m.keys := by
  rw [← contains_iff, Bool.not_eq_true]

theorem keys_nodup (m : OrdMap κ α) : m.keys.Nodup := by
  unfold keys List.Nodup
  rw [List.pairwise_map]
  exact m.sorted.imp (fun h => ne_of_lt h)

/-- A key has one entry. -/
theorem eq_of_mem {m : OrdMap κ α} {k : κ} {v w : α} (hv : (k, v) ∈ m.entries)
    (hw : (k, w) ∈ m.entries) : v = w := by
  have h := m.keys_nodup
  unfold keys at h
  have := List.inj_on_of_nodup_map h hv hw rfl
  exact congrArg Prod.snd this

theorem find?_eq_some {m : OrdMap κ α} {k : κ} {v : α} :
    m.find? k = some v ↔ (k, v) ∈ m.entries := by
  unfold find?
  refine ⟨?_, ?_⟩
  · intro h
    obtain ⟨⟨k', v'⟩, he, rfl⟩ := Option.map_eq_some_iff.mp h
    have hk : k' = k := by simpa using List.find?_some he
    subst hk
    exact List.mem_of_find?_eq_some he
  · intro h
    cases he : m.entries.find? (fun e => e.1 = k) with
    | none => simpa using List.find?_eq_none.mp he _ h
    | some e =>
      have hk : e.1 = k := by simpa using List.find?_some he
      subst hk
      exact congrArg some (eq_of_mem (List.mem_of_find?_eq_some he) h)

theorem find?_eq_none {m : OrdMap κ α} {k : κ} : m.find? k = none ↔ k ∉ m.keys := by
  simp only [find?, Option.map_eq_none_iff, List.find?_eq_none, decide_eq_true_eq, keys,
    List.mem_map, not_exists, not_and]

/-- The least of the keys with a property is found first. -/
theorem find_least {m : OrdMap κ α} {p : κ → Bool} {k : κ} {v : α} (h : (k, v) ∈ m.entries)
    (hp : p k = true) (hleast : ∀ e ∈ m.entries, p e.1 = true → k ≤ e.1) :
    m.entries.find? (fun e => p e.1) = some (k, v) := by
  have hs := m.sorted
  generalize m.entries = es at h hleast hs
  induction es with
  | nil => simp at h
  | cons e es ih =>
    obtain ⟨he, hes⟩ := List.pairwise_cons.mp hs
    obtain rfl | h := List.mem_cons.mp h
    · simp [hp]
    · -- An entry before the least one has not the property, and is passed over.
      have hlt : e.1 < k := he _ h
      have hpe : p e.1 = false := by
        by_contra hpe
        exact absurd (hleast e List.mem_cons_self (by simpa using hpe)) (not_le.mpr hlt)
      rw [List.find?_cons_of_neg (by simp [hpe])]
      apply ih h _ hes
      intro d hd
      exact hleast d (List.mem_cons_of_mem _ hd)

theorem mem_assign_self (m : OrdMap κ α) (k : κ) (v : α) : (k, v) ∈ (m.assign k v).entries := by
  show (k, v) ∈ insertEntry k v m.entries
  induction m.entries with
  | nil => exact List.mem_cons_self
  | cons e es ih =>
    simp only [insertEntry]
    split
    · exact List.mem_cons_self
    · split
      · exact List.mem_cons_self
      · exact List.mem_cons_of_mem _ ih

/-- An entry that is there was put there, or was there before. -/
theorem mem_of_mem_assign {m : OrdMap κ α} {k : κ} {v : α} {e : κ × α}
    (h : e ∈ (m.assign k v).entries) : e = (k, v) ∨ e ∈ m.entries := by
  change e ∈ insertEntry k v m.entries at h
  revert h
  induction m.entries with
  | nil => exact fun h => Or.inl (List.mem_singleton.mp h)
  | cons d ds ih =>
    intro h
    simp only [insertEntry] at h
    split at h
    · exact List.mem_cons.mp h
    · split at h
      · obtain rfl | h := List.mem_cons.mp h
        · exact Or.inl rfl
        · exact Or.inr (List.mem_cons_of_mem d h)
      · obtain rfl | h := List.mem_cons.mp h
        · exact Or.inr List.mem_cons_self
        · exact (ih h).imp_right (List.mem_cons_of_mem d)

theorem mem_keys_of_mem {m : OrdMap κ α} {e : κ × α} (h : e ∈ m.entries) : e.1 ∈ m.keys :=
  List.mem_map_of_mem h

theorem mem_keys_assign {m : OrdMap κ α} {k j : κ} {v : α} :
    j ∈ (m.assign k v).keys ↔ j = k ∨ j ∈ m.keys := by
  show j ∈ (insertEntry k v m.entries).map Prod.fst ↔ j = k ∨ j ∈ m.entries.map Prod.fst
  induction m.entries with
  | nil => simp [insertEntry]
  | cons e es ih =>
    simp only [insertEntry]
    split
    · simp
    · split
      · rename_i heq
        simp [heq]
      · rw [List.map_cons, List.mem_cons, ih, List.map_cons, List.mem_cons]
        exact or_left_comm

/-- An entry of another kind than what is looked for does not get in the way. -/
theorem find?_assign {p : κ → Bool} {k : κ} (hk : p k = false) (m : OrdMap κ α) (v : α) :
    (m.assign k v).entries.find? (fun e => p e.1) = m.entries.find? (fun e => p e.1) := by
  show (insertEntry k v m.entries).find? (fun e => p e.1) = _
  induction m.entries with
  | nil => simp [insertEntry, hk]
  | cons e es ih =>
    simp only [insertEntry]
    split
    · rw [List.find?_cons_of_neg]
      simp [hk]
    · split
      · rename_i heq
        have he : p e.1 = false := heq ▸ hk
        rw [List.find?_cons_of_neg (by simp [hk]), List.find?_cons_of_neg (by simp [he])]
      · rw [List.find?_cons, List.find?_cons, ih]

@[simp] theorem entries_empty : (empty : OrdMap κ α).entries = [] := rfl

/-! ## Updates, up to permutation -/

theorem insertEntry_perm {k : κ} {v : α} {es : List (κ × α)}
    (h : ∀ e ∈ es, e.1 ≠ k) : (insertEntry k v es).Perm ((k, v) :: es) := by
  induction es with
  | nil => exact .refl _
  | cons e es ih =>
    simp only [insertEntry]
    split
    · exact .refl _
    · rw [if_neg (h e List.mem_cons_self).symm]
      have ih := ih (fun d hd => h d (List.mem_cons_of_mem _ hd))
      calc e :: insertEntry k v es
          ~ e :: (k, v) :: es := ih.cons e
        _ ~ (k, v) :: e :: es := .swap _ _ _

/-- A fresh key adds its entry and moves no other. -/
theorem assign_perm {m : OrdMap κ α} {k : κ} (v : α) (h : k ∉ m.keys) :
    (m.assign k v).entries.Perm ((k, v) :: m.entries) := by
  apply insertEntry_perm
  intro e he hek
  apply h
  rw [← hek]
  exact mem_keys_of_mem he

theorem emplace_perm {m : OrdMap κ α} {k : κ} (v : α) (h : m.contains k = false) :
    (m.emplace k v).entries.Perm ((k, v) :: m.entries) := by
  simp only [emplace, h, Bool.false_eq_true, if_false]
  exact assign_perm v (contains_eq_false.mp h)

/-- Assignments to distinct fresh keys add their entries. -/
theorem foldl_assign_perm {m : OrdMap κ α} {as : List (κ × α)} (hnodup : (as.map Prod.fst).Nodup)
    (hfresh : ∀ a ∈ as, a.1 ∉ m.keys) :
    (as.foldl (fun m a => m.assign a.1 a.2) m).entries.Perm (as ++ m.entries) := by
  induction as generalizing m with
  | nil => exact .refl _
  | cons a as ih =>
    obtain ⟨ha, hnodup⟩ := List.nodup_cons.mp hnodup
    have hassign := assign_perm a.2 (hfresh a List.mem_cons_self)
    have hfresh' : ∀ b ∈ as, b.1 ∉ (m.assign a.1 a.2).keys := by
      intro b hb hmem
      have hkeys : b.1 ∈ a.1 :: m.keys := (hassign.map Prod.fst).mem_iff.mp hmem
      obtain heq | hmem := List.mem_cons.mp hkeys
      · exact ha (heq ▸ List.mem_map_of_mem hb)
      · exact hfresh b (List.mem_cons_of_mem _ hb) hmem
    calc (as.foldl (fun m a => m.assign a.1 a.2) (m.assign a.1 a.2)).entries
        ~ as ++ (m.assign a.1 a.2).entries := ih hnodup hfresh'
      _ ~ as ++ (a :: m.entries) := hassign.append_left as
      _ ~ a :: (as ++ m.entries) := List.perm_middle

theorem size_emplace {m : OrdMap κ α} {k : κ} (v : α) (h : m.contains k = false) :
    (m.emplace k v).size = m.size + 1 := by
  simpa [size] using (emplace_perm v h).length_eq

theorem mem_emplace {m : OrdMap κ α} {k : κ} {v : α} {e : κ × α}
    (h : m.contains k = false) : e ∈ (m.emplace k v).entries ↔ e = (k, v) ∨ e ∈ m.entries := by
  rw [(emplace_perm v h).mem_iff, List.mem_cons]

theorem filter_perm {k : κ} {v : α} {es : List (κ × α)}
    (hs : es.Pairwise (fun a b => a.1 < b.1)) (h : (k, v) ∈ es) :
    es.Perm ((k, v) :: es.filter (fun e => e.1 ≠ k)) := by
  induction es with
  | nil => simp at h
  | cons e es ih =>
    obtain ⟨he, hes⟩ := List.pairwise_cons.mp hs
    obtain rfl | h := List.mem_cons.mp h
    · have hrest : es.filter (fun e => e.1 ≠ k) = es := by
        apply List.filter_eq_self.mpr
        intro d hd
        simpa using (he d hd).ne'
      rw [List.filter_cons_of_neg (by simp), hrest]
    · have hne : e.1 ≠ k := (he _ h).ne
      rw [List.filter_cons_of_pos (by simpa using hne)]
      calc e :: es
          ~ e :: (k, v) :: es.filter (fun d => d.1 ≠ k) := (ih hes h).cons e
        _ ~ (k, v) :: e :: es.filter (fun d => d.1 ≠ k) := .swap _ _ _

/-- Erasing a key that is there takes its entry out and moves no other. -/
theorem erase_perm {m : OrdMap κ α} {k : κ} {v : α} (h : (k, v) ∈ m.entries) :
    m.entries.Perm ((k, v) :: (m.erase k).entries) :=
  filter_perm m.sorted h

theorem size_erase {m : OrdMap κ α} {k : κ} {v : α} (h : (k, v) ∈ m.entries) :
    (m.erase k).size + 1 = m.size := by
  simpa [size] using (erase_perm h).length_eq.symm

theorem mem_erase {m : OrdMap κ α} {k : κ} {e : κ × α} :
    e ∈ (m.erase k).entries ↔ e ∈ m.entries ∧ e.1 ≠ k := by
  simp [erase]

theorem entries_eq_nil_of_first? {m : OrdMap κ α} (h : m.first? = none) : m.entries = [] := by
  simpa [first?] using h

/-- The first entry is in the map and has the least key. -/
theorem first?_eq_some {m : OrdMap κ α} {e : κ × α} (h : m.first? = some e) :
    e ∈ m.entries ∧ ∀ d ∈ m.entries, e.1 ≤ d.1 := by
  have hs := m.sorted
  unfold first? at h
  cases hm : m.entries with
  | nil => simp [hm] at h
  | cons c es =>
    simp only [hm, List.head?_cons, Option.some.injEq] at h
    subst h
    rw [hm] at hs
    refine ⟨List.mem_cons_self, ?_⟩
    intro d hd
    obtain rfl | hd := List.mem_cons.mp hd
    · exact le_refl _
    · exact le_of_lt ((List.pairwise_cons.mp hs).1 d hd)

end OrdMap
end Lib
