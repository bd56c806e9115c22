/-!
Finite maps as lists sorted by key. Each map has one such list: maps are equal when their lookups
agree.
-/

namespace SceneDraw

structure KeyMap (κ α : Type) [LT κ] where
  entries : List (κ × α)
  sorted : entries.Pairwise (·.1 < ·.1)

namespace KeyMap

variable {κ α : Type}

def lookup [DecidableEq κ] (k : κ) (es : List (κ × α)) : Option α :=
  (es.find? (·.1 = k)).map (·.2)

theorem lookup_cons [DecidableEq κ] (k : κ) (e : κ × α) (es : List (κ × α)) :
    lookup k (e :: es) = if e.1 = k then some e.2 else lookup k es := by
  by_cases h : e.1 = k <;> simp [lookup, h]

variable [LT κ]

instance [DecidableEq κ] [DecidableEq α] : DecidableEq (KeyMap κ α) := fun m n =>
  decidable_of_iff (m.entries = n.entries) <| by cases m; cases n; simp

def empty : KeyMap κ α := ⟨[], .nil⟩

instance : Inhabited (KeyMap κ α) := ⟨empty⟩

instance : EmptyCollection (KeyMap κ α) := ⟨empty⟩

def size (m : KeyMap κ α) : Nat := m.entries.length

def keys (m : KeyMap κ α) : List κ := m.entries.map (·.1)

def find? [DecidableEq κ] (m : KeyMap κ α) (k : κ) : Option α := lookup k m.entries

def contains [DecidableEq κ] (m : KeyMap κ α) (k : κ) : Bool := (m.find? k).isSome

theorem mem_keys [DecidableEq κ] {m : KeyMap κ α} {k : κ} : k ∈ m.keys ↔ (m.find? k).isSome := by
  simp [keys, find?, lookup]

theorem mem_of_find? [DecidableEq κ] {m : KeyMap κ α} {k : κ} {a : α} (h : m.find? k = some a) :
    (k, a) ∈ m.entries := by
  obtain ⟨e, he, rfl⟩ := Option.map_eq_some_iff.1 h
  obtain rfl : e.1 = k := by simpa using List.find?_some he
  exact List.mem_of_find?_eq_some he

theorem find?_empty [DecidableEq κ] (k : κ) : (∅ : KeyMap κ α).find? k = none := rfl

def insertEntry [DecidableLT κ] (k : κ) (a : α) : List (κ × α) → List (κ × α)
  | [] => [(k, a)]
  | e :: es =>
    if k < e.1 then (k, a) :: e :: es
    else if e.1 < k then e :: insertEntry k a es
    else (k, a) :: es

theorem mem_insertEntry [DecidableLT κ] {k : κ} {a : α} {e : κ × α} {es : List (κ × α)}
    (h : e ∈ insertEntry k a es) : e = (k, a) ∨ e ∈ es := by
  induction es with
  | nil => simpa [insertEntry] using h
  | cons d es ih =>
    simp only [insertEntry] at h
    split at h
    · simpa using h
    · split at h
      · rcases List.mem_cons.1 h with rfl | h
        · simp
        · rcases ih h with rfl | h <;> simp_all
      · rcases List.mem_cons.1 h with rfl | h <;> simp_all

variable [LE κ] [Std.LawfulOrderLT κ]

theorem lookup_eq_none [DecidableEq κ] [Std.IsPreorder κ] {k : κ} {es : List (κ × α)}
    (h : ∀ e ∈ es, k < e.1) : lookup k es = none := by
  induction es with
  | nil => rfl
  | cons e es ih =>
    rw [lookup_cons, if_neg fun he => Std.lt_irrefl (he ▸ h e List.mem_cons_self)]
    exact ih fun d hd => h d (List.mem_cons_of_mem e hd)

theorem nodup_keys [Std.IsPreorder κ] (m : KeyMap κ α) : m.keys.Nodup := by
  refine List.pairwise_map.2 (m.sorted.imp fun h he => ?_)
  rw [he] at h
  exact Std.lt_irrefl h

variable [Std.IsLinearOrder κ]

theorem eq_of_not_lt {k l : κ} (h₁ : ¬k < l) (h₂ : ¬l < k) : k = l := by
  rw [Std.not_lt] at h₁ h₂
  exact Std.le_antisymm h₂ h₁

theorem eq_of_lookup [DecidableEq κ] {es ds : List (κ × α)} (he : es.Pairwise (·.1 < ·.1))
    (hd : ds.Pairwise (·.1 < ·.1)) (h : ∀ k, lookup k es = lookup k ds) : es = ds := by
  induction es generalizing ds with
  | nil =>
    cases ds with
    | nil => rfl
    | cons d ds => simpa [lookup_cons, lookup] using h d.1
  | cons e es ih =>
    cases ds with
    | nil => simpa [lookup_cons, lookup] using h e.1
    | cons d ds =>
      obtain ⟨hes, he⟩ := List.pairwise_cons.1 he
      obtain ⟨hds, hd⟩ := List.pairwise_cons.1 hd
      have hk : e.1 = d.1 := by
        refine eq_of_not_lt (fun hlt => ?_) (fun hlt => ?_)
        · have hl := h e.1
          rw [lookup_cons, if_pos rfl, lookup_eq_none] at hl
          · cases hl
          · intro c hc
            rcases List.mem_cons.1 hc with rfl | hc
            · exact hlt
            · exact Std.lt_trans hlt (hds c hc)
        · have hl := h d.1
          rw [lookup_cons (e := d), if_pos rfl, lookup_eq_none] at hl
          · cases hl
          · intro c hc
            rcases List.mem_cons.1 hc with rfl | hc
            · exact hlt
            · exact Std.lt_trans hlt (hes c hc)
      have hv := h e.1
      rw [lookup_cons, lookup_cons, if_pos rfl, if_pos hk.symm] at hv
      rw [Prod.ext hk (Option.some.inj hv), ih he hd fun k => ?_]
      have hl := h k
      rw [lookup_cons, lookup_cons, ← hk] at hl
      by_cases hek : e.1 = k
      · subst hek
        rw [lookup_eq_none hes, lookup_eq_none (hk ▸ hds)]
      · rwa [if_neg hek, if_neg hek] at hl

theorem ext_find? [DecidableEq κ] {m n : KeyMap κ α} (h : ∀ k, m.find? k = n.find? k) : m = n := by
  cases m
  cases n
  congr
  exact eq_of_lookup ‹_› ‹_› h

variable [DecidableLT κ]

theorem lookup_insertEntry [DecidableEq κ] (k l : κ) (a : α) (es : List (κ × α)) :
    lookup l (insertEntry k a es) = if k = l then some a else lookup l es := by
  induction es with
  | nil => rw [insertEntry, lookup_cons]
  | cons e es ih =>
    rw [insertEntry]
    split
    · rw [lookup_cons]
    · rename_i h₁
      split
      · rename_i h₂
        rw [lookup_cons, lookup_cons, ih]
        by_cases he : e.1 = l
        · rw [if_pos he, if_neg fun hk => Std.lt_irrefl (he.trans hk.symm ▸ h₂), if_pos he]
        · rw [if_neg he, if_neg he]
      · rename_i h₂
        rw [lookup_cons, lookup_cons, eq_of_not_lt h₁ h₂]
        split <;> rfl

theorem sorted_insertEntry {k : κ} {a : α} {es : List (κ × α)} (h : es.Pairwise (·.1 < ·.1)) :
    (insertEntry k a es).Pairwise (·.1 < ·.1) := by
  induction es with
  | nil => simp [insertEntry]
  | cons d es ih =>
    obtain ⟨hd, hs⟩ := List.pairwise_cons.1 h
    simp only [insertEntry]
    split
    · rename_i hk
      refine List.pairwise_cons.2 ⟨fun e he => ?_, h⟩
      rcases List.mem_cons.1 he with rfl | he
      · exact hk
      · exact Std.lt_trans hk (hd e he)
    · split
      · rename_i hk
        refine List.pairwise_cons.2 ⟨fun e he => ?_, ih hs⟩
        rcases mem_insertEntry he with rfl | he
        · exact hk
        · exact hd e he
      · rename_i h₁ h₂
        obtain rfl := eq_of_not_lt h₁ h₂
        exact List.pairwise_cons.2 ⟨hd, hs⟩

def insert (m : KeyMap κ α) (k : κ) (a : α) : KeyMap κ α :=
  ⟨insertEntry k a m.entries, sorted_insertEntry m.sorted⟩

theorem find?_insert [DecidableEq κ] (m : KeyMap κ α) (k l : κ) (a : α) :
    (m.insert k a).find? l = if k = l then some a else m.find? l :=
  lookup_insertEntry k l a m.entries

def ofList (es : List (κ × α)) : KeyMap κ α := es.foldl (fun m e => m.insert e.1 e.2) empty

end KeyMap

abbrev NameSet := KeyMap String Unit

def NameSet.ofNames (names : List String) : NameSet := KeyMap.ofList (names.map (·, ()))

end SceneDraw
