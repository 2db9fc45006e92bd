/-!
# Maps in order of insertion

The entries keep the order in which their keys were first inserted. Giving a key a new value leaves
it in its place.
-/

namespace KotlinBackend

structure OrderedMap (κ ν : Type) where
  entries : List (κ × ν)

namespace OrderedMap

variable {κ ν : Type}

def empty : OrderedMap κ ν := ⟨[]⟩

instance : EmptyCollection (OrderedMap κ ν) := ⟨empty⟩

instance : Inhabited (OrderedMap κ ν) := ⟨empty⟩

def keys (m : OrderedMap κ ν) : List κ := m.entries.map (·.1)

def values (m : OrderedMap κ ν) : List ν := m.entries.map (·.2)

def size (m : OrderedMap κ ν) : Nat := m.entries.length

variable [BEq κ]

/-- The value of a key. -/
def get? (m : OrderedMap κ ν) (k : κ) : Option ν := m.entries.lookup k

def contains (m : OrderedMap κ ν) (k : κ) : Bool := (m.get? k).isSome

/-- The entries with the value of a key changed, or with the key added at the end. -/
def alterEntries (k : κ) (f : Option ν → ν) : List (κ × ν) → List (κ × ν)
  | [] => [(k, f none)]
  | (k', v) :: rest =>
    if k == k' then (k', f (some v)) :: rest else (k', v) :: alterEntries k f rest

/-- Changes the value of a key; an absent key is added at the end. -/
def alter (m : OrderedMap κ ν) (k : κ) (f : Option ν → ν) : OrderedMap κ ν :=
  ⟨alterEntries k f m.entries⟩

/-- Gives a key a value. -/
def insert (m : OrderedMap κ ν) (k : κ) (v : ν) : OrderedMap κ ν := m.alter k fun _ => v

/-- Gives a key a value unless it has one. -/
def insertNew (m : OrderedMap κ ν) (k : κ) (v : ν) : OrderedMap κ ν := m.alter k (·.getD v)

/-- The map without a key. -/
def erase (m : OrderedMap κ ν) (k : κ) : OrderedMap κ ν :=
  ⟨m.entries.filter fun entry => !(k == entry.1)⟩

/-- Inserts pairs from left to right. -/
def ofList (pairs : List (κ × ν)) : OrderedMap κ ν :=
  pairs.foldl (fun m (k, v) => m.insert k v) empty

section Lemmas

variable [LawfulBEq κ] (m : OrderedMap κ ν) (k : κ) (f : Option ν → ν)

theorem lookup_first (entry : κ × ν) (rest : List (κ × ν)) :
    (entry :: rest).lookup entry.1 = some entry.2 := by
  rw [List.lookup_cons, beq_self_eq_true]

theorem lookup_rest {k : κ} {entry : κ × ν} (rest : List (κ × ν)) (h : ¬ k = entry.1) :
    (entry :: rest).lookup k = rest.lookup k := by
  rw [List.lookup_cons, beq_false_of_ne h]

theorem lookup_alterEntries (entries : List (κ × ν)) (k' : κ) :
    (alterEntries k f entries).lookup k' =
      if k' == k then some (f (entries.lookup k)) else entries.lookup k' := by
  induction entries with
  | nil =>
    by_cases h : k' = k
    · simp [alterEntries, h]
    · rw [alterEntries, lookup_rest [] h, if_neg (by simpa using h)]
  | cons entry rest ih =>
    by_cases hFirst : k = entry.1
    · rw [alterEntries, if_pos (by simpa using hFirst)]
      by_cases h : k' = entry.1
      · subst hFirst h
        simp [lookup_first]
      · have hAltered : ((entry.1, f (some entry.2)) :: rest).lookup k' = rest.lookup k' :=
          lookup_rest rest h
        rw [hAltered, lookup_rest rest h, if_neg (by simpa [hFirst] using h)]
    · rw [alterEntries, if_neg (by simpa using hFirst), lookup_rest rest hFirst]
      by_cases h : k' = entry.1
      · subst h
        rw [lookup_first, lookup_first, if_neg (by simpa using Ne.symm hFirst)]
      · rw [lookup_rest _ h, lookup_rest _ h, ih]

theorem get?_alter (k' : κ) :
    (m.alter k f).get? k' = if k' == k then some (f (m.get? k)) else m.get? k' :=
  lookup_alterEntries k f m.entries k'

theorem contains_alter (k' : κ) : (m.alter k f).contains k' = (k' == k || m.contains k') := by
  rw [contains, get?_alter, contains]
  cases k' == k <;> rfl

theorem lookup_isSome_iff {entries : List (κ × ν)} {k : κ} :
    (entries.lookup k).isSome = true ↔ k ∈ entries.map (·.1) := by
  induction entries with
  | nil => simp
  | cons entry rest ih =>
    by_cases h : k = entry.1
    · simp [h, lookup_first]
    · rw [lookup_rest rest h, ih, List.map_cons, List.mem_cons, or_iff_right h]

theorem contains_iff_mem_keys {m : OrderedMap κ ν} {k : κ} : m.contains k = true ↔ k ∈ m.keys :=
  lookup_isSome_iff

theorem keys_alterEntries (entries : List (κ × ν)) :
    (alterEntries k f entries).map (·.1) =
      if (entries.lookup k).isSome then entries.map (·.1) else entries.map (·.1) ++ [k] := by
  induction entries with
  | nil => rfl
  | cons entry rest ih =>
    by_cases h : k = entry.1
    · subst h
      simp [alterEntries, lookup_first]
    · rw [alterEntries, if_neg (by simpa using h), List.map_cons, ih, lookup_rest rest h]
      split <;> rfl

theorem keys_alter : (m.alter k f).keys = if m.contains k then m.keys else m.keys ++ [k] :=
  keys_alterEntries k f m.entries

/-- Where no key is twice, the values are those that are found by the keys. -/
theorem map_get?_keys {m : OrderedMap κ ν} (h : m.keys.Nodup) :
    m.keys.map m.get? = m.values.map some := by
  obtain ⟨entries⟩ := m
  simp only [keys, values] at h ⊢
  induction entries with
  | nil => rfl
  | cons entry rest ih =>
    obtain ⟨hNot, hRest⟩ := List.nodup_cons.mp h
    have hOthers : (rest.map (·.1)).map (get? ⟨entry :: rest⟩) =
        (rest.map (·.1)).map (get? ⟨rest⟩) := by
      refine List.map_congr_left fun k hk => lookup_rest rest ?_
      rintro rfl
      exact hNot hk
    rw [List.map_cons, List.map_cons, hOthers, ih hRest, get?, lookup_first]
    rfl

end Lemmas

end OrderedMap

end KotlinBackend
