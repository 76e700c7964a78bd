namespace PgMetrics

/-- Values by name, in ascending order of the names. -/
structure Table (α : Type) where
  entries : List (String × α)
  sorted : entries.Pairwise (fun a b => a.1 < b.1)

namespace Table

variable {α : Type}

def empty : Table α :=
  ⟨[], .nil⟩

instance : Inhabited (Table α) := ⟨empty⟩

/-- Puts an entry in its place among sorted ones, over an entry of the same name. -/
def insertEntry (name : String) (value : α) : List (String × α) → List (String × α)
  | [] => [(name, value)]
  | e :: es =>
    if name < e.1 then (name, value) :: e :: es
    else if name = e.1 then (name, value) :: es
    else e :: insertEntry name value es

theorem mem_insertEntry {name : String} {value : α} {e : String × α} {es : List (String × α)}
    (h : e ∈ insertEntry name value es) : e = (name, value) ∨ e ∈ es := by
  induction es with
  | nil => exact Or.inl (by simpa [insertEntry] using h)
  | cons d ds ih => grind [insertEntry]

theorem lt_of_not_lt_of_ne {a b : String} (lt : ¬a < b) (ne : a ≠ b) : b < a :=
  String.not_le.1 fun h => ne (String.le_antisymm h (String.not_lt.1 lt))

theorem insertEntry_sorted (name : String) (value : α) {es : List (String × α)}
    (h : es.Pairwise (fun a b => a.1 < b.1)) :
    (insertEntry name value es).Pairwise (fun a b => a.1 < b.1) := by
  induction es with
  | nil => simp [insertEntry]
  | cons d ds ih =>
    rw [List.pairwise_cons] at h
    simp only [insertEntry]
    split
    · rename_i lt
      refine .cons (fun e he => ?_) (.cons h.1 h.2)
      rcases List.mem_cons.1 he with rfl | he
      · exact lt
      · exact String.lt_trans lt (h.1 e he)
    · split
      · rename_i eq
        exact .cons (fun e he => by simpa [eq] using h.1 e he) h.2
      · rename_i lt ne
        refine .cons (fun e he => ?_) (ih h.2)
        rcases mem_insertEntry he with rfl | he
        · exact lt_of_not_lt_of_ne lt ne
        · exact h.1 e he

def insert (t : Table α) (name : String) (value : α) : Table α :=
  ⟨insertEntry name value t.entries, insertEntry_sorted name value t.sorted⟩

def get? (t : Table α) (name : String) : Option α :=
  t.entries.lookup name

def contains (t : Table α) (name : String) : Bool :=
  (t.get? name).isSome

def erase (t : Table α) (name : String) : Table α :=
  ⟨t.entries.filter (·.1 != name), t.sorted.filter _⟩

def keys (t : Table α) : List String :=
  t.entries.map (·.1)

def size (t : Table α) : Nat :=
  t.entries.length

/-- Entries put in one after the other, so the last entry of a name counts. -/
def ofList (entries : List (String × α)) : Table α :=
  entries.foldl (fun t e => t.insert e.1 e.2) empty

/-- The entries of a second table over those of a first. -/
def extend (t u : Table α) : Table α :=
  u.entries.foldl (fun t e => t.insert e.1 e.2) t

/-- Another value under each name. -/
def mapValues {β : Type} (f : String → α → β) (t : Table α) : Table β :=
  ⟨t.entries.map (fun e => (e.1, f e.1 e.2)), by
    rw [List.pairwise_map]
    exact t.sorted⟩

/-- Another value under each name, or none. -/
def filterMap {β : Type} (f : String → α → Option β) (t : Table α) : Table β :=
  ⟨t.entries.filterMap fun e => (f e.1 e.2).map (e.1, ·), by
    rw [List.pairwise_filterMap]
    refine t.sorted.imp fun lt a atA b atB => ?_
    obtain ⟨_, _, rfl⟩ := Option.map_eq_some_iff.1 atA
    obtain ⟨_, _, rfl⟩ := Option.map_eq_some_iff.1 atB
    exact lt⟩

@[simp] theorem get?_empty (name : String) : (empty : Table α).get? name = none := rfl

theorem lookup_insertEntry (name key : String) (value : α) (es : List (String × α))
    (h : es.Pairwise (fun a b => a.1 < b.1)) :
    (insertEntry name value es).lookup key = if key = name then some value else es.lookup key := by
  induction es with
  | nil => grind [insertEntry]
  | cons d ds ih =>
    rw [List.pairwise_cons] at h
    simp only [insertEntry]
    have := ih h.2
    split
    · grind
    · split <;> grind

theorem get?_insert (t : Table α) (name key : String) (value : α) :
    (t.insert name value).get? key = if key = name then some value else t.get? key :=
  lookup_insertEntry name key value t.entries t.sorted

@[simp] theorem get?_insert_self (t : Table α) (name : String) (value : α) :
    (t.insert name value).get? name = some value := by
  simp [get?_insert]

theorem get?_insert_of_ne (t : Table α) {name key : String} (value : α) (h : key ≠ name) :
    (t.insert name value).get? key = t.get? key := by
  simp [get?_insert, h]

theorem get?_erase (t : Table α) (name key : String) :
    (t.erase name).get? key = if key = name then none else t.get? key := by
  simp only [get?, erase]
  induction t.entries with
  | nil => simp
  | cons e es ih => grind

theorem mem_entries_iff (t : Table α) {name : String} {value : α} :
    (name, value) ∈ t.entries ↔ t.get? name = some value := by
  obtain ⟨es, sorted⟩ := t
  simp only [get?]
  induction es with
  | nil => simp
  | cons e es ih =>
    rw [List.pairwise_cons] at sorted
    have := ih sorted.2
    have irrefl := String.lt_irrefl name
    by_cases h : name = e.1
    · have absent : (name, value) ∉ es := fun m => by
        have := sorted.1 _ m
        simp only [← h] at this
        exact irrefl this
      obtain ⟨k, v⟩ := e
      simp only at h
      subst h
      simp [absent, eq_comm]
    · obtain ⟨k, v⟩ := e
      have hk : (name == k) = false := by simpa using h
      simp only [List.mem_cons, Prod.mk.injEq, List.lookup_cons, hk]
      grind

theorem mem_keys_iff (t : Table α) {name : String} : name ∈ t.keys ↔ t.contains name = true := by
  simp only [keys, contains, Option.isSome_iff_exists, ← mem_entries_iff]
  simp

/-- Sorted entries are equal once they have the same members. -/
theorem ext_get? {t u : Table α} (h : ∀ name, t.get? name = u.get? name) : t = u := by
  have mem : ∀ e, e ∈ t.entries ↔ e ∈ u.entries := fun e => by
    rw [show e = (e.1, e.2) from rfl, mem_entries_iff, mem_entries_iff, h]
  obtain ⟨es, hes⟩ := t
  obtain ⟨ds, hds⟩ := u
  simp only [mk.injEq]
  simp only at mem
  clear h
  induction es generalizing ds with
  | nil =>
    cases ds with
    | nil => rfl
    | cons d ds => exact absurd ((mem d).2 (List.mem_cons_self ..)) (by simp)
  | cons e es ih =>
    cases ds with
    | nil => exact absurd ((mem e).1 (List.mem_cons_self ..)) (by simp)
    | cons d ds =>
      rw [List.pairwise_cons] at hes hds
      have asymm : ∀ {a b : String}, a < b → ¬b < a := fun h h' =>
        String.lt_irrefl _ (String.lt_trans h h')
      have head : e = d := by
        rcases List.mem_cons.1 ((mem e).1 (List.mem_cons_self ..)) with h | h
        · exact h
        · rcases List.mem_cons.1 ((mem d).2 (List.mem_cons_self ..)) with h' | h'
          · exact h'.symm
          · exact absurd (hds.1 e h) (asymm (hes.1 d h'))
      subst head
      have tails : ∀ x, x ∈ es ↔ x ∈ ds := fun x => by
        constructor <;> intro hx
        · rcases List.mem_cons.1 ((mem x).1 (List.mem_cons_of_mem _ hx)) with rfl | h
          · exact absurd (hes.1 x hx) (String.lt_irrefl _)
          · exact h
        · rcases List.mem_cons.1 ((mem x).2 (List.mem_cons_of_mem _ hx)) with rfl | h
          · exact absurd (hds.1 x hx) (String.lt_irrefl _)
          · exact h
      rw [ih hes.2 ds hds.2 tails]

theorem get?_foldl_insert (es : List (String × α)) (t : Table α) (name : String) :
    (es.foldl (fun t e => t.insert e.1 e.2) t).get? name = (es.reverse.lookup name).or (t.get? name) := by
  induction es generalizing t with
  | nil => rfl
  | cons e es ih =>
    obtain ⟨key, value⟩ := e
    rw [List.foldl_cons, ih, get?_insert, List.reverse_cons, List.lookup_append, Option.or_assoc]
    congr 1
    by_cases same : name = key
    · simp [same]
    · simp [List.lookup_cons, same, beq_eq_false_iff_ne.2 same]

/-- The last entry of a name counts. -/
theorem get?_ofList (es : List (String × α)) (name : String) : (ofList es).get? name = es.reverse.lookup name := by
  rw [ofList, get?_foldl_insert, get?_empty, Option.or_none]

theorem mem_of_lookup_reverse {es : List (String × α)} {name : String} {value : α}
    (h : es.reverse.lookup name = some value) : (name, value) ∈ es := by
  obtain ⟨before, after, split, -⟩ := List.lookup_eq_some_iff.1 h
  rw [← List.mem_reverse, split]
  simp

theorem mem_of_get?_ofList {es : List (String × α)} {name : String} {value : α}
    (h : (ofList es).get? name = some value) : (name, value) ∈ es :=
  mem_of_lookup_reverse (by rwa [get?_ofList] at h)

/-- An entry counts if its name does not come again. -/
theorem get?_ofList_last {before after : List (String × α)} {name : String} {value : α}
    (last : name ∉ after.map (·.1)) : (ofList (before ++ (name, value) :: after)).get? name = some value := by
  have later : after.reverse.lookup name = none := by
    rw [List.lookup_eq_none_iff]
    intro e member
    rw [List.mem_reverse] at member
    simp only [bne_iff_ne, ne_eq]
    rintro rfl
    exact last (List.mem_map_of_mem member)
  simp [get?_ofList, List.lookup_append, later]

theorem contains_ofList (es : List (String × α)) (name : String) :
    (ofList es).contains name = true ↔ name ∈ es.map (·.1) := by
  rw [contains, Option.isSome_iff_exists, List.mem_map]
  constructor
  · rintro ⟨value, atName⟩
    exact ⟨_, mem_of_get?_ofList atName, rfl⟩
  · rintro ⟨e, member, rfl⟩
    rw [← Option.isSome_iff_exists, ← Option.ne_none_iff_isSome, get?_ofList]
    intro absent
    simpa using List.lookup_eq_none_iff.1 absent e (List.mem_reverse.2 member)

/-- No name has two entries, so they may as well be looked through from the end. -/
theorem lookup_reverse_entries (t : Table α) (name : String) : t.entries.reverse.lookup name = t.get? name := by
  cases last : t.entries.reverse.lookup name with
  | some value => exact (t.mem_entries_iff.1 (mem_of_lookup_reverse last)).symm
  | none =>
    symm
    rw [get?, List.lookup_eq_none_iff]
    simpa using last

@[simp] theorem ofList_entries (t : Table α) : ofList t.entries = t :=
  ext_get? fun name => by rw [get?_ofList, lookup_reverse_entries]

/-- What the second table has for a name counts. -/
theorem get?_extend (t u : Table α) (name : String) : (t.extend u).get? name = (u.get? name).or (t.get? name) := by
  rw [extend, get?_foldl_insert, lookup_reverse_entries]

theorem lookup_mapValues {β : Type} (f : String → α → β) (es : List (String × α)) (name : String) :
    (es.map fun e => (e.1, f e.1 e.2)).lookup name = (es.lookup name).map (f name) := by
  induction es with
  | nil => rfl
  | cons e es ih =>
    obtain ⟨key, value⟩ := e
    by_cases same : name = key
    · simp [same]
    · simp [List.lookup_cons, beq_eq_false_iff_ne.2 same, ih]

theorem get?_mapValues {β : Type} (f : String → α → β) (t : Table α) (name : String) :
    (t.mapValues f).get? name = (t.get? name).map (f name) :=
  lookup_mapValues f t.entries name

@[simp] theorem keys_mapValues {β : Type} (f : String → α → β) (t : Table α) : (t.mapValues f).keys = t.keys := by
  simp [keys, mapValues]

/-- Keys are sorted, so it is enough that the same ones are there. -/
theorem keys_eq {β : Type} {t : Table α} {u : Table β} (same : ∀ name, t.contains name = u.contains name) :
    t.keys = u.keys := by
  have units : (t.mapValues fun _ _ => ()) = u.mapValues fun _ _ => () := by
    refine ext_get? fun name => ?_
    have atName := same name
    rw [contains, contains] at atName
    rw [get?_mapValues, get?_mapValues]
    cases first : t.get? name <;> cases second : u.get? name <;> simp_all
  rw [← keys_mapValues (fun _ _ => ()) t, units, keys_mapValues]

theorem get?_filterMap {β : Type} (f : String → α → Option β) (t : Table α) (name : String) :
    (t.filterMap f).get? name = (t.get? name).bind (f name) := by
  refine Option.ext fun value => ?_
  rw [← mem_entries_iff, Option.bind_eq_some_iff]
  simp only [← mem_entries_iff, filterMap, List.mem_filterMap, Option.map_eq_some_iff, Prod.mk.injEq, Prod.exists]
  constructor
  · rintro ⟨key, a, member, _, atKey, rfl, rfl⟩
    exact ⟨a, member, atKey⟩
  · rintro ⟨a, member, atName⟩
    exact ⟨name, a, member, value, atName, rfl, rfl⟩

/-- Of things with the same name the last counts. -/
theorem get?_ofList_map {β : Type} (key : α → String) (f : α → β) (as : List α) (name : String) :
    (ofList (as.map fun a => (key a, f a))).get? name = (as.reverse.find? (key · == name)).map f := by
  rw [get?_ofList, ← List.map_reverse]
  induction as.reverse with
  | nil => rfl
  | cons a as ih =>
    by_cases same : key a = name
    · simp [same]
    · simp [List.lookup_cons, beq_eq_false_iff_ne.2 same, beq_eq_false_iff_ne.2 (Ne.symm same), ih]

end Table

end PgMetrics
