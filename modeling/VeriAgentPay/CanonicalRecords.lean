import Mathlib.Data.Finmap
import Mathlib.Data.Finset.Sort
import Mathlib.Logic.Function.Basic

/-!
# Records listed by their keys

A record has one value for each of its keys. Listing the entries in the order of the keys forgets
the order in which they were set and nothing else.
-/

namespace VeriAgentPay.CanonicalRecords

variable {α β : Type*} [LinearOrder α]

abbrev Record (α β : Type*) := Finmap fun _ : α => β

namespace Record
variable {r r' : Record α β} {key : α} {value : β}

/-- The entries under the keys that `p` selects, in the order of the keys. -/
def listed (r : Record α β) (p : α → Bool) : List (α × β) :=
  ((r.keys.filter (p ·)).sort (· ≤ ·)).filterMap fun key => (r.lookup key).map (key, ·)

def entries (r : Record α β) : List (α × β) := r.listed fun _ => true

theorem mem_listed {p : α → Bool} :
    (key, value) ∈ r.listed p ↔ p key = true ∧ r.lookup key = some value := by
  simp only [listed, List.mem_filterMap, Finset.mem_sort, Finset.mem_filter, Finmap.mem_keys,
    Option.map_eq_some_iff, Prod.mk.injEq]
  constructor
  · rintro ⟨other, ⟨_, hp⟩, found, hfound, rfl, rfl⟩
    exact ⟨hp, hfound⟩
  · rintro ⟨hp, hfound⟩
    exact ⟨key, ⟨Finmap.mem_of_lookup_eq_some hfound, hp⟩, value, hfound, rfl, rfl⟩

theorem mem_entries : (key, value) ∈ r.entries ↔ r.lookup key = some value := by
  simp [entries, mem_listed]

theorem entries_injective : Function.Injective (entries : Record α β → List (α × β)) := by
  intro r r' h
  refine Finmap.ext_lookup fun key => Option.ext fun value => ?_
  rw [← mem_entries, h, mem_entries]

/-- Nothing is left out of a record that has selected keys only. -/
theorem listed_eq_entries {p : α → Bool} (h : ∀ key ∈ r, p key = true) :
    r.listed p = r.entries := by
  have hkeys : r.keys.filter (p ·) = r.keys.filter (fun _ => true) := by
    refine Finset.filter_congr fun key hkey => ?_
    simp [h key (Finmap.mem_keys.mp hkey)]
  simp only [listed, entries, hkeys]

theorem lookup_insert {other : α} :
    Finmap.lookup other (Finmap.insert key value r) = if other = key then some value
      else r.lookup other := by
  split
  · next h => rw [h, Finmap.lookup_insert]
  · next h => rw [Finmap.lookup_insert_of_ne _ h]

/-- `record[key] = value`, where there is a value. -/
def insertSome (key : α) (value : Option β) (r : Record α β) : Record α β :=
  match value with
  | some value => r.insert key value
  | none => r

theorem lookup_insertSome {other : α} {value : Option β} :
    Finmap.lookup other (insertSome key value r) = if other = key then value <|> r.lookup other
      else r.lookup other := by
  cases value with
  | none => simp [insertSome]
  | some value => simp [insertSome, lookup_insert]

/-- The record of what `value` gives for each of the keys. -/
def collect (value : α → Option β) (keys : List α) : Record α β :=
  keys.foldl (fun r key => r.insertSome key (value key)) ∅

theorem lookup_collect {value : α → Option β} {keys : List α} :
    (collect value keys).lookup key = if key ∈ keys then value key else none := by
  have hfold (r : Record α β) :
      (keys.foldl (fun r key => r.insertSome key (value key)) r).lookup key =
      if key ∈ keys then value key <|> r.lookup key else r.lookup key := by
    induction keys generalizing r with
    | nil => simp
    | cons first rest ih =>
      rw [List.foldl_cons, ih, lookup_insertSome]
      by_cases hfirst : key = first
      · subst hfirst
        cases value key <;> simp
      · simp [hfirst]
  rw [collect, hfold]
  simp

/-- The record that a list of entries is read as. -/
def ofEntries (l : List (α × β)) : Record α β := l.foldr (fun entry r => r.insert entry.1 entry.2) ∅

theorem lookup_ofEntries_cons {l : List (α × β)} {other : α} :
    Finmap.lookup other (ofEntries ((key, value) :: l)) = if other = key then some value
      else (ofEntries l).lookup other := by
  rw [ofEntries, List.foldr_cons, lookup_insert]
  rfl

theorem lookup_ofEntries_append {l l' : List (α × β)} :
    (ofEntries (l ++ l')).lookup key =
      ((ofEntries l).lookup key <|> (ofEntries l').lookup key) := by
  induction l with
  | nil => simp [ofEntries]
  | cons entry l ih =>
    rw [List.cons_append, lookup_ofEntries_cons, lookup_ofEntries_cons, ih]
    split <;> simp

theorem lookup_ofEntries_of_agree {l : List (α × β)} {f : α → Option β}
    (h : ∀ entry ∈ l, f entry.1 = some entry.2) :
    (ofEntries l).lookup key = if key ∈ l.map Prod.fst then f key else none := by
  induction l with
  | nil => simp [ofEntries]
  | cons entry l ih =>
    have hrest := ih fun entry hentry => h entry (List.mem_cons_of_mem _ hentry)
    rw [lookup_ofEntries_cons, hrest]
    by_cases hkey : key = entry.1
    · subst hkey
      simp [h entry]
    · simp only [List.map_cons, List.mem_cons, hkey, false_or, if_false]

/-- A record is read back from its entries. -/
theorem ofEntries_entries : ofEntries r.entries = r := by
  refine Finmap.ext_lookup fun key => ?_
  rw [lookup_ofEntries_of_agree (f := r.lookup) fun entry hentry => mem_entries.mp hentry]
  split
  · rfl
  · next hkey =>
    refine (Option.eq_none_iff_forall_ne_some.mpr fun value hvalue => hkey ?_).symm
    exact List.mem_map.mpr ⟨(key, value), mem_entries.mpr hvalue, rfl⟩

end Record

end VeriAgentPay.CanonicalRecords
