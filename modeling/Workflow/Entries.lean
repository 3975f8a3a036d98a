/-!
# Keyed lists in order of insertion

Objects of a document, properties of a schema and headers of a request are all maps whose
order is seen by users: the keys stand in the order in which they were first put in. Such
a map is a list of pairs. `Entries.get?` reads it, `Entries.put` writes it, and
`Entries.Distinct` says that no key stands in it twice, which `Entries.put` keeps.
-/

namespace Workflow

/-- A map from texts, as a list of its pairs in order of insertion. -/
abbrev Entries (α : Type) := List (String × α)

namespace Entries

variable {α β : Type}

/-- The value at a key. -/
def get? : Entries α → String → Option α
  | [], _ => none
  | (k, v) :: rest, key => if k = key then some v else get? rest key

/-- Whether a key is in use. -/
def has (es : Entries α) (key : String) : Bool :=
  (get? es key).isSome

/-- The keys, in order. -/
def keys (es : Entries α) : List String :=
  es.map Prod.fst

/-- Puts a value at a key: in the place of the value that was there, otherwise at the
end. -/
def put : Entries α → String → α → Entries α
  | [], key, v => [(key, v)]
  | (k, old) :: rest, key, v =>
    if k = key then (k, v) :: rest else (k, old) :: put rest key v

/-- Puts all pairs of the second map into the first, in order. -/
def merge (es more : Entries α) : Entries α :=
  more.foldl (fun acc entry => put acc entry.1 entry.2) es

/-- The map with the pairs of a list put in one after the other. -/
def ofList (pairs : List (String × α)) : Entries α :=
  merge [] pairs

/-- Puts a value at a key that is not in use yet. -/
def putNew (es : Entries α) (key : String) (v : α) : Entries α :=
  if has es key then es else put es key v

/-- The map with every value replaced. -/
def mapValues (f : α → β) (es : Entries α) : Entries β :=
  es.map fun entry => (entry.1, f entry.2)

/-- No key stands twice. -/
def Distinct (es : Entries α) : Prop :=
  (keys es).Nodup

@[simp] theorem get?_nil (key : String) : get? ([] : Entries α) key = none := rfl

theorem get?_cons (k : String) (v : α) (es : Entries α) (key : String) :
    get? ((k, v) :: es) key = if k = key then some v else get? es key := rfl

theorem get?_put_self (es : Entries α) (key : String) (v : α) :
    get? (put es key v) key = some v := by
  induction es with
  | nil => simp [put, get?]
  | cons e es ih =>
    by_cases h : e.1 = key
    · simp [put, get?, h]
    · simpa [put, get?, h] using ih

theorem get?_put_ne (es : Entries α) {key other : String} (v : α) (h : other ≠ key) :
    get? (put es key v) other = get? es other := by
  induction es with
  | nil => simp [put, get?, Ne.symm h]
  | cons e es ih =>
    obtain ⟨k, old⟩ := e
    by_cases hk : k = key
    · simp [put, get?, hk, Ne.symm h]
    · by_cases ho : k = other
      · simp [put, get?, ho, h]
      · simpa [put, get?, hk, ho] using ih

theorem keys_put (es : Entries α) (key : String) (v : α) :
    keys (put es key v) = if key ∈ keys es then keys es else keys es ++ [key] := by
  induction es with
  | nil => simp [put, keys]
  | cons e es ih =>
    by_cases h : e.1 = key
    · simp [put, keys, h]
    · have h' : ¬ key = e.1 := fun he => h he.symm
      simp only [keys] at ih
      by_cases hm : key ∈ es.map Prod.fst
      · simp [put, keys, h, hm, ih]
      · simp [put, keys, h, h', hm, ih]

/-- **Putting a value in keeps the keys distinct.** -/
theorem Distinct.put {es : Entries α} (h : Distinct es) (key : String) (v : α) :
    Distinct (put es key v) := by
  unfold Distinct at *
  rw [keys_put]
  split
  · exact h
  · rename_i hk
    refine List.nodup_append.2 ⟨h, by simp, ?_⟩
    intro a ha b hb
    simp only [List.mem_singleton] at hb
    subst hb
    exact fun he => hk (he ▸ ha)

end Entries

end Workflow
