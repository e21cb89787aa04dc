/-!
# Entries in order of insertion

A list of keyed values in which every key stands once. Putting a value under a
key that is present replaces the value and keeps the place; a new key goes to
the end.

The main statement says what a lookup finds after a put.
-/

namespace Concordance

universe u

/-- Values under text keys, in order of insertion. -/
abbrev Entries (α : Type u) := List (String × α)

namespace Entries

variable {α : Type u}

/-- The value under a key. -/
def get? : Entries α -> String -> Option α
  | [], _ => none
  | (name, value) :: rest, key => if name = key then some value else get? rest key

/-- Whether a key is present. -/
def has (entries : Entries α) (key : String) : Bool :=
  (get? entries key).isSome

/-- Put a value under a key. -/
def put : Entries α -> String -> α -> Entries α
  | [], key, value => [(key, value)]
  | (name, current) :: rest, key, value =>
      if name = key then (name, value) :: rest else (name, current) :: put rest key value

/-- The entries of a list of pairs, later pairs replacing earlier ones. -/
def ofPairs (pairs : List (String × α)) : Entries α :=
  pairs.foldl (fun entries (key, value) => put entries key value) []

/-- The keys in order. -/
def keys (entries : Entries α) : List String :=
  entries.map Prod.fst

@[simp] theorem get?_nil (key : String) : get? ([] : Entries α) key = none := rfl

@[simp] theorem get?_cons
    (name key : String)
    (value : α)
    (rest : Entries α) :
    get? ((name, value) :: rest) key =
      if name = key then some value else get? rest key := rfl

/-- The first of two lists that has a key gives its value. -/
theorem get?_append
    (first second : Entries α)
    (key : String) :
    get? (first ++ second) key = (get? first key).or (get? second key) := by
  induction first with
  | nil => rfl
  | cons entry rest inductionHypothesis =>
      obtain ⟨name, value⟩ := entry
      by_cases found : name = key <;> simp [found, inductionHypothesis]

/-- A put is seen under its own key and under no other. -/
theorem get?_put
    (entries : Entries α)
    (key other : String)
    (value : α) :
    get? (put entries key value) other =
      if key = other then some value else get? entries other := by
  induction entries with
  | nil => rfl
  | cons entry rest inductionHypothesis =>
      obtain ⟨name, current⟩ := entry
      by_cases same : name = key
      · subst same
        by_cases found : name = other <;> simp [put, found]
      · by_cases found : name = other
        · subst found
          simp [put, same, Ne.symm same]
        · simp [put, same, found, inductionHypothesis]

end Entries
end Concordance
